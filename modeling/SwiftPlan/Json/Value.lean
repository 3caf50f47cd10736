/-!
# JSON values

The values that a JSON document can hold. The members of an object keep their order, and no two of
them have the same name. Numbers are kept as they are written.
-/

namespace SwiftPlan

/-- A JSON value. -/
inductive Json where
  | null
  | bool (value : Bool)
  | number (text : String)
  | string (text : String)
  | array (items : List Json)
  | object (members : List (String × Json))

/-- Gives `name` the value `value`. A member of this name keeps its place, a new one comes
last. -/
def Json.put (members : List (String × Json)) (name : String) (value : Json) :
    List (String × Json) :=
  if members.any (·.1 == name) then
    members.map fun (n, v) => if n = name then (n, value) else (n, v)
  else members ++ [(name, value)]

/-- The names after `put` are the names before it, with the new one at the end if there was none
like it. -/
theorem Json.map_fst_put (members : List (String × Json)) (name : String) (value : Json) :
    (Json.put members name value).map (·.1) =
      if name ∈ members.map (·.1) then members.map (·.1) else members.map (·.1) ++ [name] := by
  have hmem : members.any (·.1 == name) = true ↔ name ∈ members.map (·.1) := by
    simp [List.any_eq_true]
  unfold Json.put
  by_cases h : name ∈ members.map (·.1)
  · rw [if_pos (hmem.2 h), if_pos h, List.map_map]
    refine List.map_congr_left fun member _ => ?_
    by_cases hn : member.1 = name <;> simp [hn]
  · rw [if_neg (mt hmem.1 h), if_neg h, List.map_append]
    rfl

/-- Members whose names differ still do after `put`. -/
theorem Json.nodup_put {members : List (String × Json)} (h : (members.map (·.1)).Nodup)
    (name : String) (value : Json) : ((Json.put members name value).map (·.1)).Nodup := by
  rw [Json.map_fst_put]
  split
  · exact h
  · next hn =>
    rw [List.nodup_append]
    refine ⟨h, by simp, fun a ha b hb hab => hn ?_⟩
    obtain rfl : b = name := by simpa using hb
    exact hab ▸ ha

/-- The members with each name only once. Of several members of one name the last one gives the
value and the first one the place. -/
def Json.settle (members : List (String × Json)) : List (String × Json) :=
  members.foldl (fun object (name, value) => Json.put object name value) []

/-- The names of settled members differ. -/
theorem Json.nodup_settle (members : List (String × Json)) :
    ((Json.settle members).map (·.1)).Nodup := by
  have hfold (object : List (String × Json)) (h : (object.map (·.1)).Nodup) :
      ((members.foldl (fun object (name, value) => Json.put object name value) object).map
        (·.1)).Nodup := by
    induction members generalizing object with
    | nil => exact h
    | cons member rest ih => exact ih _ (Json.nodup_put h member.1 member.2)
  exact hfold [] List.nodup_nil

/-- The object with these members, of which those of one name count as one. -/
def Json.ofMembers (members : List (String × Json)) : Json :=
  .object (Json.settle members)

end SwiftPlan
