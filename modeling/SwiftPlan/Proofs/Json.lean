import SwiftPlan.Proofs.Outcome

/-!
# Settled documents

In an object each name says one thing.  The type of JSON values does not demand it, but no other
value comes out of reading a text: members of one name are settled as soon as an object has been
read, and everything inside of it was read before (`settled_ofText`).

What the readers answer is proved for a text on the assumption that it holds of all shorter ones:
every reader leaves less than it was given.
-/

namespace SwiftPlan.Json

/-- No object in the value has two members of one name. -/
inductive Settled : Json → Prop where
  | null : Settled .null
  | bool (value : Bool) : Settled (.bool value)
  | number (text : String) : Settled (.number text)
  | string (text : String) : Settled (.string text)
  | array {items : List Json} (h : ∀ item ∈ items, Settled item) : Settled (.array items)
  | object {members : List (String × Json)} (hnames : (members.map (·.1)).Nodup)
      (h : ∀ member ∈ members, Settled member.2) : Settled (.object members)

variable {text : List Char} {members : List (String × Json)}

/-! ## Objects -/

lemma settled_put {name : String} {value : Json} (hvalue : value.Settled)
    (h : ∀ member ∈ members, member.2.Settled) :
    ∀ member ∈ Json.put members name value, member.2.Settled := by
  rw [Json.put]
  split
  · intro member hmember
    obtain ⟨⟨other, old⟩, hother, rfl⟩ := List.mem_map.1 hmember
    dsimp only
    split
    · exact hvalue
    · exact h _ hother
  · exact List.forall_mem_append.2 ⟨h, by simpa using hvalue⟩

lemma settled_settle (h : ∀ member ∈ members, member.2.Settled) :
    ∀ member ∈ Json.settle members, member.2.Settled := by
  have hfold (object : List (String × Json)) (hobject : ∀ member ∈ object, member.2.Settled) :
      ∀ member ∈ members.foldl (fun object given => Json.put object given.1 given.2) object,
        member.2.Settled := by
    induction members generalizing object with
    | nil => exact hobject
    | cons member rest ih =>
      obtain ⟨hfirst, hrest⟩ := List.forall_mem_cons.1 h
      exact ih hrest _ (settled_put hfirst hobject)
  exact hfold [] (by simp)

/-- An object of settled values is settled when its members are. -/
lemma settled_ofMembers (h : ∀ member ∈ members, member.2.Settled) :
    (Json.ofMembers members).Settled :=
  .object (Json.nodup_settle members) (settled_settle h)

/-! ## Reading -/

/-- What is read of a text is settled. -/
def ReadsSettled (text : List Char) : Prop :=
  (∀ result, readValue text = .ok result → result.1.1.Settled) ∧
    (∀ result, readMembers text = .ok result → ∀ member ∈ result.1.1, member.2.Settled) ∧
    ∀ result, readItems text = .ok result → ∀ item ∈ result.1.1, item.Settled

lemma settled_readScalar {result : { result : Json × List Char // result.2.length < text.length }}
    (h : readScalar text = .ok result) : result.1.1.Settled := by
  unfold readScalar at h
  split at h
  · next value rest hname =>
    obtain rfl := Except.ok.inj h
    obtain ⟨⟨name, value⟩, hmem, hvalue⟩ := List.exists_of_findSome?_eq_some hname
    dsimp only at hvalue
    split at hvalue
    · obtain ⟨rfl, -⟩ := Prod.mk.inj (Option.some.inj hvalue)
      simp only [names, List.mem_cons, Prod.mk.injEq, List.not_mem_nil, or_false] at hmem
      rcases hmem with ⟨-, rfl⟩ | ⟨-, rfl⟩ | ⟨-, rfl⟩ | ⟨-, rfl⟩ | ⟨-, rfl⟩ | ⟨-, rfl⟩ <;> constructor
    · cases hvalue
  · split at h
    · obtain rfl := Except.ok.inj h
      exact .number _
    · cases h

section

variable (ih : ∀ rest : List Char, rest.length < text.length → ReadsSettled rest)

include ih

lemma settled_readValue {result : { result : Json × List Char // result.2.length < text.length }}
    (h : readValue text = .ok result) : result.1.1.Settled := by
  unfold readValue at h
  split at h
  · split at h
    · cases h
    · obtain rfl := Except.ok.inj h
      exact .string _
  · next rest =>
    have hrest := length_skip_le rest
    dsimp only at h
    split at h
    · obtain rfl := Except.ok.inj h
      exact .array (by simp)
    · split at h
      · cases h
      · next hitems =>
        obtain rfl := Except.ok.inj h
        exact .array ((ih _ (by simp; omega)).2.2 _ hitems)
  · next rest =>
    have hrest := length_skip_le rest
    dsimp only at h
    split at h
    · obtain rfl := Except.ok.inj h
      exact .object List.nodup_nil (by simp)
    · split at h
      · cases h
      · next hmembers =>
        obtain rfl := Except.ok.inj h
        exact settled_ofMembers ((ih _ (by simp; omega)).2.1 _ hmembers)
  · exact settled_readScalar h

lemma settled_readItems
    {result : { result : List Json × List Char // result.2.length < text.length }}
    (h : readItems text = .ok result) : ∀ item ∈ result.1.1, item.Settled := by
  unfold readItems at h
  split at h
  · cases h
  · next value rest hshorter hvalue =>
    have hfirst : value.Settled := settled_readValue ih hvalue
    dsimp only at h
    split at h
    · obtain rfl := Except.ok.inj h
      simpa using hfirst
    · next next hnext =>
      split at h
      · cases h
      · next hitems =>
        obtain rfl := Except.ok.inj h
        have hrest := length_skip_le rest
        have hlater := length_skip_le next
        simp only [hnext, List.length_cons] at hrest hshorter
        exact List.forall_mem_cons.2 ⟨hfirst, (ih _ (by omega)).2.2 _ hitems⟩
    · cases h

lemma settled_readMembers
    {result : { result : List (String × Json) × List Char // result.2.length < text.length }}
    (h : readMembers text = .ok result) : ∀ member ∈ result.1.1, member.2.Settled := by
  unfold readMembers at h
  split at h
  · next nameText =>
    split at h
    · cases h
    · next name rest hname _ =>
      dsimp only at h
      split at h
      · next valueText hcolon =>
        have hrest := length_skip_le rest
        have hlater := length_skip_le valueText
        simp only [hcolon, List.length_cons] at hrest hname
        split at h
        · cases h
        · next value rest' hshorter hvalue =>
          have hfirst : value.Settled :=
            (ih _ (by simp only [List.length_cons]; omega)).1 _ hvalue
          split at h
          · obtain rfl := Except.ok.inj h
            simpa using hfirst
          · next next hcomma =>
            split at h
            · cases h
            · next hmembers =>
              obtain rfl := Except.ok.inj h
              have hrest' := length_skip_le rest'
              have hlast := length_skip_le next
              simp only [hcomma, List.length_cons] at hrest' hshorter
              refine List.forall_mem_cons.2 ⟨hfirst, (ih _ ?_).2.1 _ hmembers⟩
              simp only [List.length_cons]
              omega
          · cases h
      · cases h
  · cases h

end

lemma readsSettled (text : List Char) : ReadsSettled text :=
  have ih (rest : List Char) (_ : rest.length < text.length) : ReadsSettled rest :=
    readsSettled rest
  ⟨fun _ h => settled_readValue ih h, fun _ h => settled_readMembers ih h,
    fun _ h => settled_readItems ih h⟩
termination_by text.length

/-- Whatever comes of reading a text is settled. -/
lemma settled_ofText {document : Json} (h : ofText text = .ok document) : document.Settled := by
  have hread : readDocument text = .ok document := mapError_eq_ok.1 h
  unfold readDocument at hread
  split at hread
  · cases hread
  · split at hread
    · cases hread
    · next hvalue =>
      split at hread
      · obtain rfl := Except.ok.inj hread
        exact (readsSettled _).1 _ hvalue
      · cases hread

end SwiftPlan.Json
