/-!
# Beginnings and endings of texts

`after? lead text` is what follows `lead` in `text` when `text` begins with it, and
`before? tail text` is what precedes `tail` when `text` ends with it. The main statements say that
these are exactly the two ways to take a text apart: `after?_eq_some_iff` and
`before?_eq_some_iff`.
-/

namespace SwiftPlan.Text

/-- What follows `lead`, if the text begins with it. -/
def afterChars? : List Char → List Char → Option (List Char)
  | [], text => some text
  | _ :: _, [] => none
  | l :: lead, c :: text => if l = c then afterChars? lead text else none

theorem afterChars?_eq_some_iff {lead text rest : List Char} :
    afterChars? lead text = some rest ↔ text = lead ++ rest := by
  fun_induction afterChars? lead text with
  | case1 => simp
  | case2 => simp
  | case3 l lead text ih => simp [ih]
  | case4 l lead c text h => simp [Ne.symm h]

/-- What follows `lead` in `text`, if `text` begins with it. -/
def after? (lead text : String) : Option String :=
  (afterChars? lead.toList text.toList).map String.ofList

theorem after?_eq_some_iff {lead text rest : String} :
    after? lead text = some rest ↔ text = lead ++ rest := by
  rw [after?, Option.map_eq_some_iff]
  constructor
  · rintro ⟨cs, h, rfl⟩
    rw [← String.toList_inj]
    simpa [afterChars?_eq_some_iff] using h
  · rintro rfl
    exact ⟨rest.toList, by simp [afterChars?_eq_some_iff], by simp⟩

/-- Whether `text` begins with `lead`. -/
def beginsWith (lead text : String) : Bool :=
  (after? lead text).isSome

/-- What precedes `tail` in `text`, if `text` ends with it. -/
def before? (tail text : String) : Option String :=
  (afterChars? tail.toList.reverse text.toList.reverse).map fun cs => String.ofList cs.reverse

theorem before?_eq_some_iff {tail text rest : String} :
    before? tail text = some rest ↔ text = rest ++ tail := by
  rw [before?, Option.map_eq_some_iff]
  constructor
  · rintro ⟨cs, h, rfl⟩
    rw [afterChars?_eq_some_iff] at h
    rw [← String.toList_inj]
    have := congrArg List.reverse h
    simpa using this
  · rintro rfl
    exact ⟨rest.toList.reverse, by simp [afterChars?_eq_some_iff], by simp⟩

end SwiftPlan.Text
