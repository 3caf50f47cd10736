import SwiftPlan.Options.Spec
import SwiftPlan.Text.Affix

/-!
# Option tables

A table holds options with different spellings. `lookup?` finds the option that a token starts
with: the one that is spelled exactly like the token, and otherwise the one with the longest
spelling among those whose value may stand directly behind it. Since spellings differ, at most one
option of each length begins the token, and the order of the table does not matter.
-/

namespace SwiftPlan

/-- Options of which no two have the same spelling. -/
structure OptionTable where
  options : List OptionSpec
  nodup_spelling : (options.map (·.spelling)).Nodup

/-- Two options of a table would have the same spelling. -/
structure DuplicateSpelling where
  spelling : String
  deriving DecidableEq, Repr

/-- How a duplicate spelling is shown. -/
def DuplicateSpelling.message (error : DuplicateSpelling) : String :=
  "duplicate option spelling '" ++ error.spelling ++ "'"

namespace OptionTable

/-- The first text of a list that is in `seen` or repeats an earlier one. -/
def firstRepeat? (seen : List String) : List String → Option String
  | [] => none
  | text :: rest => if text ∈ seen then some text else firstRepeat? (text :: seen) rest

theorem firstRepeat?_eq_none_iff {seen texts : List String} :
    firstRepeat? seen texts = none ↔ texts.Nodup ∧ ∀ text ∈ texts, text ∉ seen := by
  fun_induction firstRepeat? seen texts with
  | case1 => simp
  | case2 seen text rest h => simp [h]
  | case3 seen text rest h ih =>
    rw [ih]
    simp only [List.nodup_cons, List.mem_cons, not_or, forall_eq_or_imp]
    constructor
    · rintro ⟨hn, hs⟩
      exact ⟨⟨fun hm => (hs text hm).1 rfl, hn⟩, h, fun t ht => (hs t ht).2⟩
    · rintro ⟨⟨hm, hn⟩, _, hs⟩
      exact ⟨hn, fun t ht => ⟨fun e => hm (e ▸ ht), hs t ht⟩⟩

/-- The table of the given options, unless two of them have the same spelling. -/
def ofList (options : List OptionSpec) : Except DuplicateSpelling OptionTable :=
  match h : firstRepeat? [] (options.map (·.spelling)) with
  | some spelling => .error ⟨spelling⟩
  | none => .ok ⟨options, (firstRepeat?_eq_none_iff.1 h).1⟩

/-- How many options the table holds. -/
def size (table : OptionTable) : Nat :=
  table.options.length

/-- The option with exactly this spelling. -/
def get? (table : OptionTable) (spelling : String) : Option OptionSpec :=
  table.options.find? (·.spelling == spelling)

/-- The first of the options with the longest spelling. -/
def longest? : List OptionSpec → Option OptionSpec
  | [] => none
  | option :: rest =>
    match longest? rest with
    | none => some option
    | some best => some (if best.spelling.length ≤ option.spelling.length then option else best)

/-- The options whose value may stand directly behind their spelling, and whose spelling begins
the token. -/
def joinedIn (table : OptionTable) (token : String) : List OptionSpec :=
  table.options.filter fun option => option.shape.joins && Text.beginsWith option.spelling token

/-- The option that a token starts with. -/
def lookup? (table : OptionTable) (token : String) : Option OptionSpec :=
  (table.get? token).or (longest? (table.joinedIn token))

end OptionTable

end SwiftPlan
