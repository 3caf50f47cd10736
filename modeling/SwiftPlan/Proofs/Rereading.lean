import SwiftPlan.Options.Standard
import SwiftPlan.Proofs.CanonicalPath
import SwiftPlan.Proofs.Options.RoundTrip

/-!
# Reading the name of an input again

A path is written on the command line of a job as it is displayed, and the tool that gets it reads
it like the driver does: what begins with a dash is an option, a single dash is the standard input,
and anything else is a file.  An input is brought to its normal form before, and that takes a `./`
off that was there to keep a dash from being read as an option.

The normal form of a name is its own normal form, so that nothing but the dash can go wrong: the
name is read as the same file unless it is a dash (`ofText_display_iff`), and as an input unless it
begins with one (`parse_input_iff`).
-/

namespace SwiftPlan

open VirtualPath

variable {token text : String} {path : VirtualPath}

/-- A token makes a command line of one input exactly if it is not read as an option or as the
terminator. -/
lemma OptionTable.parse_input_iff {table : OptionTable} :
    table.parse [text] = .ok ⟨[.input text], none⟩ ↔ isInputToken text = true := by
  constructor
  · intro h
    by_contra hinput
    unfold parse at h
    split at h
    · simp at h
    · split at h
      · simp at h
      · next spec hlookup =>
        split at h
        · simp at h
        · simp [parse, prepend, Except.map] at h
        · simp at h
  · intro hinput
    exact readable_input hinput []

/-- Only a dash can be the name of a file and be read as something else. -/
lemma VirtualPath.ofText_display_iff (h : ofText token = .ok path) :
    ofText path.display = .ok path ↔ token = "-" ∨ path.display ≠ "-" := by
  have hcanonical := canonical_ofText h
  rcases ofText_eq_ok h with ⟨htoken, rfl⟩ | ⟨htoken, -, rfl⟩ | ⟨htoken, -, rfl⟩
  · simp [htoken, display, standardInput, isStream, PathKind.isStream, ofText]
  all_goals
    by_cases hdash : LexicalPath.normalize token = "-"
    · simp [display, isStream, PathKind.isStream, hdash, htoken, ofText, standardInput]
    · have hname := hcanonical.ofText_name (by simp) hdash
      dsimp only at hname
      simp [display, isStream, PathKind.isStream, hname, hdash]

/-- **A file name stays a file name, unless a dash comes to its front.**  What the command lines of
a plan say for an input is read as an input again, and as the same path, exactly if the input is
the standard input or its normal form does not begin with a dash. -/
theorem reread_iff (h : ofText token = .ok path) (scratch : Option String) :
    let shown := (Argument.file path).render scratch
    (OptionTable.standard.parse [shown] = .ok ⟨[.input shown], none⟩ ∧
        ofText shown = .ok path) ↔
      token = "-" ∨ Text.beginsWith "-" (LexicalPath.normalize token) = false := by
  have hshown : (Argument.file path).render scratch = path.display := by
    rcases ofText_eq_ok h with ⟨-, rfl⟩ | ⟨-, -, rfl⟩ | ⟨-, -, rfl⟩ <;>
      cases scratch <;> simp [Argument.file, Argument.render, render, standardInput]
  intro shown
  rw [show shown = path.display from hshown, OptionTable.parse_input_iff, ofText_display_iff h]
  rcases ofText_eq_ok h with ⟨htoken, rfl⟩ | ⟨htoken, -, rfl⟩ | ⟨htoken, -, rfl⟩
  · subst htoken
    decide
  all_goals
    have hdisplay (kind : PathKind) (hkind : kind.isStream = false) :
        (⟨kind, LexicalPath.normalize token⟩ : VirtualPath).display =
          LexicalPath.normalize token := by
      simp [display, isStream, hkind]
    rw [hdisplay _ rfl]
    simp only [htoken, false_or, OptionTable.isInputToken, Bool.or_eq_true, beq_iff_eq,
      Bool.not_eq_true']
    constructor
    · rintro ⟨hinput, hdash⟩
      exact hinput.resolve_left hdash
    · intro hbegins
      refine ⟨.inr hbegins, ?_⟩
      intro hdash
      rw [hdash] at hbegins
      revert hbegins
      decide

/-- Dots, slashes and double dots go, and the dash that comes to light stands behind the first
piece. -/
theorem reread_iff_of_inner_dash :
    ofText "a/.././x//-c" = .ok ⟨.relative, "x/-c"⟩ ∧
      OptionTable.standard.parse ["x/-c"] = .ok ⟨[.input "x/-c"], none⟩ ∧
      ofText "x/-c" = .ok ⟨.relative, "x/-c"⟩ := by
  have hpath : ofText "a/.././x//-c" = .ok ⟨.relative, "x/-c"⟩ := by decide +kernel
  have hreread := (reread_iff hpath none).2 (.inr (by decide +kernel))
  exact ⟨hpath, hreread⟩

/-- An input that the command lines show as an option, and one that they show as the standard
input. -/
theorem exists_input_not_reread :
    OptionTable.standard.parse ["./-repl", "./-"] = .ok ⟨[.input "./-repl", .input "./-"], none⟩ ∧
      (ofText "./-repl").map (·.display) = .ok "-repl" ∧
      (OptionTable.standard.parse ["-repl"]).map (·.inputs) = .ok [] ∧
      ofText "./-" = .ok ⟨.relative, "-"⟩ ∧ ofText "-" = .ok standardInput := by
  decide +kernel

end SwiftPlan
