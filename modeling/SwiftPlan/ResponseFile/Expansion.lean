import SwiftPlan.Diagnosed
import SwiftPlan.ResponseFile.Token

/-!
# Expansion of response files

An argument `@name` stands for the arguments in the file `name`, which may name response files in
turn. If there is no text of that name, the argument stands for itself, as linkers give such
arguments a meaning of their own. A file that is being expanded already contributes nothing where
it is named again, and this is noted once for each time. Expansion fails where `name` is not a name
of a file at all.

A file becomes active only if it can be read and is not active yet, so there is always one file
less that can become active, and expansion ends whatever the files hold.
-/

namespace SwiftPlan.ResponseFile

/-- The files of a file system that are not being expanded. -/
def inactive (fs : FileSystem) (active : List Location) : List Location :=
  fs.locations.filter fun place => place ∉ active

theorem length_inactive_cons_lt {fs : FileSystem} {active : List Location} {place : Location}
    (hm : place ∈ fs.locations) (ha : place ∉ active) :
    (inactive fs (place :: active)).length < (inactive fs active).length := by
  have hs : inactive fs (place :: active) = (inactive fs active).filter (· ≠ place) := by
    simp only [inactive, List.filter_filter]
    refine List.filter_congr fun p _ => ?_
    by_cases hp : p = place <;> simp [hp]
  rw [hs]
  refine List.length_filter_lt_length_iff_exists.2 ⟨place, ?_, by simp⟩
  simpa [inactive] using ⟨hm, ha⟩

/-- Expands arguments, where `active` are the places of the files that are being expanded. -/
def expandIn (fs : FileSystem) (active : List Location) : List String → Diagnosed (List String)
  | [] => pure []
  | argument :: rest =>
    match Text.after? "@" argument with
    | none => do return argument :: (← expandIn fs active rest)
    | some name =>
      if fs.isName name then
        if ha : fs.locate name ∈ active then do
          Diagnosed.note (.responseFileCycle name)
          expandIn fs active rest
        else
          match hr : fs.readText? name with
          | none => do return argument :: (← expandIn fs active rest)
          | some text => do
            have := length_inactive_cons_lt (FileSystem.locate_mem_locations hr) ha
            let words ← (tokens text).mapError Failure.unexpectedBlank
            let inner ← expandIn fs (fs.locate name :: active) words
            let outer ← expandIn fs active rest
            return inner ++ outer
      else Diagnosed.fail .notText
termination_by arguments => ((inactive fs active).length, arguments.length)
decreasing_by
  all_goals first
    | exact Prod.Lex.left _ _ (by assumption)
    | exact Prod.Lex.right _ (by simp)

/-- Expands the response files among some arguments. -/
def expand (fs : FileSystem) (arguments : List String) : Diagnosed (List String) :=
  expandIn fs [] arguments

end SwiftPlan.ResponseFile
