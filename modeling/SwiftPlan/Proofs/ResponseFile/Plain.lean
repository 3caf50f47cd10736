import SwiftPlan.Driver
import SwiftPlan.Proofs.Outcome

/-!
# Arguments without response files

An argument that does not begin with `@` cannot name a response file, so a command line of such
arguments is its own expansion (`expandIn_eq_self`), whatever files there are.  A request on such a
command line is therefore worked out from its arguments as they were written, and what comes of it
can be computed (`exists_of_any_built`).
-/

namespace SwiftPlan

namespace ResponseFile

variable {fs : FileSystem} {active : List Location} {arguments : List String}

/-- No argument begins with the mark of a response file. -/
def Plain (arguments : List String) : Prop :=
  ∀ argument ∈ arguments, Text.after? "@" argument = none

instance : DecidablePred Plain := fun arguments =>
  inferInstanceAs (Decidable (∀ argument ∈ arguments, _))

lemma expandIn_eq_self (h : Plain arguments) : expandIn fs active arguments = pure arguments := by
  induction arguments with
  | nil => rw [expandIn]
  | cons argument rest ih =>
    obtain ⟨hfirst, hrest⟩ := List.forall_mem_cons.1 h
    rw [expandIn]
    split
    · rw [ih hrest, pure_bind]
    · next name hname => simp [hfirst] at hname

end ResponseFile

/-- A Linux machine without files, on which a request is seen from `/work`. -/
def Surroundings.bare : Surroundings :=
  ⟨.ofFiles "/work" [], ⟨"Linux", "x86_64", ""⟩⟩

namespace Driver

variable {surroundings : Surroundings} {environment : Environment} {arguments : List String}

/-- What a driver does with arguments in which there are no response files. -/
def ofPlainArguments (surroundings : Surroundings) (environment : Environment)
    (arguments : List String) : Diagnosed Driver := do
  let invocation ← Invocation.ofArguments arguments
  let request ← requestOf surroundings invocation
  let toolchain := ⟨request.family?, environment⟩
  return { arguments, ownArguments := invocation.arguments, request, toolchain }

lemma ofArguments_of_plain (h : ResponseFile.Plain arguments) :
    ofArguments surroundings environment arguments =
      ofPlainArguments surroundings environment arguments := by
  rw [ofArguments, ResponseFile.expand, ResponseFile.expandIn_eq_self h, pure_bind,
    ofPlainArguments]

/-- The settings and the jobs of a request to build, if nothing fails. -/
def built? (request : Diagnosed Driver) : Option (Settings × List Job) := do
  let driver ← request.outcome.toOption
  let settings ← driver.settings?
  let jobs ← driver.plan.outcome.toOption
  return (settings, jobs)

/-- What is found by computing the settings and the jobs of a request holds of its driver. -/
lemma exists_of_any_built {property : Settings × List Job → Bool}
    (hplain : ResponseFile.Plain arguments)
    (h : (built? (ofPlainArguments surroundings environment arguments)).any property = true) :
    ∃ driver settings jobs,
      (ofArguments surroundings environment arguments).outcome = .ok driver ∧
        driver.request = .build settings ∧ driver.plan.outcome = .ok jobs ∧
        property (settings, jobs) = true := by
  obtain ⟨⟨settings, jobs⟩, hbuilt, hproperty⟩ := (Option.any_eq_true _ _).1 h
  simp only [built?, Option.bind_eq_bind, Option.bind_eq_some_iff, Option.pure_def,
    Option.some.injEq, Prod.mk.injEq] at hbuilt
  obtain ⟨driver, hdriver, settings', hsettings, jobs', hjobs, rfl, rfl⟩ := hbuilt
  refine ⟨driver, settings', jobs', ?_, ?_, ?_, hproperty⟩
  · rw [ofArguments_of_plain hplain]
    exact toOption_eq_some.1 hdriver
  · cases hrequest : driver.request with
    | build settings => simpa [settings?, hrequest] using hsettings
    | passthrough tool => simp [settings?, hrequest] at hsettings
  · exact toOption_eq_some.1 hjobs

end Driver

end SwiftPlan
