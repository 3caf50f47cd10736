import SwiftPlan.Driver
import SwiftPlan.Proofs.Outcome

/-!
# Settings that were worked out

`Settings` is a plain record, and not every value of it belongs to a build request.  What the
settings of a request have in common is that each was worked out from the options and from the
settings before it.  `Settings.Resolved` says this setting by setting, and `resolve_eq_ok` that it
says all there is to say.  Facts about the plans of requests start from here.
-/

namespace SwiftPlan

/-- The settings are what the arguments come down to in these surroundings. -/
structure Settings.Resolved (surroundings : Surroundings) (arguments : List String)
    (settings : Settings) : Prop where
  options : OptionTable.standard.parse arguments = .ok settings.options
  workingDirectory :
    workingDirectoryOf surroundings.fileSystem.currentDirectory settings.options =
      .ok settings.workingDirectory
  inputs : inputsOf settings.workingDirectory settings.options = .ok settings.inputs
  target : targetOf surroundings.host settings.options = .ok settings.target
  outputFileMap :
    (outputFileMapOf surroundings.fileSystem settings.workingDirectory settings.options).outcome =
      .ok settings.outputFileMap
  mode : settings.mode = settings.kind.compilerMode settings.options settings.inputs
  goal : settings.goal = settings.kind.goal settings.options
  debug : settings.debug = .ofOptions settings.options
  moduleName :
    (ModuleName.resolve settings.options (some settings.mode) settings.goal
      settings.inputs).outcome = .ok settings.moduleName
  moduleFiles :
    (moduleFilesOf settings.options settings.moduleName settings.goal settings.debug.level
      settings.workingDirectory).outcome = .ok settings.moduleFiles

lemma resolve_eq_ok {surroundings : Surroundings} {kind : BuildKind} {arguments : List String}
    {settings : Settings} :
    (Settings.resolve surroundings kind arguments).outcome = .ok settings ↔
      settings.kind = kind ∧ settings.Resolved surroundings arguments := by
  simp only [Settings.resolve, Settings.resolveOptions, Diagnosed.outcome_bind_eq_ok,
    Diagnosed.outcome_lift_path, Diagnosed.outcome_lift_option, Diagnosed.outcome_lift_target,
    Diagnosed.outcome_noteAll, Diagnosed.outcome_pure, Except.ok.injEq]
  constructor
  · rintro ⟨options, hoptions, directory, hdirectory, inputs, hinputs, target, htarget, map, hmap,
      -, -, name, hname, files, hfiles, rfl⟩
    exact ⟨rfl, ⟨hoptions, hdirectory, hinputs, htarget, hmap, rfl, rfl, rfl, hname, hfiles⟩⟩
  · rintro ⟨rfl, h⟩
    have hmode := h.mode
    have hgoal := h.goal
    have hdebug := h.debug
    refine ⟨_, h.options, _, h.workingDirectory, _, h.inputs, _, h.target, _, h.outputFileMap, (),
      trivial, settings.moduleName, ?_, settings.moduleFiles, ?_, ?_⟩
    · rw [← hmode, ← hgoal]
      exact h.moduleName
    · rw [← hgoal, ← hdebug]
      exact h.moduleFiles
    · rw [← hmode, ← hgoal, ← hdebug]

/-- A build that has a module has a place for it and for its documentation. -/
lemma moduleFilesOf_eq_some {options : ParsedOptions} {moduleName : String} {goal : BuildGoal}
    {level : Option DebugLevel} {directory : Option VirtualPath} {files : ModuleFiles} :
    (Settings.moduleFilesOf options moduleName goal level directory).outcome = .ok (some files) ↔
      (ModuleOutput.resolve options moduleName goal level directory).outcome =
          .ok (some files.output) ∧
        (files.output.documentation options directory).outcome = .ok files.documentation := by
  rw [Settings.moduleFilesOf, Diagnosed.outcome_bind_eq_ok]
  constructor
  · rintro ⟨output, houtput, hrest⟩
    cases output with
    | none => simp at hrest
    | some output =>
      simp only [Diagnosed.outcome_bind_eq_ok, Diagnosed.outcome_pure, Except.ok.injEq,
        Option.some.injEq] at hrest
      obtain ⟨documentation, hdocumentation, rfl⟩ := hrest
      exact ⟨houtput, hdocumentation⟩
  · rintro ⟨houtput, hdocumentation⟩
    refine ⟨some files.output, houtput, ?_⟩
    rw [Diagnosed.outcome_bind_eq_ok]
    exact ⟨files.documentation, hdocumentation, rfl⟩

/-! ## Requests -/

namespace Driver

variable {surroundings : Surroundings} {environment : Environment} {arguments : List String}
  {driver : Driver} {settings : Settings} {jobs : List Job}

/-- The settings of a driver that plans a build were worked out from the arguments that are left
when its name is settled. -/
lemma resolved_of_ofArguments
    (h : (ofArguments surroundings environment arguments).outcome = .ok driver)
    (hrequest : driver.request = .build settings) :
    settings.Resolved surroundings driver.ownArguments := by
  simp only [ofArguments, Diagnosed.outcome_bind_eq_ok, Diagnosed.outcome_pure,
    Except.ok.injEq] at h
  obtain ⟨expanded, -, invocation, -, request, hof, rfl⟩ := h
  obtain rfl : request = .build settings := hrequest
  rw [requestOf] at hof
  cases hkind : invocation.kind with
  | passthrough tool => simp [hkind] at hof
  | build kind =>
    simp only [hkind, Diagnosed.outcome_bind_eq_ok, Diagnosed.outcome_pure, Except.ok.injEq,
      Request.build.injEq, exists_eq_right] at hof
    exact (resolve_eq_ok.1 hof).2

/-- The jobs of a request to build are those that its settings ask for, with the executables of the
environment put in. -/
lemma plan_eq_ok (hrequest : driver.request = .build settings) :
    driver.plan.outcome = .ok jobs ↔
      ∃ plain, (Plan.ofSettings settings).outcome = .ok plain ∧
        plain.map (·.equip driver.toolchain) = jobs := by
  simp only [plan, plainJobs, hrequest, Diagnosed.outcome_bind_eq_ok, Diagnosed.outcome_pure,
    Except.ok.injEq]

/-- Nothing is noted in putting the executables in. -/
lemma notices_plan (hrequest : driver.request = .build settings) :
    driver.plan.notices = (Plan.ofSettings settings).notices := by
  simp only [plan, plainJobs, hrequest]
  cases hjobs : Plan.ofSettings settings with
  | mk notices outcome => cases outcome <;> simp

end Driver

end SwiftPlan
