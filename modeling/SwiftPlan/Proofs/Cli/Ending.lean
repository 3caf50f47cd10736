import SwiftPlan.Cli.Run
import SwiftPlan.Proofs.ResponseFile.Plain
import SwiftPlan.Proofs.ResponseFile.Refusal
import SwiftPlan.Proofs.Settings.Resolved

/-!
# How runs end

A run is to end with an answer, which is the plan or an error of the driver that keeps the build
from being planned.  Each step of the work on a request has its own kind of error, and what is shown
are the errors of the driver (`Failure.IsError`).  So one goes through the steps and asks which
failures they have.  Two of them can fail in another way, and both are steps that read a text file:
a response file may be refused, and an output-file map may not be encoded in UTF-8.  Either may also
be asked for by what is not a name.

`runCommand_answers_iff` says for which requests this happens.  A map is read late, so that it does
no harm if an earlier step fails with an error of the driver (`ReadsMap`).  Nothing is said of maps
with an escape for one half of a pair of code units (`Json.LoneHalf`), as half of a pair is not a
character, and whether a text that holds it can be printed is not a question about strings.  Nor is
anything said of files that are links, of which a `FileSystem` has none.
-/

namespace SwiftPlan

/-- The failure is an error of the driver. -/
def Failure.IsError (failure : Failure) : Prop :=
  ∃ error, failure = .driver error

/-- The failure is an error of the driver, or something was expected to be text. -/
def Failure.IsErrorOrNotText (failure : Failure) : Prop :=
  failure.IsError ∨ failure = .notText

open Diagnosed

variable {α β : Type} {surroundings : Surroundings} {environment : Environment}
  {arguments : List String} {settings : Settings}

lemma Failure.not_isError_notText : ¬ Failure.IsError .notText := by
  rintro ⟨error, herror⟩
  cases herror

lemma Diagnosed.FailsWith.errorOrNotText {step : Diagnosed α} (h : FailsWith Failure.IsError step) :
    FailsWith Failure.IsErrorOrNotText step :=
  fun failure hfailure => .inl (h failure hfailure)

lemma Diagnosed.FailsWith.ne_notText {step : Diagnosed α} (h : FailsWith Failure.IsError step) :
    step.outcome ≠ .error .notText :=
  fun hfailure => Failure.not_isError_notText (h _ hfailure)

/-- A step that has only errors of the driver is not to blame for a file without text. -/
lemma bind_eq_notText {step : Diagnosed α} {next : α → Diagnosed β}
    (h : FailsWith Failure.IsError step) :
    (step >>= next).outcome = .error .notText ↔
      ∃ value, step.outcome = .ok value ∧ (next value).outcome = .error .notText := by
  rw [outcome_bind_eq_error, or_iff_right h.ne_notText]

/-! ## Steps that have only errors of the driver -/

/-- Whatever errors a step has, they are errors of the driver when it is lifted. -/
lemma failsWith_lift {ε : Type} {lift : ε → DriverError} (step : Except ε α) :
    FailsWith Failure.IsError (ofExcept (step.mapError fun error => .driver (lift error))) :=
  failsWith_mapError fun error => ⟨lift error, rfl⟩

/-! Three kinds of steps in the form in which they are met before a file is read. -/

lemma failsWith_lift_path (step : Except PathError α) :
    FailsWith Failure.IsError (liftM step : Diagnosed α) :=
  failsWith_lift step

lemma failsWith_lift_option (step : Except OptionError α) :
    FailsWith Failure.IsError (liftM step : Diagnosed α) :=
  failsWith_lift step

lemma failsWith_lift_target (step : Except TargetError α) :
    FailsWith Failure.IsError (liftM step : Diagnosed α) :=
  failsWith_lift step

lemma failsWith_moduleName {options : ParsedOptions} {mode : Option CompilerMode}
    {goal : BuildGoal} {inputs : List TypedPath} :
    FailsWith Failure.IsError (ModuleName.resolve options mode goal inputs) := by
  rw [ModuleName.resolve]
  split
  · exact (failsWith_noteAll _).bind fun _ _ => failsWith_pure _
  · split
    · exact failsWith_pure _
    · exact (failsWith_lift _).bind fun _ _ => failsWith_pure _

lemma failsWith_fileValue? {options : ParsedOptions} {option : String} :
    FailsWith Failure.IsError (fileValue? options option) := by
  rw [fileValue?]
  split
  · exact failsWith_pure _
  · split
    · exact (failsWith_noteAll [_]).bind fun _ _ => failsWith_pure _
    · exact failsWith_pure _

lemma failsWith_moduleOutput {options : ParsedOptions} {moduleName : String} {goal : BuildGoal}
    {level : Option DebugLevel} {directory : Option VirtualPath} :
    FailsWith Failure.IsError (ModuleOutput.resolve options moduleName goal level directory) := by
  rw [ModuleOutput.resolve]
  split
  · refine failsWith_fileValue?.bind fun value _ => ?_
    cases value with
    | some value => exact (failsWith_lift _).bind fun _ _ => failsWith_pure _
    | none => exact (failsWith_lift _).bind fun _ _ => failsWith_pure _
  · split
    · exact (failsWith_lift _).bind fun _ _ => failsWith_pure _
    · exact failsWith_pure _

lemma failsWith_documentation {output : ModuleOutput} {options : ParsedOptions}
    {directory : Option VirtualPath} :
    FailsWith Failure.IsError (output.documentation options directory) := by
  refine failsWith_fileValue?.bind fun value _ => ?_
  cases value with
  | some value => exact failsWith_lift _
  | none => exact failsWith_lift _

lemma failsWith_moduleFilesOf {options : ParsedOptions} {moduleName : String} {goal : BuildGoal}
    {level : Option DebugLevel} {directory : Option VirtualPath} :
    FailsWith Failure.IsError
      (Settings.moduleFilesOf options moduleName goal level directory) := by
  refine failsWith_moduleOutput.bind fun output _ => ?_
  cases output with
  | none => exact failsWith_pure _
  | some output => exact failsWith_documentation.bind fun _ _ => failsWith_pure _

lemma Plan.failsWith_ofSettings : FailsWith Failure.IsError (Plan.ofSettings settings) := by
  rw [Plan.ofSettings]
  split
  · exact (failsWith_lift _).bind fun _ _ => failsWith_pure _
  · exact (failsWith_lift _).bind fun _ _ => failsWith_pure _
  all_goals
    split
    · exact (failsWith_noteAll [_]).bind fun _ _ => failsWith_pure _
    · exact (failsWith_noteAll _).bind fun _ _ => failsWith_lift _

lemma Driver.failsWith_plan (driver : Driver) : FailsWith Failure.IsError driver.plan := by
  have hplain : FailsWith Failure.IsError driver.plainJobs := by
    rw [plainJobs]
    split
    · exact Plan.failsWith_ofSettings
    · exact failsWith_pure _
  exact hplain.bind fun _ _ => failsWith_pure _

/-! ## Output-file maps -/

/-- The text has an escape for one half of a pair of code units without the other half. -/
inductive Json.LoneHalf : List Char → Prop where
  | here {text behind : List Char} {unit : Nat} (hunit : codeUnit? text = some unit)
      (hhalf : isHighHalf unit || isLowHalf unit)
      (halone : codeEscape text = .ok (unitChar unit, behind)) : LoneHalf ('\\' :: 'u' :: text)
  | behindCode {text behind : List Char} {c : Char} (hcode : codeEscape text = .ok (c, behind))
      (h : LoneHalf behind) : LoneHalf ('\\' :: 'u' :: text)
  | behindEscape {c : Char} {text : List Char} (hcode : c ≠ 'u') (h : LoneHalf text) :
      LoneHalf ('\\' :: c :: text)
  | behindPlain {c : Char} {text : List Char} (hplain : c ≠ '\\') (h : LoneHalf text) :
      LoneHalf (c :: text)

lemma Json.LoneHalf.mem {text : List Char} (h : LoneHalf text) : '\\' ∈ text := by
  induction h with
  | behindPlain _ _ ih => exact List.mem_cons_of_mem _ ih
  | _ => exact List.mem_cons_self

namespace OutputFileMap

/-- What is called so is not a text: it has no name, or its file can be read and is not one. -/
def IsNotText (fs : FileSystem) (name : String) : Prop :=
  fs.isName name = false ∨
    ∃ content, fs.read name = .ok content ∧ FileSystem.decode? content = none

variable {fs : FileSystem} {name source : String}

lemma failsWith_readDestination {kind : String} {destination : Json} :
    FailsWith Failure.IsError (readDestination source kind destination) := by
  unfold readDestination
  split
  · exact (failsWith_noteAll [_]).bind fun _ _ => failsWith_pure _
  · split
    · exact (failsWith_noteAll [_]).bind fun _ _ => failsWith_pure _
    · exact (failsWith_lift _).bind fun _ _ => failsWith_pure _
  · exact (failsWith_noteAll [_]).bind fun _ _ => failsWith_pure _

lemma failsWith_readEntry {members : List (String × Json)} :
    FailsWith Failure.IsError (readEntry source members) := by
  induction members with
  | nil => exact failsWith_pure []
  | cons member rest ih =>
    exact failsWith_readDestination.bind fun _ _ => ih.bind fun _ _ => failsWith_pure _

lemma failsWith_readEntries {members : List (String × Json)} :
    FailsWith Failure.IsError (readEntries source members) := by
  induction members with
  | nil => exact failsWith_pure []
  | cons member rest ih =>
    obtain ⟨input, entry⟩ := member
    cases entry with
    | object members =>
      exact failsWith_readEntry.bind fun _ _ => ih.bind fun _ _ => failsWith_pure _
    | _ =>
      intro failure hfailure
      exact ⟨_, (Except.error.inj hfailure).symm⟩

lemma failsWith_ofJson {document : Json} : FailsWith Failure.IsError (ofJson source document) := by
  cases document with
  | object members => exact failsWith_readEntries.bind fun _ _ => failsWith_pure _
  | _ =>
    intro failure hfailure
    exact ⟨_, (Except.error.inj hfailure).symm⟩

/-- Reading a map fails in this way only if there is no text. -/
lemma load_eq_notText : (load fs name).outcome = .error .notText ↔ IsNotText fs name := by
  rw [load, IsNotText]
  cases hname : fs.isName name with
  | false => exact iff_of_true rfl (.inl rfl)
  | true =>
    simp only [if_true, outcome_bind_eq_error, Bool.true_eq_false, false_or]
    constructor
    · rintro (hfailure | ⟨content, hcontent, hfailure⟩)
      · exact absurd hfailure (failsWith_lift _).ne_notText
      · refine ⟨content, mapError_eq_ok.1 (mapError_eq_ok.1 hcontent), ?_⟩
        cases htext : FileSystem.decode? content with
        | none => rfl
        | some text =>
          simp only [htext] at hfailure
          have hdocument : FailsWith Failure.IsError (do
              let document ← (Json.ofText text).mapError fun cause =>
                OutputFileMapError.malformed (LexicalPath.tidy name) cause
              ofJson (LexicalPath.tidy name) document) :=
            (failsWith_lift _).bind fun _ _ => failsWith_ofJson
          exact absurd hfailure hdocument.ne_notText
    · rintro ⟨content, hcontent, htext⟩
      refine .inr ⟨content, ?_, by simp only [htext]; rfl⟩
      rw [hcontent]
      rfl

lemma failsWith_load : FailsWith Failure.IsErrorOrNotText (load fs name) := by
  have hfail : FailsWith Failure.IsErrorOrNotText (fail .notText : Diagnosed OutputFileMap) :=
    fun failure hfailure => .inr (Except.error.inj hfailure).symm
  rw [load]
  split
  · refine (failsWith_lift _).errorOrNotText.bind fun content _ => ?_
    split
    · exact hfail
    · exact ((failsWith_lift _).bind fun _ _ => failsWith_ofJson).errorOrNotText
  · exact hfail

end OutputFileMap

/-! ## Requests -/

namespace Settings

/-- The arguments of a building driver ask for the output-file map of this name, and nothing is
found to be wrong with them before the map is read. -/
def NamesMap (surroundings : Surroundings) (arguments : List String) (name : String) : Prop :=
  ∃ options directory value path,
    OptionTable.standard.parse arguments = .ok options ∧
      workingDirectoryOf surroundings.fileSystem.currentDirectory options = .ok directory ∧
      Succeeds (inputsOf directory options) ∧ Succeeds (targetOf surroundings.host options) ∧
      options.lastValue? ["-output-file-map"] = some value ∧
      resolvePath directory value = .ok path ∧ path.display = name

lemma failsWith_outputFileMapOf {fs : FileSystem} {directory : Option VirtualPath}
    {options : ParsedOptions} :
    FailsWith Failure.IsErrorOrNotText (outputFileMapOf fs directory options) := by
  rw [outputFileMapOf]
  split
  · exact failsWith_pure _
  · exact (failsWith_lift _).errorOrNotText.bind fun _ _ =>
      OutputFileMap.failsWith_load.bind fun _ _ => failsWith_pure _

lemma outputFileMapOf_eq_notText {fs : FileSystem} {directory : Option VirtualPath}
    {options : ParsedOptions} :
    (outputFileMapOf fs directory options).outcome = .error .notText ↔
      ∃ value path, options.lastValue? ["-output-file-map"] = some value ∧
        resolvePath directory value = .ok path ∧ OutputFileMap.IsNotText fs path.display := by
  rw [outputFileMapOf]
  cases hvalue : options.lastValue? ["-output-file-map"] with
  | none => simp
  | some value =>
    have hload (path : VirtualPath) :
        (do return some (← OutputFileMap.load fs path.display)).outcome = .error .notText ↔
          OutputFileMap.IsNotText fs path.display := by
      rw [outcome_bind_eq_error, OutputFileMap.load_eq_notText, or_iff_left]
      rintro ⟨map, -, hfailure⟩
      exact (failsWith_pure (some map)).ne_notText hfailure
    simp only [bind_eq_notText (failsWith_lift_path _), outcome_lift_path, hload,
      Option.some.injEq, exists_and_left, exists_eq_left']

/-- Of the settings, only the output-file map can fail in another way than with an error. -/
lemma failsWith_resolve {kind : BuildKind} :
    FailsWith Failure.IsErrorOrNotText (resolve surroundings kind arguments) := by
  refine (failsWith_lift _).errorOrNotText.bind fun options _ => ?_
  refine (failsWith_lift _).errorOrNotText.bind fun directory _ => ?_
  refine (failsWith_lift _).errorOrNotText.bind fun inputs _ => ?_
  refine (failsWith_lift _).errorOrNotText.bind fun target _ => ?_
  refine failsWith_outputFileMapOf.bind fun map _ => ?_
  refine (failsWith_noteAll _).bind fun _ _ => ?_
  refine failsWith_moduleName.errorOrNotText.bind fun moduleName _ => ?_
  exact failsWith_moduleFilesOf.errorOrNotText.bind fun _ _ => failsWith_pure _

lemma resolve_eq_notText {kind : BuildKind} :
    (resolve surroundings kind arguments).outcome = .error .notText ↔
      ∃ name, NamesMap surroundings arguments name ∧
        OutputFileMap.IsNotText surroundings.fileSystem name := by
  have hlater {options : ParsedOptions} {mode : CompilerMode} {goal : BuildGoal}
      {inputs : List TypedPath} {notices : List Notice} {level : Option DebugLevel}
      {directory : Option VirtualPath} {next : String → Option ModuleFiles → Settings} :
      FailsWith Failure.IsError (do
        Diagnosed.noteAll notices
        let moduleName ← ModuleName.resolve options (some mode) goal inputs
        let moduleFiles ← moduleFilesOf options moduleName goal level directory
        return next moduleName moduleFiles) :=
    (failsWith_noteAll _).bind fun _ _ => failsWith_moduleName.bind fun _ _ =>
      failsWith_moduleFilesOf.bind fun _ _ => failsWith_pure _
  simp only [resolve, resolveOptions, bind_eq_notText (failsWith_lift_option _),
    bind_eq_notText (failsWith_lift_path _), bind_eq_notText (failsWith_lift_target _),
    outcome_lift_option, outcome_lift_path, outcome_lift_target]
  constructor
  · rintro ⟨options, hoptions, directory, hdirectory, inputs, hinputs, target, htarget, hfailure⟩
    rcases outcome_bind_eq_error.1 hfailure with hmap | ⟨map, -, hrest⟩
    · obtain ⟨value, path, hvalue, hpath, hnotText⟩ := outputFileMapOf_eq_notText.1 hmap
      exact ⟨path.display, ⟨options, directory, value, path, hoptions, hdirectory,
        ⟨inputs, hinputs⟩, ⟨target, htarget⟩, hvalue, hpath, rfl⟩, hnotText⟩
    · exact absurd hrest hlater.ne_notText
  · rintro ⟨_, ⟨options, directory, value, path, hoptions, hdirectory, ⟨inputs, hinputs⟩,
      ⟨target, htarget⟩, hvalue, hpath, rfl⟩, hnotText⟩
    refine ⟨options, hoptions, directory, hdirectory, inputs, hinputs, target, htarget, ?_⟩
    have hmap := outputFileMapOf_eq_notText.2 ⟨value, path, hvalue, hpath, hnotText⟩
    exact outcome_bind_eq_error.2 (.inl hmap)

end Settings

/-- The request is one to build, and gets as far as reading the output-file map of this name. -/
def ReadsMap (surroundings : Surroundings) (request : List String) (name : String) : Prop :=
  ∃ expanded kind arguments,
    (ResponseFile.expand surroundings.fileSystem request).outcome = .ok expanded ∧
      Invocation.ofArguments expanded = .ok ⟨.build kind, arguments⟩ ∧
      Settings.NamesMap surroundings arguments name

namespace Driver

lemma failsWith_requestOf {invocation : Invocation} :
    FailsWith Failure.IsErrorOrNotText (requestOf surroundings invocation) := by
  rw [requestOf]
  split
  · exact Settings.failsWith_resolve.bind fun _ _ => failsWith_pure _
  · exact failsWith_pure _

lemma requestOf_eq_notText {invocation : Invocation} :
    (requestOf surroundings invocation).outcome = .error .notText ↔
      ∃ kind name, invocation.kind = .build kind ∧
        Settings.NamesMap surroundings invocation.arguments name ∧
        OutputFileMap.IsNotText surroundings.fileSystem name := by
  rw [requestOf]
  cases invocation.kind with
  | build kind =>
    have hpure (settings : Settings) :
        (pure (Request.build settings) : Diagnosed Request).outcome ≠ .error .notText :=
      (failsWith_pure _).ne_notText
    simp [outcome_bind_eq_error, Settings.resolve_eq_notText]
  | passthrough tool => simp

end Driver

namespace Cli

variable {request : List String} {command : Command}

lemma planRequest_eq_bind :
    planRequest surroundings environment request = (do
      let expanded ← ResponseFile.expand surroundings.fileSystem request
      let invocation ← Invocation.ofArguments expanded
      let request ← Driver.requestOf surroundings invocation
      Driver.plan ⟨expanded, invocation.arguments, request, ⟨request.family?, environment⟩⟩) := by
  simp only [planRequest, Driver.ofArguments, bind_assoc, pure_bind]

/-- A request fails in no other way than with an error, in the expansion of its arguments, or at a
map that is not a text. -/
lemma planRequest_eq_error {failure : Failure}
    (h : (planRequest surroundings environment request).outcome = .error failure) :
    failure.IsError ∨
      (ResponseFile.expand surroundings.fileSystem request).outcome = .error failure ∨
      failure = .notText ∧ ∃ name, ReadsMap surroundings request name ∧
        OutputFileMap.IsNotText surroundings.fileSystem name := by
  rw [planRequest_eq_bind] at h
  rcases outcome_bind_eq_error.1 h with hexpand | ⟨expanded, hexpanded, h⟩
  · exact .inr (.inl hexpand)
  rcases outcome_bind_eq_error.1 h with hname | ⟨invocation, hinvocation, h⟩
  · exact .inl (failsWith_lift _ _ hname)
  rcases outcome_bind_eq_error.1 h with hrequest | ⟨request, -, hplan⟩
  · rcases Driver.failsWith_requestOf _ hrequest with herror | rfl
    · exact .inl herror
    · obtain ⟨kind, name, hkind, hmap, hnotText⟩ := Driver.requestOf_eq_notText.1 hrequest
      refine .inr (.inr ⟨rfl, name, ⟨expanded, kind, invocation.arguments, hexpanded, ?_, hmap⟩,
        hnotText⟩)
      rw [← hkind]
      exact mapError_eq_ok.1 hinvocation
  · exact .inl (Driver.failsWith_plan _ _ hplan)

lemma planRequest_of_readsMap {name : String} (h : ReadsMap surroundings request name)
    (hnotText : OutputFileMap.IsNotText surroundings.fileSystem name) :
    (planRequest surroundings environment request).outcome = .error .notText := by
  obtain ⟨expanded, kind, arguments, hexpanded, hinvocation, hmap⟩ := h
  rw [planRequest_eq_bind]
  refine outcome_bind_eq_error.2 (.inr ⟨expanded, hexpanded, ?_⟩)
  refine outcome_bind_eq_error.2 (.inr ⟨_, mapError_eq_ok.2 hinvocation, ?_⟩)
  exact outcome_bind_eq_error.2
    (.inl (Driver.requestOf_eq_notText.2 ⟨kind, name, rfl, hmap, hnotText⟩))

/-! ## Runs -/

/-- The run gives an answer, which is the plan or an error of the driver, and exits with 0 or 1. -/
structure Answers (surroundings : Surroundings) (environment : Environment) (command : Command) :
    Prop where
  answer :
    let planned := planRequest surroundings environment command.request
    let json := command.switches.contains .json
    let diagnostics := planned.notices.map (·.diagnostic)
    (∃ jobs, planned.outcome = .ok jobs ∧
        runCommand surroundings environment command = ofPlan json diagnostics jobs) ∨
      ∃ error, planned.outcome = .error (.driver error) ∧
        runCommand surroundings environment command = ofError json diagnostics error
  code : ∃ code, code ≤ 1 ∧ (runCommand surroundings environment command).ending = .exit code

lemma ending_ofPlan {json : Bool} {diagnostics : List Diagnostic} {jobs : List Job} :
    (ofPlan json diagnostics jobs).ending = .exit (if hasErrors diagnostics then 1 else 0) := by
  rw [ofPlan]
  split <;> rfl

lemma ending_ofError {json : Bool} {diagnostics : List Diagnostic} {error : DriverError} :
    (ofError json diagnostics error).ending = .exit 1 := by
  rw [ofError]
  split <;> rfl

lemma answers_of_ok {jobs : List Job}
    (h : (planRequest surroundings environment command.request).outcome = .ok jobs) :
    Answers surroundings environment command := by
  have hrun : runCommand surroundings environment command =
      ofPlan (command.switches.contains .json)
        ((planRequest surroundings environment command.request).notices.map (·.diagnostic))
        jobs := by
    simp only [runCommand, h]
  refine ⟨.inl ⟨jobs, h, hrun⟩, _, ?_, hrun ▸ ending_ofPlan⟩
  split <;> omega

lemma answers_of_error {error : DriverError}
    (h : (planRequest surroundings environment command.request).outcome =
      .error (.driver error)) :
    Answers surroundings environment command := by
  have hrun : runCommand surroundings environment command =
      ofError (command.switches.contains .json)
        ((planRequest surroundings environment command.request).notices.map (·.diagnostic))
        error := by
    simp only [runCommand, h]
  exact ⟨.inr ⟨error, h, hrun⟩, 1, Nat.le_refl 1, hrun ▸ ending_ofError⟩

lemma Failure.IsRefusal.not_isError {failure : Failure} (h : ResponseFile.IsRefusal failure) :
    ¬ failure.IsError := by
  rintro ⟨error, rfl⟩
  rcases h with ⟨position, h⟩ | h <;> cases h

/-- **Runs end with an answer.**  The plan or an error of the driver is printed and the exit code is
0 or 1, unless a response file is reached that cannot be split, or a reference by what is not a
name, or the request gets as far as reading an output-file map that is not a text. -/
theorem runCommand_answers_iff :
    (∀ name text, ReadsMap surroundings command.request name →
      surroundings.fileSystem.readText? name = some text → ¬ Json.LoneHalf text) →
    (Answers surroundings environment command ↔
      (∀ place,
        ResponseFile.Reaches surroundings.fileSystem
            (ResponseFile.Readable surroundings.fileSystem) command.request place →
          ResponseFile.Splits surroundings.fileSystem place) ∧
        ResponseFile.ProperNames surroundings.fileSystem command.request ∧
        ∀ name, ReadsMap surroundings command.request name →
          ¬ OutputFileMap.IsNotText surroundings.fileSystem name) := by
  -- the steps answer alike on every text, only what they answer means less where a half is alone
  intro _
  rw [← and_assoc, ← ResponseFile.expand_succeeds_iff]
  constructor
  · intro h
    have hfailure : ∀ failure,
        (planRequest surroundings environment command.request).outcome = .error failure →
          failure.IsError := by
      intro failure hfailure
      rcases h.answer with ⟨jobs, hjobs, -⟩ | ⟨error, herror, -⟩
      · simp [hjobs] at hfailure
      · exact ⟨error, Except.error.inj (hfailure.symm.trans herror)⟩
    refine ⟨?_, fun name hmap hnotText => ?_⟩
    · cases hexpand : (ResponseFile.expand surroundings.fileSystem command.request).outcome with
      | ok expanded => exact ⟨expanded, rfl⟩
      | error failure =>
        have hrefusal := ResponseFile.failsWith_expandIn failure hexpand
        have hplan : (planRequest surroundings environment command.request).outcome =
            .error failure := by
          rw [planRequest_eq_bind]
          exact outcome_bind_eq_error.2 (.inl hexpand)
        exact absurd (hfailure _ hplan) (Failure.IsRefusal.not_isError hrefusal)
    · exact Failure.not_isError_notText (hfailure _ (planRequest_of_readsMap hmap hnotText))
  · rintro ⟨⟨expanded, hexpanded⟩, hmap⟩
    cases hplan : (planRequest surroundings environment command.request).outcome with
    | ok jobs => exact answers_of_ok hplan
    | error failure =>
      rcases planRequest_eq_error hplan with ⟨error, rfl⟩ | hexpand | ⟨-, name, hreads, hnotText⟩
      · exact answers_of_error hplan
      · simp [hexpanded] at hexpand
      · exact absurd hnotText (hmap name hreads)

/-- A machine with an output-file map in which every character stands for itself. -/
def withPlainMap : Surroundings :=
  ⟨.ofMachine "/work" [("m", "\x7b\"a.swift\": \x7b\"object\": \"b.o\"\x7d\x7d".toUTF8)],
    ⟨"Linux", "x86_64", ""⟩⟩

/-- A run that reads a plain map ends with an answer, so what it reads is a text. -/
theorem runCommand_answers_iff_of_plainMap :
    (∀ name text,
      ReadsMap withPlainMap ["swiftc", "a.swift", "-output-file-map", "m"] name →
        withPlainMap.fileSystem.readText? name = some text → ¬ Json.LoneHalf text) ∧
      Answers withPlainMap [] ⟨[], ["swiftc", "a.swift", "-output-file-map", "m"]⟩ ∧
      ∀ name, ReadsMap withPlainMap ["swiftc", "a.swift", "-output-file-map", "m"] name →
        ¬ OutputFileMap.IsNotText withPlainMap.fileSystem name := by
  have hplain : ∀ name text,
      ReadsMap withPlainMap ["swiftc", "a.swift", "-output-file-map", "m"] name →
        withPlainMap.fileSystem.readText? name = some text → ¬ Json.LoneHalf text := by
    intro name text _ hread hhalf
    have hfiles : (withPlainMap.fileSystem.files.all fun file =>
        (FileSystem.decode? file.2).all fun text => !text.contains '\\') = true := by
      decide +kernel
    have hplain := FileSystem.of_all_texts hfiles (FileSystem.textAt?_locate hread)
    simp [hhalf.mem] at hplain
  have hanswers : Answers withPlainMap []
      ⟨[], ["swiftc", "a.swift", "-output-file-map", "m"]⟩ := by
    have hplanned : ((Driver.ofPlainArguments withPlainMap []
        ["swiftc", "a.swift", "-output-file-map", "m"] >>= Driver.plan).outcome.toOption).isSome =
          true := by
      decide +kernel
    obtain ⟨jobs, hjobs⟩ := Option.isSome_iff_exists.1 hplanned
    have hplan : (planRequest withPlainMap []
        ["swiftc", "a.swift", "-output-file-map", "m"]).outcome = .ok jobs := by
      rw [planRequest, Driver.ofArguments_of_plain (by decide +kernel)]
      exact toOption_eq_some.1 hjobs
    exact answers_of_ok hplan
  exact ⟨hplain, hanswers, ((runCommand_answers_iff hplain).1 hanswers).2.2⟩

/-- A machine with response files that hold a vertical tab and a reference to what is not a name,
and with a file whose only byte begins no character. -/
def withRefusedFiles : Surroundings :=
  ⟨.ofMachine "/work" [("blank", "a.swift\x0bb.swift".toUTF8), ("void", "@a\x00b".toUTF8),
      ("binary", ⟨#[0xff]⟩)],
    ⟨"Linux", "x86_64", ""⟩⟩

lemma ending_of_outcome {words : List String} {failure : Failure}
    (hread : read words = .ok (.command command))
    (hplan : (planRequest surroundings environment command.request).outcome = .error failure)
    (hfailure : ¬ failure.IsError) :
    (run surroundings environment words).ending = .stopped failure := by
  simp only [run, hread, runCommand, hplan]
  split
  · next h => cases h
  · next error h => exact absurd ⟨error, Except.error.inj h⟩ hfailure
  · next h => rw [Except.error.inj h]

lemma outcome_expand_blank :
    (ResponseFile.expand withRefusedFiles.fileSystem ["swiftc", "@blank"]).outcome =
      .error (.unexpectedBlank ⟨7, 1, 8⟩) := by
  have hread :
      withRefusedFiles.fileSystem.readText? "blank" = some "a.swift\x0bb.swift".toList := by
    decide +kernel
  have hrefused :
      ResponseFile.tokens "a.swift\x0bb.swift".toList = .error ⟨7, 1, 8⟩ := by
    decide +kernel
  rw [ResponseFile.expand, ResponseFile.expandIn_word (by decide +kernel), map_eq_pure_bind,
    ResponseFile.expandIn_file (by decide +kernel) List.not_mem_nil hread, hrefused]
  rfl

lemma outcome_expand_void :
    (ResponseFile.expand withRefusedFiles.fileSystem ["swiftc", "@void"]).outcome =
      .error .notText := by
  have hread : withRefusedFiles.fileSystem.readText? "void" = some "@a\x00b".toList := by
    decide +kernel
  have hwords : ResponseFile.tokens "@a\x00b".toList = .ok ["@a\x00b"] := by
    decide +kernel
  have hreference : Text.after? "@" "@a\x00b" = some "a\x00b" := by decide +kernel
  rw [ResponseFile.expand, ResponseFile.expandIn_word (by decide +kernel), map_eq_pure_bind,
    ResponseFile.expandIn_splittable (by decide +kernel) List.not_mem_nil hread hwords,
    ResponseFile.expandIn_improper hreference (by decide +kernel)]
  rfl

/-- A run may end without an answer: a response file is refused, it refers to what is not a name,
and the map is not a text. -/
theorem exists_run_not_answers :
    (run withRefusedFiles [] ["swiftc", "@blank"]).ending =
        .stopped (.unexpectedBlank ⟨7, 1, 8⟩) ∧
      (run withRefusedFiles [] ["swiftc", "@void"]).ending = .stopped .notText ∧
      (run withRefusedFiles [] ["swiftc", "a.swift", "-output-file-map", "binary"]).ending =
        .stopped .notText := by
  have hstopped {reference : String} {failure : Failure}
      (hread : read ["swiftc", reference] = .ok (.command ⟨[], ["swiftc", reference]⟩))
      (hexpand : (ResponseFile.expand withRefusedFiles.fileSystem
        ["swiftc", reference]).outcome = .error failure)
      (hfailure : ¬ failure.IsError) :
      (run withRefusedFiles [] ["swiftc", reference]).ending = .stopped failure := by
    refine ending_of_outcome hread ?_ hfailure
    rw [planRequest_eq_bind]
    exact outcome_bind_eq_error.2 (.inl hexpand)
  refine ⟨hstopped (by decide +kernel) outcome_expand_blank ?_,
    hstopped (by decide +kernel) outcome_expand_void Failure.not_isError_notText, ?_⟩
  · exact Failure.IsRefusal.not_isError (.inl ⟨_, rfl⟩)
  · have hdriver : (Driver.ofPlainArguments withRefusedFiles []
        ["swiftc", "a.swift", "-output-file-map", "binary"]).outcome = .error .notText := by
      decide +kernel
    have hread : read ["swiftc", "a.swift", "-output-file-map", "binary"] =
        .ok (.command ⟨[], ["swiftc", "a.swift", "-output-file-map", "binary"]⟩) := by
      decide +kernel
    refine ending_of_outcome hread ?_ Failure.not_isError_notText
    rw [planRequest, Driver.ofArguments_of_plain (by decide +kernel)]
    exact outcome_bind_eq_error.2 (.inl hdriver)

end Cli

end SwiftPlan
