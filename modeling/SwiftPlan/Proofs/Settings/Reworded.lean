import SwiftPlan.Proofs.Options.View
import SwiftPlan.Proofs.ResponseFile.Plain
import SwiftPlan.Proofs.Settings.Resolved

/-!
# Settings of command lines that look alike

Each setting is worked out by asking questions of the command line, so command lines that agree come
down to the same settings, but for the options themselves, which are kept as they were written
(`resolveOptions_eq_map`).

Few steps ask about every option.  The name of the module is read by one step only, the output by
the steps that work out the name and the place of the module, and what is handed to the linker by
none of those here.  So the lemmas about single steps hold of command lines that agree up to these
rare options, and the output and the name of the module have to be the same only where they are
read.
-/

namespace SwiftPlan

/-- The options that are asked about late, if at all: the name of the module, and what is handed to
the linker. -/
def lateOptions : List String :=
  ["-module-name", "-L", "-l", "-Xlinker"]

/-- The options that few steps ask about: these, and the output. -/
def rareOptions : List String :=
  "-o" :: lateOptions

/-- The settings of a build whose command line is written in another way. -/
def Settings.reworded (settings : Settings) (options : ParsedOptions) : Settings :=
  { settings with options }

variable {surroundings : Surroundings} {kind : BuildKind} {first second : ParsedOptions}
  {arguments : List String} {inputs : List TypedPath} {goal : BuildGoal} {moduleName : String}
  {level : Option DebugLevel} {directory : Option VirtualPath}

/-! ## Steps -/

/-- The option that chooses the level of debug information is one of the table. -/
lemma exists_spec_of_levelOption? {element : ParsedOption} (hknown : first.Known)
    (h : DebugInfo.levelOption? first = some element) :
    ∃ spec, element.spec? = some spec ∧ spec.spelling = spec.identity := by
  obtain ⟨hmem, hgroup⟩ := List.mem_filter.1 (List.mem_of_getLast? h)
  obtain ⟨spec, hspec, hin⟩ := (Option.any_eq_true _ _).1 hgroup
  have hstandard : spec ∈ OptionTable.standard.options := hknown element hmem spec hspec
  exact ⟨spec, hspec, ParsedOptions.spelling_eq_identity spec hstandard hin⟩

/-- The option that chooses a level is noted under its name. -/
lemma spelling_levelOption? (hknown : first.Known) :
    ((DebugInfo.levelOption? first).bind (·.spec?)).map (·.spelling) =
      (DebugInfo.levelOption? first).bind (·.identity?) := by
  cases hlevel : DebugInfo.levelOption? first with
  | none => rfl
  | some element =>
    obtain ⟨spec, hspec, hsame⟩ := exists_spec_of_levelOption? hknown hlevel
    simp [ParsedOption.identity?, hspec, hsame]

lemma isNone_levelOption? (hknown : first.Known) :
    (DebugInfo.levelOption? first).isNone =
      ((DebugInfo.levelOption? first).bind (·.identity?)).isNone := by
  cases hlevel : DebugInfo.levelOption? first with
  | none => rfl
  | some element =>
    obtain ⟨spec, hspec, -⟩ := exists_spec_of_levelOption? hknown hlevel
    simp [ParsedOption.identity?, hspec]

section

variable (h : ParsedOptions.Agree rareOptions first second)

include h

lemma workingDirectoryOf_eq {current : String} :
    Settings.workingDirectoryOf current first = Settings.workingDirectoryOf current second := by
  rw [Settings.workingDirectoryOf, Settings.workingDirectoryOf, h.lastValue? (by decide)]

lemma inputsOf_eq : Settings.inputsOf directory first = Settings.inputsOf directory second := by
  rw [Settings.inputsOf, Settings.inputsOf, h.inputs]

lemma targetOf_eq {host : Host} : Settings.targetOf host first = Settings.targetOf host second := by
  rw [Settings.targetOf, Settings.targetOf, h.lastValue? (by decide)]

lemma outputFileMapOf_eq {fs : FileSystem} :
    Settings.outputFileMapOf fs directory first = Settings.outputFileMapOf fs directory second := by
  rw [Settings.outputFileMapOf, Settings.outputFileMapOf, h.lastValue? (by decide)]

lemma compilerMode_eq : kind.compilerMode first inputs = kind.compilerMode second inputs := by
  cases kind with
  | interactive => rfl
  | batch =>
    rw [BuildKind.compilerMode, BuildKind.compilerMode, ParsedOptions.contains,
      ParsedOptions.contains, h.hasAny (by decide), h.lastWins (by decide) (by decide)]

lemma goal_eq (hfirst : first.Known) (hsecond : second.Known) :
    kind.goal first = kind.goal second := by
  cases kind with
  | interactive => rfl
  | batch =>
    have hmodes : ParsedOptions.Asks rareOptions (ParsedOptions.identitiesOf .modes) := by
      decide +kernel
    rw [BuildKind.goal, BuildKind.goal, BuildGoal.ofOptions, BuildGoal.ofOptions,
      h.lastInGroup? hfirst hsecond hmodes (by decide +kernel), h.hasAny (by decide),
      ParsedOptions.contains, ParsedOptions.contains, h.hasAny (by decide)]

lemma debugInfo_eq (hfirst : first.Known) (hsecond : second.Known) :
    DebugInfo.ofOptions first = DebugInfo.ofOptions second := by
  have hlevels : ParsedOptions.Asks rareOptions (ParsedOptions.identitiesOf .debugLevels) := by
    decide +kernel
  have hlevel : DebugInfo.requestedLevel first = DebugInfo.requestedLevel second := by
    rw [DebugInfo.requestedLevel, DebugInfo.requestedLevel, DebugInfo.levelOption?,
      DebugInfo.levelOption?, h.lastInGroup? hfirst hsecond hlevels (by decide +kernel),
      ParsedOptions.contains, ParsedOptions.contains, h.hasAny (by decide)]
  rw [DebugInfo.ofOptions, DebugInfo.ofOptions, hlevel, DebugInfo.requestedFormat?,
    DebugInfo.requestedFormat?, h.lastValue? (by decide)]

lemma debugNotices_eq (hfirst : first.Known) (hsecond : second.Known) :
    DebugInfo.notices first = DebugInfo.notices second := by
  have hlevels : ParsedOptions.Asks rareOptions (ParsedOptions.identitiesOf .debugLevels) := by
    decide +kernel
  have hidentity : (DebugInfo.levelOption? first).bind (·.identity?) =
      (DebugInfo.levelOption? second).bind (·.identity?) :=
    h.lastInGroup? hfirst hsecond hlevels (by decide +kernel)
  have hformat : DebugInfo.requestedFormat? first = DebugInfo.requestedFormat? second :=
    h.lastValue? (by decide)
  unfold DebugInfo.notices
  simp only [debugInfo_eq h hfirst hsecond, hformat, isNone_levelOption? hfirst,
    isNone_levelOption? hsecond, spelling_levelOption? hfirst, spelling_levelOption? hsecond,
    hidentity]

lemma fileValue?_eq {option : String} (hoption : ParsedOptions.Asks rareOptions [option]) :
    fileValue? first option = fileValue? second option := by
  rw [fileValue?, fileValue?, h.lastValue? hoption]

lemma documentation_eq {output : ModuleOutput} :
    output.documentation first directory = output.documentation second directory := by
  rw [ModuleOutput.documentation, ModuleOutput.documentation, fileValue?_eq h (by decide)]

/-- The output matters for the place of the module, if it does at all. -/
lemma moduleOutput_eq
    (hbeside : ModuleOutput.besideOutput first moduleName goal directory =
      ModuleOutput.besideOutput second moduleName goal directory) :
    ModuleOutput.resolve first moduleName goal level directory =
      ModuleOutput.resolve second moduleName goal level directory := by
  rw [ModuleOutput.resolve, ModuleOutput.resolve, h.hasAny (by decide),
    fileValue?_eq h (by decide), hbeside]

lemma moduleFilesOf_eq
    (hbeside : ModuleOutput.besideOutput first moduleName goal directory =
      ModuleOutput.besideOutput second moduleName goal directory) :
    Settings.moduleFilesOf first moduleName goal level directory =
      Settings.moduleFilesOf second moduleName goal level directory := by
  rw [Settings.moduleFilesOf, Settings.moduleFilesOf, moduleOutput_eq h hbeside]
  simp only [documentation_eq h]

end

/-! Two steps read the output. -/

section

variable (h : ParsedOptions.Agree lateOptions first second)

include h

lemma besideOutput_eq :
    ModuleOutput.besideOutput first moduleName goal directory =
      ModuleOutput.besideOutput second moduleName goal directory := by
  rw [ModuleOutput.besideOutput, ModuleOutput.besideOutput, h.lastValue? (by decide)]

lemma moduleName_eq {mode : Option CompilerMode}
    (hname : first.lastValue? ["-module-name"] = second.lastValue? ["-module-name"]) :
    ModuleName.resolve first mode goal inputs = ModuleName.resolve second mode goal inputs := by
  have hnotices (name : String) :
      ModuleName.notices first name = ModuleName.notices second name := by
    rw [ModuleName.notices, ModuleName.notices, ParsedOptions.contains, ParsedOptions.contains,
      h.hasAny (by decide)]
  have hsuggested :
      ModuleName.suggested first goal inputs = ModuleName.suggested second goal inputs := by
    have houtput : first.lastValue? ["-o"] = second.lastValue? ["-o"] := h.lastValue? (by decide)
    unfold ModuleName.suggested
    rw [houtput]
  rw [ModuleName.resolve, ModuleName.resolve, hname, hsuggested]
  simp only [hnotices]

end

/-! ## Settings -/

namespace Settings

lemma resolve_of_parse {parsed : ParsedOptions}
    (h : OptionTable.standard.parse arguments = .ok parsed) :
    resolve surroundings kind arguments = resolveOptions surroundings kind parsed := by
  rw [resolve, h]
  rfl

lemma options_of_resolveOptions {parsed : ParsedOptions} {settings : Settings}
    (h : (resolveOptions surroundings kind parsed).outcome = .ok settings) :
    settings.options = parsed := by
  simp only [resolveOptions, Diagnosed.outcome_bind_eq_ok, Diagnosed.outcome_pure,
    Except.ok.injEq] at h
  obtain ⟨-, -, -, -, -, -, -, -, -, -, -, -, -, -, rfl⟩ := h
  rfl

/-- Command lines that agree, also on the name of the module, come down to the same settings, to the
same notices, or to the same failure. -/
lemma resolveOptions_eq_map (h : ParsedOptions.Agree lateOptions first second)
    (hfirst : first.Known) (hsecond : second.Known)
    (hname : first.lastValue? ["-module-name"] = second.lastValue? ["-module-name"]) :
    resolveOptions surroundings kind second =
      (·.reworded second) <$> resolveOptions surroundings kind first := by
  have hrare : ParsedOptions.Agree rareOptions first second := h.mono (by decide)
  unfold resolveOptions
  simp only [workingDirectoryOf_eq hrare, inputsOf_eq hrare, targetOf_eq hrare,
    outputFileMapOf_eq hrare, compilerMode_eq hrare, goal_eq hrare hfirst hsecond,
    debugInfo_eq hrare hfirst hsecond, debugNotices_eq hrare hfirst hsecond,
    moduleName_eq h hname, moduleFilesOf_eq hrare (besideOutput_eq h),
    reworded, map_eq_pure_bind, bind_assoc, pure_bind]

/-- The settings of a build are also those of a command line that agrees up to rare options, if the
name of the module and its place beside the output are the same. -/
lemma Resolved.reworded {settings : Settings} {options : ParsedOptions} {own : List String}
    (hresolved : settings.Resolved surroundings arguments)
    (hparse : OptionTable.standard.parse own = .ok options)
    (hagree : ParsedOptions.Agree rareOptions settings.options options)
    (hname : (ModuleName.resolve options (some settings.mode) settings.goal
      settings.inputs).outcome = .ok settings.moduleName)
    (hbeside : ModuleOutput.besideOutput options settings.moduleName settings.goal
        settings.workingDirectory =
      ModuleOutput.besideOutput settings.options settings.moduleName settings.goal
        settings.workingDirectory) :
    (settings.reworded options).Resolved surroundings own := by
  have h : ParsedOptions.Agree rareOptions options settings.options := hagree.symm
  have hknown : settings.options.Known := ParsedOptions.known_of_parse hresolved.options
  have hknown' : options.Known := ParsedOptions.known_of_parse hparse
  exact {
    options := hparse
    workingDirectory := (workingDirectoryOf_eq h).trans hresolved.workingDirectory
    inputs := (inputsOf_eq h).trans hresolved.inputs
    target := (targetOf_eq h).trans hresolved.target
    outputFileMap :=
      (congrArg Diagnosed.outcome (outputFileMapOf_eq h)).trans hresolved.outputFileMap
    mode := hresolved.mode.trans (compilerMode_eq hagree)
    goal := hresolved.goal.trans (goal_eq hagree hknown hknown')
    debug := hresolved.debug.trans (debugInfo_eq hagree hknown hknown')
    moduleName := hname
    moduleFiles :=
      (congrArg Diagnosed.outcome (moduleFilesOf_eq h hbeside)).trans hresolved.moduleFiles }

end Settings

/-! ## Requests -/

namespace Driver

variable {request expanded own : List String} {options : ParsedOptions}
  {notices : List Notice}

/-- A request to a building driver has this command line when its response files are expanded, and
these notices are made in expanding them. -/
def Reads (surroundings : Surroundings) (request : List String) (kind : BuildKind)
    (options : ParsedOptions) (notices : List Notice) : Prop :=
  ∃ expanded own, ResponseFile.expand surroundings.fileSystem request = ⟨notices, .ok expanded⟩ ∧
    Invocation.ofArguments expanded = .ok ⟨.build kind, own⟩ ∧
    OptionTable.standard.parse own = .ok options

/-- The driver of a build. -/
def ofSettings (environment : Environment) (arguments ownArguments : List String)
    (settings : Settings) : Driver where
  arguments
  ownArguments
  request := .build settings
  toolchain := ⟨some settings.target.family, environment⟩

lemma Reads.known (h : Reads surroundings request kind options notices) : options.Known := by
  obtain ⟨expanded, own, -, -, hparse⟩ := h
  exact ParsedOptions.known_of_parse hparse

lemma reads_of_plain (hplain : ResponseFile.Plain request)
    (hinvocation : Invocation.ofArguments request = .ok ⟨.build kind, own⟩)
    (hparse : OptionTable.standard.parse own = .ok options) :
    Reads surroundings request kind options [] :=
  ⟨request, own, ResponseFile.expandIn_eq_self hplain, hinvocation, hparse⟩

/-- What is found by parsing two requests holds of the command lines that they have. -/
lemma exists_reads_of_any {request' : List String}
    {property : ParsedOptions → ParsedOptions → Prop} [DecidableRel property]
    (hplain : ResponseFile.Plain request) (hplain' : ResponseFile.Plain request')
    (hinvocation : Invocation.ofArguments request = .ok ⟨.build kind, request.tail⟩)
    (hinvocation' : Invocation.ofArguments request' = .ok ⟨.build kind, request'.tail⟩)
    (h : ((OptionTable.standard.parse request.tail).toOption.any fun options =>
      (OptionTable.standard.parse request'.tail).toOption.any fun options' =>
        decide (property options options')) = true) :
    ∃ options options', Reads surroundings request kind options [] ∧
      Reads surroundings request' kind options' [] ∧ property options options' := by
  obtain ⟨options, hparse, hany⟩ := (Option.any_eq_true _ _).1 h
  obtain ⟨options', hparse', hproperty⟩ := (Option.any_eq_true _ _).1 hany
  exact ⟨options, options', reads_of_plain hplain hinvocation (toOption_eq_some.1 hparse),
    reads_of_plain hplain' hinvocation' (toOption_eq_some.1 hparse'), of_decide_eq_true hproperty⟩

/-- What becomes of a request is decided by its command line. -/
lemma Reads.ofArguments_eq (h : Reads surroundings request kind options notices)
    (environment : Environment) :
    ∃ expanded own, OptionTable.standard.parse own = .ok options ∧
      ofArguments surroundings environment request = (do
        Diagnosed.noteAll notices
        let settings ← Settings.resolveOptions surroundings kind options
        return ofSettings environment expanded own settings) := by
  obtain ⟨expanded, own, hexpand, hinvocation, hparse⟩ := h
  have hrequest : requestOf surroundings ⟨.build kind, own⟩ = (do
      return .build (← Settings.resolveOptions surroundings kind options)) := by
    show (do return Request.build (← Settings.resolve surroundings kind own)) = _
    rw [Settings.resolve_of_parse hparse]
  have hinvoke {β : Type} (next : Invocation → Diagnosed β) :
      (liftM (Invocation.ofArguments expanded) : Diagnosed Invocation) >>= next =
        next ⟨.build kind, own⟩ := by
    rw [hinvocation]
    rfl
  have hnotices : (⟨notices, .ok expanded⟩ : Diagnosed (List String)) = (do
      Diagnosed.noteAll notices
      return expanded) :=
    congrArg (Diagnosed.mk · _) (List.append_nil notices).symm
  refine ⟨expanded, own, hparse, ?_⟩
  rw [ofArguments, hexpand, hnotices]
  simp only [hinvoke, hrequest, bind_assoc, pure_bind]
  rfl

end Driver

end SwiftPlan
