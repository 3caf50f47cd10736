import Mathlib.Tactic.Simps.Basic
import SwiftPlan.Cli.Run
import SwiftPlan.Proofs.Plan.Reworded
import SwiftPlan.Proofs.Plan.Success

/-!
# Modules with a bad name

A name that is given for the module is kept even if no module can have it.  This is noted, and the
build goes on.  How far it goes is a question about the paths that are made from the name: the
module itself, objects and products are called after it.  A name that is not empty and does not
begin at the root can stand at the front of a path, whatever else is wrong with it, and then all of
the work is done that would be done for a module with the name `main` (`planRequest_renamed`).  With
other names the build may fail, although they are noted like any bad name
(`exists_bad_name_refused`).

Two computations are compared, of which one is known to succeed (`Follows`, `Tracks`).  They differ
where the name is used, and there the only errors are those of a name that can stand at the front of
no path (`Misnamed`).
-/

namespace SwiftPlan

/-- The error comes from a name that can stand at the front of no path. -/
def Misnamed (name : String) (error : PathError) : Prop :=
  VirtualPath.isUnrooted name = false ∧
    ∃ text, error = .notRelative text ∨ error = .notTemporary text

/-- The settings of a build whose module has another name and other files. -/
@[simps]
def Settings.renamed (settings : Settings) (moduleName : String)
    (moduleFiles : Option ModuleFiles) : Settings :=
  { settings with moduleName, moduleFiles }

variable {α β : Type} {name text : String}

/-! ## Paths that are named after the module -/

lemma VirtualPath.isUnrooted_append {rest : String} (h : isUnrooted name = true) :
    isUnrooted (name ++ rest) = true := by
  simp only [isUnrooted, Bool.and_eq_true, decide_eq_true_eq, Bool.not_eq_true'] at h ⊢
  obtain ⟨hne, hrooted⟩ := h
  rw [isRooted] at hrooted ⊢
  cases hchars : name.toList with
  | nil => exact absurd (String.toList_eq_nil_iff.1 hchars) hne
  | cons first chars =>
    rw [hchars] at hrooted
    refine ⟨fun hempty => ?_, ?_⟩
    · have hnil := String.toList_eq_nil_iff.2 hempty
      simp [hchars] at hnil
    · rw [String.toList_append, hchars]
      exact hrooted

/-- If the name can stand at the front of a path then so can what begins with it. -/
lemma follows_check {path : α} {error : PathError} {other : Except PathError β}
    (herror : ∃ text, error = .notRelative text ∨ error = .notTemporary text)
    (h : VirtualPath.isUnrooted name = true → VirtualPath.isUnrooted text = true) :
    Follows (Misnamed name) (if VirtualPath.isUnrooted text then .ok path else .error error)
      other := by
  intro _
  by_cases hname : VirtualPath.isUnrooted name = true
  · rw [if_pos (h hname)]
    exact .inl (.ok path)
  · split
    · exact .inl (.ok path)
    · exact .inr ⟨error, ⟨by simpa using hname, herror⟩, rfl⟩

lemma follows_relative {other : Except PathError α}
    (h : VirtualPath.isUnrooted name = true → VirtualPath.isUnrooted text = true) :
    Follows (Misnamed name) (VirtualPath.relative text) other :=
  follows_check ⟨text, .inl rfl⟩ h

lemma follows_temporary {other : Except PathError α}
    (h : VirtualPath.isUnrooted name = true → VirtualPath.isUnrooted text = true) :
    Follows (Misnamed name) (VirtualPath.temporary text) other :=
  follows_check ⟨text, .inr rfl⟩ h

/-- What the errors of a bad name are to a request. -/
def MisnamedRequest (name : String) (failure : Failure) : Prop :=
  ∃ error, Misnamed name error ∧ failure = .driver (.path error)

/-! ## Module files -/

section

variable {options : ParsedOptions} {goal : BuildGoal} {level : Option DebugLevel}
  {directory : Option VirtualPath} {output output' : ModuleOutput} {other : String}

lemma isUnrooted_fileName (h : VirtualPath.isUnrooted name = true) :
    VirtualPath.isUnrooted (ModuleOutput.fileName name) = true := by
  rw [ModuleOutput.fileName, String.append_assoc]
  exact VirtualPath.isUnrooted_append h

/-- Whether there is room beside a path does not depend on what goes there. -/
lemma sibling_follows {kind : PathError → Prop} {path : VirtualPath} :
    Follows kind (path.sibling name) (path.sibling other) := by
  rintro ⟨result, hresult⟩
  rw [VirtualPath.sibling] at hresult ⊢
  split at hresult
  · exact .inl (.ok _)
  · obtain ⟨hstream, -⟩ := VirtualPath.appending_eq_ok.1 hresult
    exact .inl ⟨_, VirtualPath.appending_eq_ok.2 ⟨hstream, rfl⟩⟩

lemma besideOutput_follows (hanchor : IsAnchor directory) :
    Follows (Misnamed name) (ModuleOutput.besideOutput options name goal directory)
      (ModuleOutput.besideOutput options other goal directory) := by
  rw [ModuleOutput.besideOutput, ModuleOutput.besideOutput]
  split
  · refine .bind_same fun place _ => ?_
    split
    · exact .refl _
    · exact sibling_follows
  · exact (follows_relative isUnrooted_fileName).bind fun _ _ _ _ =>
      (succeeds_resolvedIn hanchor).follows

open Diagnosed

/-- A place that is named after the module takes the place of one that is named after another. -/
lemma moduleOutput_tracks (hanchor : IsAnchor directory) :
    Tracks (MisnamedRequest name) (fun output output' => output.isSome = output'.isSome) []
      (ModuleOutput.resolve options name goal level directory)
      (ModuleOutput.resolve options other goal level directory) := by
  rw [ModuleOutput.resolve, ModuleOutput.resolve]
  split
  · refine .bind_same fun value _ => ?_
    cases value with
    | some value => exact .bind_same fun _ _ => tracks_pure rfl
    | none => exact tracks_lift_bind (besideOutput_follows hanchor) fun _ _ _ _ => tracks_pure rfl
  · split
    · exact tracks_lift_bind (follows_temporary isUnrooted_fileName) fun _ _ _ _ =>
        tracks_pure rfl
    · exact tracks_pure rfl

/-- Beside a file that is no stream there is room for documentation. -/
lemma documentation_tracks {kind : Failure → Prop} (hstream : output.path.isStream = false) :
    Tracks kind (fun _ _ => True) [] (output.documentation options directory)
      (output'.documentation options directory) := by
  refine .bind_same fun value _ => ?_
  cases value with
  | some value =>
    intro path hpath
    exact .inl ⟨path, hpath, trivial, noted_nil.2 rfl⟩
  | none =>
    have hpath : Succeeds (output.path.withExtension FileType.swiftDocumentation.extension) :=
      ⟨_, (VirtualPath.withExtension_eq_ok (by decide)).2 ⟨hstream, rfl⟩⟩
    intro _ _
    obtain ⟨path, hpath⟩ := hpath
    exact .inl ⟨path, outcome_lift_path.2 hpath, trivial, noted_nil.2 rfl⟩

lemma moduleFilesOf_tracks (hanchor : IsAnchor directory) :
    Tracks (MisnamedRequest name) (fun files files' => files.isSome = files'.isSome) []
      (Settings.moduleFilesOf options name goal level directory)
      (Settings.moduleFilesOf options other goal level directory) := by
  refine (moduleOutput_tracks hanchor).bind fun output output' houtput _ hsame => ?_
  cases output with
  | none =>
    obtain rfl : output' = none := by simpa using hsame.symm
    exact tracks_pure rfl
  | some output =>
    obtain ⟨output', rfl⟩ := Option.isSome_iff_exists.1 hsame.symm
    have hstream := (modulePath_resolve houtput).isStream hanchor
    exact (documentation_tracks hstream).bind fun _ _ _ _ _ => tracks_pure rfl

end

namespace Plan

variable {surroundings : Surroundings} {arguments : List String} {settings : Settings}
  {files : Option ModuleFiles} {unit : CompileUnit} {product : LinkProduct}
  {compiles compiles' : List Job}

lemma mappedOr_follows {kind : PathError → Prop} {type : FileType}
    {step other : Except PathError VirtualPath} (h : Follows kind step other) :
    Follows kind (unit.mappedOr (settings.renamed name files) type step)
      (unit.mappedOr settings type other) := by
  unfold CompileUnit.mappedOr
  have hmapped : unit.mapped? (settings.renamed name files) type = unit.mapped? settings type := rfl
  rw [hmapped]
  split
  · exact (Succeeds.ok _).follows
  · exact h

lemma frontendOptions_follows {kind : PathError → Prop} :
    Follows kind (frontendOptions (settings.renamed name files)) (frontendOptions settings) := by
  have hforwarded : forwarded (settings.renamed name files) = forwarded settings := rfl
  have hheader : headerOption (settings.renamed name files) = headerOption settings := rfl
  rw [frontendOptions, frontendOptions, Settings.renamed_options, hforwarded, hheader]
  exact .bind_same fun _ _ => .bind_same fun _ _ => .pure _

section

variable (hresolved : (settings.renamed name files).Resolved surroundings arguments)
  (hfiles : files.isSome = settings.moduleFiles.isSome)

include hresolved

/-! ## Jobs that compile -/

/-- What a unit writes is named after the module or after its source, and sources have proper
names. -/
lemma isUnrooted_stem (hunit : unit ∈ compileUnits settings) {rest : String}
    (hname : VirtualPath.isUnrooted name = true) :
    VirtualPath.isUnrooted (unit.stem (settings.renamed name files) ++ rest) = true := by
  have hunit' : unit ∈ compileUnits (settings.renamed name files) := hunit
  refine VirtualPath.isUnrooted_append ?_
  rcases stem_eq_or_isEnding hresolved hunit' with hmodule | hending
  · rw [hmodule]
    exact hname
  · exact VirtualPath.isUnrooted_of_isEnding hending

lemma scratchFile_follows (hunit : unit ∈ compileUnits settings) {type : FileType}
    {other : Except PathError α} :
    Follows (Misnamed name) (unit.scratchFile (settings.renamed name files) type) other := by
  refine follows_temporary fun hname => ?_
  rw [String.append_assoc]
  exact isUnrooted_stem hresolved hunit hname

lemma objectPath_follows (hunit : unit ∈ compileUnits settings) :
    Follows (Misnamed name) (unit.objectPath (settings.renamed name files))
      (unit.objectPath settings) := by
  have honly : unit.isOnly (settings.renamed name files) = unit.isOnly settings := by
    cases unit <;> rfl
  rw [CompileUnit.objectPath, CompileUnit.objectPath, Settings.renamed_goal,
    Settings.renamed_options, honly]
  by_cases hproduct : settings.goal.product?.isSome = true
  · rw [if_pos hproduct]
    exact scratchFile_follows hresolved hunit
  · rw [if_neg hproduct, if_neg hproduct]
    split
    · exact .refl _
    · refine (follows_relative fun hname => ?_).bind fun _ _ _ _ => ?_
      · rw [String.append_assoc]
        exact isUnrooted_stem hresolved hunit hname
      · exact (succeeds_resolvedIn hresolved.isAnchor).follows

lemma objectFiles_follows (hunit : unit ∈ compileUnits settings) :
    Follows (Misnamed name) (unit.objectFiles (settings.renamed name files))
      (unit.objectFiles settings) := by
  rw [CompileUnit.objectFiles, CompileUnit.objectFiles, Settings.renamed_goal]
  by_cases hobject : settings.goal.compilerOutput? = some .object
  · rw [if_pos hobject, if_pos hobject]
    exact (mappedOr_follows (objectPath_follows hresolved hunit)).bind fun _ _ _ _ => .pure _
  · rw [if_neg hobject]
    exact .pure _

lemma dependencyFiles_follows (hunit : unit ∈ compileUnits settings)
    {others others' : List CompileFile} :
    Follows (Misnamed name) (unit.dependencyFiles (settings.renamed name files) others)
      (unit.dependencyFiles settings others') := by
  have hbeside {other : Except PathError VirtualPath} :
      Follows (Misnamed name) (dependencyPath (settings.renamed name files) unit others) other := by
    rw [dependencyPath]
    split
    · next output path hbeside =>
      obtain ⟨-, hstream⟩ := Option.filter_eq_some_iff.1 hbeside
      have hpath : Succeeds (path.withExtension FileType.dependencies.extension) :=
        ⟨_, (VirtualPath.withExtension_eq_ok (by decide)).2 ⟨by simpa using hstream, rfl⟩⟩
      exact hpath.follows
    · exact scratchFile_follows hresolved hunit
  rw [CompileUnit.dependencyFiles, CompileUnit.dependencyFiles, Settings.renamed_options]
  by_cases hasked : settings.options.contains "-emit-dependencies" = true
  · rw [if_pos hasked, if_pos hasked]
    exact (mappedOr_follows hbeside).bind fun _ _ _ _ => .pure _
  · rw [if_neg hasked]
    exact .pure _

include hfiles

omit hresolved in
lemma writesPartialModules_renamed :
    writesPartialModules (settings.renamed name files) = writesPartialModules settings := by
  rw [writesPartialModules, writesPartialModules, ← hfiles]
  rfl

lemma moduleFiles_follows (hunit : unit ∈ compileUnits settings) :
    Follows (Misnamed name) (unit.moduleFiles (settings.renamed name files))
      (unit.moduleFiles settings) := by
  have hpart {type : FileType} :
      Follows (Misnamed name)
        (unit.mappedOr (settings.renamed name files) type
          (unit.scratchFile (settings.renamed name files) type))
        (unit.mappedOr settings type (unit.scratchFile settings type)) :=
    mappedOr_follows (scratchFile_follows hresolved hunit)
  rw [CompileUnit.moduleFiles, CompileUnit.moduleFiles, Settings.renamed_moduleFiles,
    writesPartialModules_renamed hfiles]
  cases files with
  | none => exact .pure _
  | some written =>
    obtain ⟨written', hwritten'⟩ := Option.isSome_iff_exists.1 hfiles.symm
    simp only [hwritten']
    split
    · exact hpart.bind fun _ _ _ _ => hpart.bind fun _ _ _ _ => .pure _
    · exact .pure _

lemma compileJob_follows (hunit : unit ∈ compileUnits settings) :
    Follows (Misnamed name) (compileJob (settings.renamed name files) unit)
      (compileJob settings unit) := by
  have hwritten : Follows (Misnamed name) (unit.files (settings.renamed name files))
      (unit.files settings) :=
    (objectFiles_follows hresolved hunit).bind fun _ _ _ _ =>
      (moduleFiles_follows hresolved hfiles hunit).bind fun _ _ _ _ =>
        (dependencyFiles_follows hresolved hunit).bind fun _ _ _ _ => .pure _
  exact hwritten.bind fun _ _ _ _ => frontendOptions_follows.bind fun _ _ _ _ => .pure _

lemma compileJobs_follows :
    Follows (Misnamed name) (compileJobs (settings.renamed name files)) (compileJobs settings) :=
  .mapM fun _ hunit => compileJob_follows hresolved hfiles hunit

/-! ## The product -/

omit hresolved in
lemma mergeJobs_follows :
    Follows (Misnamed name) (mergeJobs (settings.renamed name files) compiles)
      (mergeJobs settings compiles') := by
  rw [mergeJobs, mergeJobs, Settings.renamed_moduleFiles, writesPartialModules_renamed hfiles]
  cases files with
  | none => exact .pure _
  | some written =>
    obtain ⟨written', hwritten'⟩ := Option.isSome_iff_exists.1 hfiles.symm
    simp only [hwritten']
    split
    · have hmerge (parts parts' : List TypedPath) :
          Follows (Misnamed name) (mergeJob (settings.renamed name (some written)) written parts)
            (mergeJob settings written' parts') := by
        have hheader : headerOption (settings.renamed name (some written)) =
            headerOption settings := rfl
        rw [mergeJob, mergeJob, hheader]
        exact .bind_same fun _ _ => .pure _
      exact (hmerge _ _).bind fun _ _ _ _ => .pure _
    · exact .pure _

omit hfiles

lemma productPath_follows :
    Follows (Misnamed name) (productPath (settings.renamed name files) product)
      (productPath settings product) := by
  rw [productPath, productPath, Settings.renamed_options]
  split
  · exact .refl _
  · refine (follows_relative fun hname => ?_).bind fun _ _ _ _ =>
      (succeeds_resolvedIn hresolved.isAnchor).follows
    have hlibrary (rest : String) :
        VirtualPath.isUnrooted ("lib" ++ name ++ "." ++ rest) = true := by
      rw [String.append_assoc, String.append_assoc]
      exact VirtualPath.isUnrooted_append (by decide)
    cases product with
    | executable => exact hname
    | dynamicLibrary => exact hlibrary _
    | staticLibrary => exact hlibrary _

omit hresolved in
lemma extractJobs_follows {objects objects' : List TypedPath} :
    Follows (Misnamed name) (extractJobs (settings.renamed name files) objects)
      (extractJobs settings objects') := by
  have hextract : Follows (Misnamed name)
      (autolinkExtractJob (settings.renamed name files) objects)
      (autolinkExtractJob settings objects') := by
    refine (follows_temporary fun hname => ?_).bind fun _ _ _ _ => .pure _
    rw [String.append_assoc]
    exact VirtualPath.isUnrooted_append hname
  rw [extractJobs, extractJobs, Settings.renamed_target]
  split
  · exact hextract.bind fun _ _ _ _ => .pure _
  · exact .pure _

omit hresolved in
lemma linkJob_follows {inputs inputs' : LinkInputs} {output output' : VirtualPath} :
    Follows (Misnamed name) (linkJob (settings.renamed name files) product inputs output)
      (linkJob settings product inputs' output') := by
  have hoptions : linkerOptions (settings.renamed name files) = linkerOptions settings := rfl
  unfold linkJob
  rw [Settings.renamed_target]
  split
  · exact .pure _
  · rw [darwinLinkJob, darwinLinkJob, hoptions]
    exact .bind_same fun _ _ => .pure _
  · rw [elfLinkJob, elfLinkJob, hoptions]
    exact .bind_same fun _ _ => .pure _

lemma productJobs_follows :
    Follows (Misnamed name) (productJobs (settings.renamed name files) compiles)
      (productJobs settings compiles') := by
  rw [productJobs, productJobs, Settings.renamed_goal]
  split
  · exact .pure _
  · exact extractJobs_follows.bind fun _ _ _ _ =>
      (productPath_follows hresolved).bind fun _ _ _ _ =>
        linkJob_follows.bind fun _ _ _ _ => .pure _

/-! ## Plans -/

include hfiles

lemma buildJobs_follows :
    Follows (Misnamed name) (buildJobs (settings.renamed name files)) (buildJobs settings) :=
  (compileJobs_follows hresolved hfiles).bind fun _ _ _ _ =>
    (mergeJobs_follows hfiles).bind fun _ _ _ _ =>
      (productJobs_follows hresolved).bind fun _ _ _ _ => .pure _

omit hresolved in
lemma shape_renamed : shape (settings.renamed name files) = shape settings := by
  have hmerges : mergesModule (settings.renamed name files) ↔ mergesModule settings := by
    rw [mergesModule, mergesModule, ← hfiles]
    rfl
  rw [shape, shape]
  simp only [hmerges]
  rfl

open Diagnosed

/-- With another name a build has jobs of the same kinds. -/
lemma ofSettings_tracks :
    Tracks (MisnamedRequest name) (fun jobs jobs' => jobs.map (·.kind) = jobs'.map (·.kind)) []
      (ofSettings (settings.renamed name files)) (ofSettings settings) := by
  have hanchor : IsAnchor settings.workingDirectory := hresolved.isAnchor
  have hunused : unusedInputs (settings.renamed name files) = unusedInputs settings := rfl
  have hoptions : Follows (Misnamed name) (frontendOptions (settings.renamed name files))
      (frontendOptions settings) := frontendOptions_follows
  rw [ofSettings, ofSettings, Settings.renamed_mode, Settings.renamed_inputs, hunused]
  cases hmode : settings.mode with
  | repl =>
    have hrepl : Follows (Misnamed name) (replJob (settings.renamed name files))
        (replJob settings) := hoptions.bind fun _ _ _ _ => .pure _
    refine tracks_lift_bind hrepl fun job job' hjob hjob' => tracks_pure ?_
    simp [(replJob_eq_ok hjob).1, (replJob_eq_ok hjob').1]
  | immediate =>
    have hinterpret : Follows (Misnamed name) (interpretJob (settings.renamed name files))
        (interpretJob settings) := hoptions.bind fun _ _ _ _ => .pure _
    refine tracks_lift_bind hinterpret fun job job' hjob hjob' => tracks_pure ?_
    simp [(interpretJob_eq_ok hjob).1, (interpretJob_eq_ok hjob').1]
  | standard | single =>
    have hcompiles : settings.mode = .standard ∨ settings.mode = .single := by simp [hmode]
    simp only
    split
    · exact .bind_same fun _ _ => tracks_pure rfl
    · have hkinds (jobs jobs' : List Job)
          (hjobs : buildJobs (settings.renamed name files) = .ok jobs)
          (hjobs' : buildJobs settings = .ok jobs') :
          jobs.map (·.kind) = jobs'.map (·.kind) := by
        have hshaped : Shaped (settings.renamed name files) jobs :=
          shaped_buildJobs hanchor hcompiles hjobs
        rw [hshaped.kinds, (shaped_buildJobs hanchor hcompiles hjobs').kinds, shape_renamed hfiles]
      exact .bind_same fun _ _ =>
        tracks_lift (buildJobs_follows hresolved hfiles) hkinds

end

end Plan

/-! ## Requests -/

section

open Diagnosed

variable {surroundings : Surroundings} {kind : BuildKind} {options options' : ParsedOptions}
  {inputs : List TypedPath} {goal : BuildGoal}

/-- A name that is given is taken. -/
lemma moduleName_resolve {mode : Option CompilerMode}
    (h : options.lastValue? ["-module-name"] = some name) :
    ModuleName.resolve options mode goal inputs = (do
      noteAll (ModuleName.notices options name)
      return name) := by
  rw [ModuleName.resolve, h]

lemma notices_fallback : ModuleName.notices options ModuleName.fallback = [] := by
  have hidentifier : Text.isIdentifier ModuleName.fallback = true := by decide +kernel
  have hother : ModuleName.fallback ≠ ModuleName.standardLibrary := by decide
  rw [ModuleName.notices, if_neg (by simp [hother]), if_pos hidentifier]

/-- A name is noted exactly if no module can have it. -/
lemma length_notices :
    (ModuleName.notices options name).length =
      if Text.isIdentifier name = false ∨
        name = ModuleName.standardLibrary ∧ options.contains "-parse-stdlib" = false
      then 1 else 0 := by
  rw [ModuleName.notices]
  by_cases hreserved : name = ModuleName.standardLibrary ∧ ¬options.contains "-parse-stdlib"
  · rw [if_pos hreserved, if_pos (.inr (by simpa using hreserved))]
    rfl
  · have hother : ¬(name = ModuleName.standardLibrary ∧
        options.contains "-parse-stdlib" = false) := by simpa using hreserved
    rw [if_neg hreserved]
    by_cases hidentifier : Text.isIdentifier name = true
    · rw [if_pos hidentifier, if_neg (by simp [hidentifier, hother])]
      rfl
    · rw [if_neg hidentifier, if_pos (.inl (by simpa using hidentifier))]
      rfl

/-- The settings are the other ones with another name, and both have module files or neither has. -/
def Renames (name : String) (options : ParsedOptions) (settings settings' : Settings) : Prop :=
  ∃ files, settings = (settings'.reworded options).renamed name files ∧
    files.isSome = settings'.moduleFiles.isSome

lemma resolveOptions_tracks (hknown : options.Known) (hknown' : options'.Known)
    (hagree : ParsedOptions.Agree ["-module-name"] options options')
    (hname : options.lastValue? ["-module-name"] = some name)
    (hname' : options'.lastValue? ["-module-name"] = some ModuleName.fallback) :
    Tracks (MisnamedRequest name) (Renames name options) (ModuleName.notices options name)
      (Settings.resolveOptions surroundings kind options)
      (Settings.resolveOptions surroundings kind options') := by
  have h : ParsedOptions.Agree rareOptions options options' := hagree.mono (by decide)
  have hnoted {mode : Option CompilerMode} {goal : BuildGoal} {inputs : List TypedPath} :
      Tracks (MisnamedRequest name) (fun own own' => own = name ∧ own' = ModuleName.fallback)
        (ModuleName.notices options name) (ModuleName.resolve options mode goal inputs)
        (ModuleName.resolve options' mode goal inputs) := by
    rw [moduleName_resolve hname, moduleName_resolve hname', notices_fallback]
    exact tracks_noteAll.bind_of_noted fun _ _ _ _ _ => tracks_pure ⟨rfl, rfl⟩
  unfold Settings.resolveOptions
  rw [← workingDirectoryOf_eq h]
  refine .bind_same fun directory hdirectory => ?_
  have hanchor : IsAnchor directory :=
    Settings.isAnchor_workingDirectoryOf (outcome_lift_path.1 hdirectory)
  rw [← inputsOf_eq h, ← targetOf_eq h, ← outputFileMapOf_eq h, ← goal_eq h hknown hknown',
    ← debugInfo_eq h hknown hknown', ← debugNotices_eq h hknown hknown']
  refine .bind_same fun inputs _ => ?_
  rw [← compilerMode_eq h]
  refine .bind_same fun target _ => .bind_same fun map _ => .bind_same fun _ _ => ?_
  refine hnoted.bind_of_noted fun own own' _ _ hnames => ?_
  obtain ⟨rfl, rfl⟩ := hnames
  rw [← moduleFilesOf_eq h (besideOutput_eq (hagree.mono (by decide)))]
  refine (moduleFilesOf_tracks hanchor).bind fun files files' _ _ hfiles => ?_
  exact tracks_pure ⟨files, rfl, hfiles⟩

lemma plan_tracks {environment : Environment} {arguments own arguments' own' : List String}
    {settings settings' : Settings} (hrenames : Renames name options settings settings')
    (hresolved : settings.Resolved surroundings own)
    (hagree : ParsedOptions.Agree ["-module-name"] settings'.options options) :
    Tracks (MisnamedRequest name) (fun jobs jobs' => jobs.map (·.kind) = jobs'.map (·.kind)) []
      (Driver.ofSettings environment arguments own settings).plan
      (Driver.ofSettings environment arguments' own' settings').plan := by
  obtain ⟨files, rfl, hfiles⟩ := hrenames
  have hlinker : Plan.linkerOptions (settings'.reworded options) = Plan.linkerOptions settings' :=
    Plan.linkerOptions_reworded (hagree.mono (by decide))
  have hrewords : Plan.Rewords settings' options := Plan.rewords_of_agree (hagree.mono (by decide))
  have hreworded : Plan.ofSettings (settings'.reworded options) = Plan.ofSettings settings' :=
    Plan.ofSettings_reworded hrewords fun _ _ _ _ => Plan.linkJob_reworded hlinker
  have hjobs := Plan.ofSettings_tracks hresolved hfiles
  rw [hreworded] at hjobs
  refine hjobs.bind fun jobs jobs' _ _ hkinds => tracks_pure ?_
  rw [List.map_map, List.map_map]
  exact hkinds

lemma resolveOptions_plan_tracks {environment : Environment}
    {arguments own arguments' own' : List String} (hknown : options.Known)
    (hknown' : options'.Known) (hparse : OptionTable.standard.parse own = .ok options)
    (hagree : ParsedOptions.Agree ["-module-name"] options options')
    (hname : options.lastValue? ["-module-name"] = some name)
    (hname' : options'.lastValue? ["-module-name"] = some ModuleName.fallback) :
    Tracks (MisnamedRequest name) (fun jobs jobs' => jobs.map (·.kind) = jobs'.map (·.kind))
      (ModuleName.notices options name)
      (do
        let settings ← Settings.resolveOptions surroundings kind options
        (Driver.ofSettings environment arguments own settings).plan)
      (do
        let settings ← Settings.resolveOptions surroundings kind options'
        (Driver.ofSettings environment arguments' own' settings).plan) := by
  refine (resolveOptions_tracks hknown hknown' hagree hname hname').bind_of_noted
    fun settings settings' hsettings hsettings' hrenames => ?_
  have hresolved : settings.Resolved surroundings own := by
    rw [← Settings.resolve_of_parse hparse] at hsettings
    exact (resolve_eq_ok.1 hsettings).2
  have hoptions' : settings'.options = options' := Settings.options_of_resolveOptions hsettings'
  exact plan_tracks hrenames hresolved (hoptions' ▸ hagree.symm)

end

namespace Cli

variable {surroundings : Surroundings} {kind : BuildKind} {first second : List String}
  {options options' : ParsedOptions} {before before' : List Notice}

/-- The plan of a request to build is that of the settings that its command line comes down to. -/
lemma planRequest_of_reads (h : Driver.Reads surroundings first kind options before)
    (environment : Environment) :
    ∃ expanded own, OptionTable.standard.parse own = .ok options ∧
      planRequest surroundings environment first = (do
        Diagnosed.noteAll before
        let settings ← Settings.resolveOptions surroundings kind options
        (Driver.ofSettings environment expanded own settings).plan) := by
  obtain ⟨expanded, own, hparse, hdriver⟩ := h.ofArguments_eq environment
  refine ⟨expanded, own, hparse, ?_⟩
  rw [planRequest, hdriver]
  simp only [bind_assoc, pure_bind]

/-- **A bad name is passed over.**  Take a request that names the module, and one that differs from
it only in that the name is `main`.  If the second one can be planned then so can the first one,
with jobs of the same kinds and with the same notices besides those on the name, of which there is
one exactly if no module can have the name; unless the name is empty or begins at the root, when a
path that begins with it may be what the request fails with. -/
theorem planRequest_renamed (hfirst : Driver.Reads surroundings first kind options before)
    (hsecond : Driver.Reads surroundings second kind options' before')
    (hagree : ParsedOptions.Agree ["-module-name"] options options') {name : String}
    (hname : options.lastValue? ["-module-name"] = some name)
    (hname' : options'.lastValue? ["-module-name"] = some ModuleName.fallback)
    {environment : Environment} {jobs' : List Job}
    (hplan : (planRequest surroundings environment second).outcome = .ok jobs') :
    (∃ jobs early extra late,
        (planRequest surroundings environment first).outcome = .ok jobs ∧
          jobs.map (·.kind) = jobs'.map (·.kind) ∧
          (planRequest surroundings environment first).notices =
            before ++ early ++ extra ++ late ∧
          (planRequest surroundings environment second).notices = before' ++ early ++ late ∧
          extra.length =
            if Text.isIdentifier name = false ∨
              name = ModuleName.standardLibrary ∧ options.contains "-parse-stdlib" = false
            then 1 else 0) ∨
      ∃ error, Misnamed name error ∧
        (planRequest surroundings environment first).outcome = .error (.driver (.path error)) := by
  obtain ⟨expanded, own, hparse, hrequest⟩ := planRequest_of_reads hfirst environment
  obtain ⟨expanded', own', -, hrequest'⟩ := planRequest_of_reads hsecond environment
  rw [hrequest'] at hplan
  rw [hrequest, hrequest']
  rcases resolveOptions_plan_tracks hfirst.known hsecond.known hparse hagree hname hname' jobs'
    hplan with ⟨jobs, hjobs, hkinds, early, late, hnotices, hnotices'⟩ | ⟨failure, hkind, hfailure⟩
  · refine .inl ⟨jobs, early, ModuleName.notices options name, late, hjobs, hkinds, ?_, ?_,
      length_notices⟩
    · rw [List.append_assoc before, List.append_assoc before, ← hnotices]
      rfl
    · rw [List.append_assoc before', ← hnotices']
      rfl
  · obtain ⟨error, herror, rfl⟩ := hkind
    exact .inr ⟨error, herror, hfailure⟩

/-- A plain request is planned from its arguments as they were written. -/
lemma planRequest_of_plain {environment : Environment} (h : ResponseFile.Plain first) :
    planRequest surroundings environment first = (do
      (← Driver.ofPlainArguments surroundings environment first).plan) := by
  rw [planRequest, Driver.ofArguments_of_plain h]

/-- A module of two sources, with a name that is no identifier. -/
theorem planRequest_renamed_of_hyphen :
    let first := ["swiftc", "-emit-module", "a.swift", "b.swift", "-module-name", "not-valid"]
    let second := ["swiftc", "-emit-module", "a.swift", "b.swift", "-module-name", "main"]
    ∃ options options', Driver.Reads .bare first .batch options [] ∧
      Driver.Reads .bare second .batch options' [] ∧
      ParsedOptions.Agree ["-module-name"] options options' ∧
      options.lastValue? ["-module-name"] = some "not-valid" ∧
      options'.lastValue? ["-module-name"] = some "main" ∧
      ∃ jobs jobs' early notice late, (planRequest .bare [] first).outcome = .ok jobs ∧
        (planRequest .bare [] second).outcome = .ok jobs' ∧
        jobs.map (·.kind) = jobs'.map (·.kind) ∧
        (planRequest .bare [] first).notices = early ++ [notice] ++ late ∧
        (planRequest .bare [] second).notices = early ++ late := by
  intro first second
  obtain ⟨options, options', hfirst, hsecond, hagree, hname, hname'⟩ :
      ∃ options options', Driver.Reads .bare first .batch options [] ∧
        Driver.Reads .bare second .batch options' [] ∧
        ParsedOptions.Agree ["-module-name"] options options' ∧
        options.lastValue? ["-module-name"] = some "not-valid" ∧
        options'.lastValue? ["-module-name"] = some "main" :=
    Driver.exists_reads_of_any (by decide +kernel) (by decide +kernel) (by decide +kernel)
      (by decide +kernel) (by decide +kernel)
  have hsome : (planRequest .bare [] second).outcome.toOption.isSome = true := by
    rw [planRequest_of_plain (by decide +kernel)]
    decide +kernel
  obtain ⟨jobs', hjobs'⟩ := Option.isSome_iff_exists.1 hsome
  have hplan : (planRequest .bare [] second).outcome = .ok jobs' := toOption_eq_some.1 hjobs'
  have hbad : Text.isIdentifier "not-valid" = false := by decide +kernel
  have hproper : VirtualPath.isUnrooted "not-valid" = true := by decide
  rcases planRequest_renamed hfirst hsecond hagree hname hname' hplan with
    ⟨jobs, early, extra, late, hjobs, hkinds, hnotices, hnotices', hlength⟩ |
    ⟨error, ⟨hrooted, -⟩, -⟩
  · rw [if_pos (.inl hbad)] at hlength
    obtain ⟨notice, rfl⟩ := List.length_eq_one_iff.1 hlength
    exact ⟨options, options', hfirst, hsecond, hagree, hname, hname', jobs, jobs', early, notice,
      late, hjobs, hplan, hkinds, hnotices, hnotices'⟩
  · simp [hproper] at hrooted

/-- A request that names the module with an empty text is refused, although it is planned if the
name is `main`. -/
theorem exists_bad_name_refused :
    ∃ first second options options' jobs', Driver.Reads .bare first .batch options [] ∧
      Driver.Reads .bare second .batch options' [] ∧
      ParsedOptions.Agree ["-module-name"] options options' ∧
      options.lastValue? ["-module-name"] = some "" ∧
      options'.lastValue? ["-module-name"] = some "main" ∧
      (planRequest .bare [] second).outcome = .ok jobs' ∧
      (planRequest .bare [] first).outcome = .error (.driver (.path (.notRelative ""))) := by
  let first := ["swiftc", "a.swift", "-module-name", ""]
  let second := ["swiftc", "a.swift", "-module-name", "main"]
  obtain ⟨options, options', hfirst, hsecond, hagree, hname, hname'⟩ :
      ∃ options options', Driver.Reads .bare first .batch options [] ∧
        Driver.Reads .bare second .batch options' [] ∧
        ParsedOptions.Agree ["-module-name"] options options' ∧
        options.lastValue? ["-module-name"] = some "" ∧
        options'.lastValue? ["-module-name"] = some "main" :=
    Driver.exists_reads_of_any (by decide +kernel) (by decide +kernel) (by decide +kernel)
      (by decide +kernel) (by decide +kernel)
  have hsome : (planRequest .bare [] second).outcome.toOption.isSome = true := by
    rw [planRequest_of_plain (by decide +kernel)]
    decide +kernel
  obtain ⟨jobs', hjobs'⟩ := Option.isSome_iff_exists.1 hsome
  have hrefused : (planRequest .bare [] first).outcome =
      .error (.driver (.path (.notRelative ""))) := by
    rw [planRequest_of_plain (by decide +kernel)]
    rfl
  exact ⟨first, second, options, options', jobs', hfirst, hsecond, hagree, hname, hname',
    toOption_eq_some.1 hjobs', hrefused⟩

end Cli

end SwiftPlan
