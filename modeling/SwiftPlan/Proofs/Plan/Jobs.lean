import SwiftPlan.Proofs.VirtualPath

/-!
# The jobs of a plan

A plan is put together from the compile jobs, the merge of partial modules, and the jobs that make
the product.  For each of these steps there is one lemma here that says what it has produced if it
succeeded; whatever is proved about whole plans goes through these lemmas and not through the
definitions.
-/

namespace SwiftPlan.Plan

variable {settings : Settings} {unit : CompileUnit} {job : Job} {jobs compiles : List Job}

/-- What is linked is compiled to objects. -/
lemma compilerOutput?_of_product? {goal : BuildGoal} {product : LinkProduct}
    (h : goal.product? = some product) : goal.compilerOutput? = some .object := by
  cases goal with
  | link other => rfl
  | objects => rfl
  | module => simp [BuildGoal.product?] at h
  | noFiles => simp [BuildGoal.product?] at h

/-- No input is in the scratch directory. -/
lemma isTemporary_of_mem_inputs {surroundings : Surroundings} {arguments : List String}
    (hresolved : settings.Resolved surroundings arguments) {input : TypedPath}
    (h : input ∈ settings.inputs) : input.path.isTemporary = false := by
  obtain ⟨text, -, hinput⟩ := exists_of_mem_mapM hresolved.inputs h
  rcases inputOf_eq_ok hinput with rfl | ⟨path, -, -, htemporary, -, hplace, -⟩
  · rfl
  · exact (isTemporary_resolvedIn hresolved.isAnchor hplace).trans htemporary

/-! ## Units -/

/-- As many units are compiled as there are Swift inputs, or only one if they are compiled
together. -/
lemma length_compileUnits :
    (compileUnits settings).length =
      if settings.mode = .single then min 1 (swiftInputs settings).length
      else (swiftInputs settings).length := by
  rw [compileUnits]
  cases hinputs : swiftInputs settings with
  | nil => simp
  | cons input rest =>
    by_cases hmode : settings.mode = .single
    · simp [hmode]
    · simp [hmode]

lemma length_compileUnits_pos (h : swiftInputs settings ≠ []) :
    0 < (compileUnits settings).length := by
  have hpos := List.length_pos_iff.2 h
  rw [length_compileUnits]
  split <;> omega

lemma compileUnits_eq_nil_iff : compileUnits settings = [] ↔ swiftInputs settings = [] := by
  constructor
  · intro h
    by_contra hne
    have hpos := length_compileUnits_pos hne
    simp [h] at hpos
  · intro h
    simp [compileUnits, h]

/-- If inputs are not compiled together then there is a unit for each place, also if an input is
repeated. -/
lemma compileUnits_of_standard (hmode : settings.mode = .standard) :
    compileUnits settings =
      (swiftInputs settings).zipIdx.map fun marked => .primary marked.1 marked.2 := by
  rw [compileUnits]
  cases hinputs : swiftInputs settings with
  | nil => rfl
  | cons input rest => simp [hmode]

lemma compileUnits_of_single (hmode : settings.mode = .single) (h : swiftInputs settings ≠ []) :
    compileUnits settings = [.whole] := by
  simp [compileUnits, hmode, h]

/-- A source that is compiled by a job of its own is an input. -/
lemma mem_swiftInputs_of_mem_compileUnits {source : TypedPath} {index : Nat}
    (h : .primary source index ∈ compileUnits settings) : source ∈ swiftInputs settings := by
  rw [compileUnits] at h
  split at h
  · simp at h
  · split at h
    · simp at h
    · obtain ⟨marked, hmem, hsame⟩ := List.mem_map.1 h
      obtain ⟨rfl, -⟩ := CompileUnit.primary.inj hsame
      exact List.fst_mem_of_mem_zipIdx hmem

/-! ## Options that are handed on -/

/-- The options that are handed on with a path behind them. -/
def pathFlags : List String :=
  ["-I", "-F", "-sdk", "-api-diff-data-file", "-import-objc-header", "-L"]

/-- A property of arguments that holds of the pieces which single options are handed on as, and of
what is put together from such pieces. -/
structure Compositional (settings : Settings) (holds : List Argument → Prop) : Prop where
  nil : holds []
  append {first second : List Argument} (hfirst : holds first) (hsecond : holds second) :
    holds (first ++ second)
  flag (text : String) : holds [.flag text]
  option {spelling text : String} {path : VirtualPath} (hspelling : spelling ∈ pathFlags)
    (hpath : settings.path text = .ok path) : holds (Argument.option spelling path)

namespace Compositional

variable {holds : List Argument → Prop} {arguments : List Argument} {parsed : ParsedOption}

lemma flags (h : Compositional settings holds) (texts : List String) :
    holds (texts.map .flag) := by
  induction texts with
  | nil => exact h.nil
  | cons text rest ih => exact h.append (h.flag text) ih

lemma flag_if (h : Compositional settings holds) (asked : Bool) (text : String) :
    holds (if asked then [.flag text] else []) := by
  cases asked with
  | true => exact h.flag text
  | false => exact h.nil

/-- What holds of the arguments for each element of a command line holds of them together. -/
lemma flatten (h : Compositional settings holds)
    {step : ParsedOption → Except PathError (List Argument)} {elements : List ParsedOption}
    {results : List (List Argument)} (hresults : elements.mapM step = .ok results)
    (hstep : ∀ element arguments, step element = .ok arguments → holds arguments) :
    holds results.flatten := by
  induction mapM_eq_ok.1 hresults with
  | nil => exact h.nil
  | cons hfirst hrest ih => exact h.append (hstep _ _ hfirst) (ih (mapM_eq_ok.2 hrest))

lemma forwarded (h : Compositional settings holds)
    (hforwarded : forwarded settings parsed = .ok arguments) : holds arguments := by
  rw [Plan.forwarded] at hforwarded
  split at hforwarded
  · obtain rfl := pure_eq_ok.1 hforwarded
    exact h.nil
  · next identity hidentity =>
    split at hforwarded
    · next flag hflag =>
      obtain ⟨path, hpath, harguments⟩ := bind_eq_ok.1 hforwarded
      obtain rfl := pure_eq_ok.1 harguments
      refine h.option ?_ hpath
      obtain ⟨before, after, hflags, -⟩ := List.lookup_eq_some_iff.1 hflag
      have hmem : (identity, flag) ∈ before ++ (identity, flag) :: after := by simp
      rw [← hflags] at hmem
      simp only [List.mem_cons, Prod.mk.injEq, List.not_mem_nil, or_false] at hmem
      rcases hmem with ⟨-, rfl⟩ | ⟨-, rfl⟩ | ⟨-, rfl⟩ | ⟨-, rfl⟩ | ⟨-, rfl⟩ <;> simp [pathFlags]
    · split_ifs at hforwarded <;> obtain rfl := pure_eq_ok.1 hforwarded
      · exact h.flag _
      · exact h.flag _
      · exact h.nil

lemma headerOption (h : Compositional settings holds)
    (hheader : headerOption settings = .ok arguments) : holds arguments := by
  rw [Plan.headerOption] at hheader
  split at hheader
  · obtain rfl := pure_eq_ok.1 hheader
    exact h.nil
  · obtain ⟨path, hpath, harguments⟩ := bind_eq_ok.1 hheader
    obtain rfl := pure_eq_ok.1 harguments
    exact h.option (by simp [pathFlags]) hpath

lemma colorFlags (h : Compositional settings holds) (options : ParsedOptions) :
    holds (colorFlags options) := by
  rw [Plan.colorFlags]
  split
  · exact h.flag _
  · exact h.nil

lemma debugFlags (h : Compositional settings holds) : holds (debugFlags settings) := by
  rw [Plan.debugFlags]
  split
  · exact h.nil
  · next level hlevel =>
    exact h.append (h.append (h.flag level.flag) (h.flag_if _ _)) (h.flag _)

lemma frontendOptions (h : Compositional settings holds)
    (hoptions : frontendOptions settings = .ok arguments) : holds arguments := by
  obtain ⟨handedOn, hhandedOn, hrest⟩ := bind_eq_ok.1 hoptions
  obtain ⟨header, hheader, harguments⟩ := bind_eq_ok.1 hrest
  obtain rfl := pure_eq_ok.1 harguments
  have htarget : holds (targetFlags settings) := h.flags ["-target", settings.target.text]
  have hforwarded : holds handedOn.flatten := h.flatten hhandedOn fun _ _ hstep => h.forwarded hstep
  have hname : holds (moduleNameFlags settings) := h.flags ["-module-name", settings.moduleName]
  have hpassed := h.flags ((settings.options.allOf ["-Xfrontend"]).map (·.value))
  rw [List.map_map] at hpassed
  have hbefore := h.append (h.append (h.append htarget (h.colorFlags settings.options)) hforwarded)
    h.debugFlags
  have hbehind := h.append hbefore (h.headerOption hheader)
  exact h.append (h.append (h.append (h.append hbehind (h.flag_if _ _)) (h.flag_if _ _)) hname)
    hpassed

lemma linkerOptions (h : Compositional settings holds)
    (hoptions : linkerOptions settings = .ok arguments) : holds arguments := by
  obtain ⟨results, hresults, harguments⟩ := bind_eq_ok.1 hoptions
  obtain rfl := pure_eq_ok.1 harguments
  refine h.flatten hresults fun parsed arguments hstep => ?_
  rw [linkerArguments] at hstep
  split at hstep
  · obtain rfl := pure_eq_ok.1 hstep
    exact h.nil
  · split_ifs at hstep
    · obtain ⟨path, hpath, harguments⟩ := bind_eq_ok.1 hstep
      obtain rfl := pure_eq_ok.1 harguments
      exact h.option (by simp [pathFlags]) hpath
    · obtain rfl := pure_eq_ok.1 hstep
      exact h.flag _
    · split at hstep <;> obtain rfl := pure_eq_ok.1 hstep
      · exact h.flag _
      · exact h.flags ["-Xlinker", parsed.value]
    · obtain rfl := pure_eq_ok.1 hstep
      exact h.nil

end Compositional

/-! ## Files of a compile job -/

/-- A destination that the output-file map gives is the last word. -/
lemma mappedOr_of_mapped? {type : FileType} {path : VirtualPath}
    (h : unit.mapped? settings type = some path) (other : Except PathError VirtualPath) :
    unit.mappedOr settings type other = .ok path := by
  rw [CompileUnit.mappedOr, h]

lemma eq_of_mapped? {type : FileType} {path path' : VirtualPath}
    {other : Except PathError VirtualPath} (h : unit.mapped? settings type = some path)
    (hpath : unit.mappedOr settings type other = .ok path') : path = path' :=
  Except.ok.inj ((mappedOr_of_mapped? h other).symm.trans hpath)

lemma files_eq_ok {files : List CompileFile} :
    unit.files settings = .ok files ↔
      ∃ objects modules dependencies, unit.objectFiles settings = .ok objects ∧
        unit.moduleFiles settings = .ok modules ∧
        unit.dependencyFiles settings (objects ++ modules) = .ok dependencies ∧
        objects ++ modules ++ dependencies ++ unit.swiftDependencyFiles settings = files := by
  simp only [CompileUnit.files, bind_eq_ok, pure_eq_ok]
  constructor
  · rintro ⟨objects, hobjects, modules, hmodules, dependencies, hdependencies, rfl⟩
    exact ⟨objects, modules, dependencies, hobjects, hmodules, hdependencies, rfl⟩
  · rintro ⟨objects, modules, dependencies, hobjects, hmodules, hdependencies, rfl⟩
    exact ⟨objects, hobjects, modules, hmodules, dependencies, hdependencies, rfl⟩

/-- A compile job writes one object if objects are built, and none otherwise. -/
lemma objectFiles_eq_ok {objects : List CompileFile}
    (h : unit.objectFiles settings = .ok objects) :
    settings.goal.compilerOutput? = some .object ∧
        (∃ path, unit.mappedOr settings .object (unit.objectPath settings) = .ok path ∧
          objects = [(.object, path)]) ∨
      settings.goal.compilerOutput? ≠ some .object ∧ objects = [] := by
  rw [CompileUnit.objectFiles] at h
  split at h
  · next hgoal =>
    obtain ⟨path, hpath, hobjects⟩ := bind_eq_ok.1 h
    exact .inl ⟨hgoal, path, hpath, (pure_eq_ok.1 hobjects).symm⟩
  · next hgoal => exact .inr ⟨hgoal, (pure_eq_ok.1 h).symm⟩

/-- A compile job writes a part of the module if parts are put together later, and otherwise the
module of the build, if there is one. -/
lemma moduleFiles_eq_ok {modules : List CompileFile}
    (h : unit.moduleFiles settings = .ok modules) :
    settings.moduleFiles = none ∧ modules = [] ∨
      ∃ files, settings.moduleFiles = some files ∧
        (writesPartialModules settings = true ∧
            (∃ module documentation,
              unit.mappedOr settings .swiftModule (unit.scratchFile settings .swiftModule) =
                  .ok module ∧
                unit.mappedOr settings .swiftDocumentation
                    (unit.scratchFile settings .swiftDocumentation) = .ok documentation ∧
                modules = [(.module, module), (.documentation, documentation)]) ∨
          writesPartialModules settings = false ∧
            modules = [(.module, files.output.path), (.documentation, files.documentation)]) := by
  rw [CompileUnit.moduleFiles] at h
  split at h
  · next hnone => exact .inl ⟨hnone, (pure_eq_ok.1 h).symm⟩
  · next files hsome =>
    refine .inr ⟨files, hsome, ?_⟩
    split at h
    · next hpartial =>
      obtain ⟨module, hmodule, hrest⟩ := bind_eq_ok.1 h
      obtain ⟨documentation, hdocumentation, hmodules⟩ := bind_eq_ok.1 hrest
      exact .inl ⟨hpartial, module, documentation, hmodule, hdocumentation,
        (pure_eq_ok.1 hmodules).symm⟩
    · next hpartial =>
      exact .inr ⟨by simpa using hpartial, (pure_eq_ok.1 h).symm⟩

/-- Where the list of dependencies goes if the output-file map says nothing: beside the first other
file, or into the scratch directory if there is none or it is a stream. -/
def dependencyPath (settings : Settings) (unit : CompileUnit) (others : List CompileFile) :
    Except PathError VirtualPath :=
  match others.head?.filter fun file => !file.2.isStream with
  | some (_, path) => path.withExtension FileType.dependencies.extension
  | none => unit.scratchFile settings .dependencies

/-- A compile job writes one list of dependencies if it is asked for, and none otherwise. -/
lemma dependencyFiles_eq_ok {others dependencies : List CompileFile}
    (h : unit.dependencyFiles settings others = .ok dependencies) :
    settings.options.contains "-emit-dependencies" = true ∧
        (∃ path, unit.mappedOr settings .dependencies (dependencyPath settings unit others) =
            .ok path ∧ dependencies = [(.dependencies, path)]) ∨
      settings.options.contains "-emit-dependencies" = false ∧ dependencies = [] := by
  rw [CompileUnit.dependencyFiles] at h
  split at h
  · next hasked =>
    obtain ⟨path, hpath, hdependencies⟩ := bind_eq_ok.1 h
    exact .inl ⟨hasked, path, hpath, (pure_eq_ok.1 hdependencies).symm⟩
  · next hasked => exact .inr ⟨by simpa using hasked, (pure_eq_ok.1 h).symm⟩

/-- A file of a compile job as one of its outputs. -/
def CompileFile.output (file : CompileFile) : TypedPath :=
  ⟨file.2, file.1.type⟩

/-- The parts of a compile job that its unit does not decide. -/
lemma compileJob_eq_ok (h : compileJob settings unit = .ok job) :
    ∃ files options, unit.files settings = .ok files ∧ frontendOptions settings = .ok options ∧
      job.kind = .compile ∧ job.inputs = swiftInputs settings ∧
      job.outputs = files.map CompileFile.output ∧
      job.commandLine =
        [.flag "-frontend", .flag (compileAction settings.goal)] ++ unit.inputArguments settings
          ++ options ++ files.flatMap fun file => Argument.option file.1.flag file.2 := by
  obtain ⟨files, hfiles, hrest⟩ := bind_eq_ok.1 h
  obtain ⟨options, hoptions, hjob⟩ := bind_eq_ok.1 hrest
  obtain rfl := pure_eq_ok.1 hjob
  exact ⟨files, options, hfiles, hoptions, rfl, rfl, rfl, rfl⟩

/-! ## Outputs of a compile job by type -/

/-- What a compile job writes, and in which order. -/
lemma outputs_of_compileJob (h : compileJob settings unit = .ok job) :
    ∃ objects modules dependencies, unit.objectFiles settings = .ok objects ∧
      unit.moduleFiles settings = .ok modules ∧
      unit.dependencyFiles settings (objects ++ modules) = .ok dependencies ∧
      job.outputs =
        (objects ++ modules ++ dependencies ++ unit.swiftDependencyFiles settings).map
          CompileFile.output := by
  obtain ⟨files, -, hfiles, -, -, -, houtputs, -⟩ := compileJob_eq_ok h
  obtain ⟨objects, modules, dependencies, hobjects, hmodules, hdependencies, rfl⟩ :=
    files_eq_ok.1 hfiles
  exact ⟨objects, modules, dependencies, hobjects, hmodules, hdependencies, houtputs⟩

lemma type_of_mem_objectFiles {objects : List CompileFile}
    (h : unit.objectFiles settings = .ok objects) : ∀ file ∈ objects, file.1 = .object := by
  rcases objectFiles_eq_ok h with ⟨-, path, -, rfl⟩ | ⟨-, rfl⟩ <;> simp

lemma type_of_mem_moduleFiles {modules : List CompileFile}
    (h : unit.moduleFiles settings = .ok modules) :
    ∀ file ∈ modules, file.1 = .module ∨ file.1 = .documentation := by
  rcases moduleFiles_eq_ok h with ⟨-, rfl⟩ | ⟨files, -, ⟨-, path, path', -, -, rfl⟩ | ⟨-, rfl⟩⟩ <;>
    simp

lemma type_of_mem_dependencyFiles {others dependencies : List CompileFile}
    (h : unit.dependencyFiles settings others = .ok dependencies) :
    ∀ file ∈ dependencies, file.1 = .dependencies := by
  rcases dependencyFiles_eq_ok h with ⟨-, path, -, rfl⟩ | ⟨-, rfl⟩ <;> simp

lemma type_of_mem_swiftDependencyFiles :
    ∀ file ∈ unit.swiftDependencyFiles settings, file.1 = .swiftDependencies := by
  cases hmapped : unit.mapped? settings .swiftDependencies <;>
    simp [CompileUnit.swiftDependencyFiles, hmapped]

/-- No lists of dependencies are taken for objects or modules. -/
lemma filter_dependencies {others dependencies : List CompileFile} {type : FileType}
    (h : unit.dependencyFiles settings others = .ok dependencies)
    (htype : type = .object ∨ type = .swiftModule) :
    (dependencies ++ unit.swiftDependencyFiles settings).filter (·.1.type == type) = [] := by
  refine List.filter_eq_nil_iff.2 fun file hfile => ?_
  rcases List.mem_append.1 hfile with hfile | hfile
  · rcases htype with rfl | rfl <;>
      simp [type_of_mem_dependencyFiles h file hfile, CompileOutput.type]
  · rcases htype with rfl | rfl <;>
      simp [type_of_mem_swiftDependencyFiles file hfile, CompileOutput.type]

/-- The objects that a compile job declares are what it writes as objects. -/
lemma outputsOf_object (h : compileJob settings unit = .ok job) :
    ∃ objects, unit.objectFiles settings = .ok objects ∧
      job.outputsOf .object = objects.map CompileFile.output := by
  obtain ⟨objects, modules, dependencies, hobjects, hmodules, hdependencies, houtputs⟩ :=
    outputs_of_compileJob h
  refine ⟨objects, hobjects, ?_⟩
  have hkeep : objects.filter (·.1.type == .object) = objects :=
    List.filter_eq_self.2 fun file hfile => by
      simp [type_of_mem_objectFiles hobjects file hfile, CompileOutput.type]
  have hdrop : modules.filter (·.1.type == .object) = [] :=
    List.filter_eq_nil_iff.2 fun file hfile => by
      rcases type_of_mem_moduleFiles hmodules file hfile with htype | htype <;>
        simp [htype, CompileOutput.type]
  rw [Job.outputsOf, houtputs, List.filter_map, List.append_assoc]
  simp only [Function.comp_def, CompileFile.output, List.filter_append, hkeep, hdrop,
    filter_dependencies hdependencies (.inl rfl), List.append_nil]

/-- The modules that a compile job declares are among what it writes for the module. -/
lemma outputsOf_swiftModule_eq (h : compileJob settings unit = .ok job) :
    ∃ modules, unit.moduleFiles settings = .ok modules ∧
      job.outputsOf .swiftModule =
        (modules.filter (·.1.type == .swiftModule)).map CompileFile.output := by
  obtain ⟨objects, modules, dependencies, hobjects, hmodules, hdependencies, houtputs⟩ :=
    outputs_of_compileJob h
  have hdrop : objects.filter (·.1.type == .swiftModule) = [] :=
    List.filter_eq_nil_iff.2 fun file hfile => by
      simp [type_of_mem_objectFiles hobjects file hfile, CompileOutput.type]
  refine ⟨modules, hmodules, ?_⟩
  rw [Job.outputsOf, houtputs, List.filter_map, List.append_assoc]
  simp only [Function.comp_def, CompileFile.output, List.filter_append, hdrop,
    filter_dependencies hdependencies (.inr rfl), List.append_nil, List.nil_append]

/-- If the build has a module, each compile job declares one module. -/
lemma outputsOf_swiftModule {files : ModuleFiles} (h : compileJob settings unit = .ok job)
    (hfiles : settings.moduleFiles = some files) :
    ∃ module, job.outputsOf .swiftModule = [module] := by
  obtain ⟨modules, hmodules, hsplit⟩ := outputsOf_swiftModule_eq h
  rw [hsplit]
  rcases moduleFiles_eq_ok hmodules with
    ⟨hnone, -⟩ | ⟨files', -, ⟨-, module, documentation, -, -, rfl⟩ | ⟨-, rfl⟩⟩
  · simp [hnone] at hfiles
  · exact ⟨⟨module, .swiftModule⟩, rfl⟩
  · exact ⟨⟨files'.output.path, .swiftModule⟩, rfl⟩

/-- The compile jobs of a build belong to its units, in order. -/
lemma compileJobs_eq_ok :
    compileJobs settings = .ok compiles ↔
      List.Forall₂ (fun unit job => compileJob settings unit = .ok job) (compileUnits settings)
        compiles :=
  mapM_eq_ok

/-- Each compile job of a build belongs to a unit. -/
lemma exists_unit_of_mem (h : compileJobs settings = .ok compiles) (hjob : job ∈ compiles) :
    ∃ unit ∈ compileUnits settings, compileJob settings unit = .ok job :=
  exists_of_mem_mapM h hjob

/-! ## The merge -/

/-- Parts of the module, as they are declared by the compile jobs. -/
def moduleParts (compiles : List Job) : List TypedPath :=
  compiles.flatMap (·.outputsOf .swiftModule)

lemma writesPartialModules_eq_true :
    writesPartialModules settings = true ↔
      settings.moduleFiles.isSome = true ∧ 1 < (compileUnits settings).length := by
  simp [writesPartialModules]

/-- There is a merge exactly if the compile jobs write partial modules. -/
lemma mergeJobs_eq_ok {merges : List Job} (h : mergeJobs settings compiles = .ok merges) :
    writesPartialModules settings = true ∧
        (∃ files merge, settings.moduleFiles = some files ∧
          mergeJob settings files (moduleParts compiles) = .ok merge ∧ merges = [merge]) ∨
      writesPartialModules settings = false ∧ merges = [] := by
  rw [mergeJobs] at h
  split at h
  · next hnone =>
    refine .inr ⟨?_, (pure_eq_ok.1 h).symm⟩
    simp [writesPartialModules, hnone]
  · next files hsome =>
    split at h
    · next hpartial =>
      obtain ⟨merge, hmerge, hmerges⟩ := bind_eq_ok.1 h
      exact .inl ⟨hpartial, files, merge, hsome, hmerge, (pure_eq_ok.1 hmerges).symm⟩
    · next hpartial => exact .inr ⟨by simpa using hpartial, (pure_eq_ok.1 h).symm⟩

lemma mergeJob_eq_ok {files : ModuleFiles} {parts : List TypedPath}
    (h : mergeJob settings files parts = .ok job) :
    ∃ header, headerOption settings = .ok header ∧
      job.kind = .mergeModule ∧ job.inputs = parts ∧
      job.outputs =
        [⟨files.output.path, .swiftModule⟩, ⟨files.documentation, .swiftDocumentation⟩] ∧
      job.commandLine =
        [.flag "-frontend", .flag "-merge-modules", .flag "-emit-module"]
          ++ fileArguments parts ++ [.flag "-parse-as-library"] ++ targetFlags settings ++ header
          ++ moduleNameFlags settings ++ Argument.option "-o" files.output.path
          ++ Argument.option "-emit-module-doc-path" files.documentation := by
  obtain ⟨header, hheader, hjob⟩ := bind_eq_ok.1 h
  obtain rfl := pure_eq_ok.1 hjob
  exact ⟨header, hheader, rfl, rfl, rfl, rfl⟩

/-- Whichever job ends the compilation of a module, the last compile job or the merge, writes the
files of the module. -/
lemma exists_last_of_moduleFiles {files : ModuleFiles} {merges : List Job}
    (hcompiles : compileJobs settings = .ok compiles)
    (hmerges : mergeJobs settings compiles = .ok merges)
    (hfiles : settings.moduleFiles = some files) (hswift : swiftInputs settings ≠ []) :
    ∃ last, (compiles ++ merges).getLast? = some last ∧
      ⟨files.output.path, .swiftModule⟩ ∈ last.outputs ∧
      ⟨files.documentation, .swiftDocumentation⟩ ∈ last.outputs := by
  rcases mergeJobs_eq_ok hmerges with ⟨-, files', merge, hfiles', hmerge, rfl⟩ | ⟨hpartial, rfl⟩
  · obtain rfl : files = files' := by simpa [hfiles] using hfiles'
    obtain ⟨-, -, -, -, houtputs, -⟩ := mergeJob_eq_ok hmerge
    exact ⟨merge, by simp, by simp [houtputs], by simp [houtputs]⟩
  · -- without a merge there is one unit only
    have hunits := compileJobs_eq_ok.1 hcompiles
    have hone : (compileUnits settings).length = 1 := by
      have hpos := length_compileUnits_pos hswift
      have hle : ¬ 1 < (compileUnits settings).length := by
        simpa [writesPartialModules, hfiles] using hpartial
      omega
    obtain ⟨unit, hunit⟩ := List.length_eq_one_iff.1 hone
    rw [hunit, List.forall₂_cons_left_iff] at hunits
    obtain ⟨job, rest, hjob, hrest, rfl⟩ := hunits
    obtain rfl := List.forall₂_nil_left_iff.1 hrest
    obtain ⟨objects, modules, dependencies, -, hmodules, -, houtputs⟩ := outputs_of_compileJob hjob
    have hwritten : modules =
        [(.module, files.output.path), (.documentation, files.documentation)] := by
      rw [CompileUnit.moduleFiles, hfiles] at hmodules
      simp only [hpartial, Bool.false_eq_true, if_false] at hmodules
      exact (pure_eq_ok.1 hmodules).symm
    refine ⟨job, rfl, ?_, ?_⟩ <;> simp [houtputs, hwritten, CompileFile.output, CompileOutput.type]

/-! ## The product -/

lemma autolinkExtractJob_eq_ok {objects : List TypedPath}
    (h : autolinkExtractJob settings objects = .ok job) :
    ∃ output,
      VirtualPath.temporary (settings.moduleName ++ "." ++ FileType.autolink.extension) =
          .ok output ∧
        job.kind = .autolinkExtract ∧ job.inputs = objects ∧ job.outputs = [⟨output, .autolink⟩] ∧
        job.commandLine = fileArguments objects ++ Argument.option "-o" output := by
  obtain ⟨output, houtput, hjob⟩ := bind_eq_ok.1 h
  obtain rfl := pure_eq_ok.1 hjob
  exact ⟨output, houtput, rfl, rfl, rfl, rfl⟩

/-- What objects want linked is extracted by one job on ELF platforms, and by none on Darwin. -/
lemma extractJobs_eq_ok {objects : List TypedPath} {extracts : List Job}
    (h : extractJobs settings objects = .ok extracts) :
    settings.target.needsAutolinkExtract = true ∧
        (∃ extract, autolinkExtractJob settings objects = .ok extract ∧ extracts = [extract]) ∨
      settings.target.needsAutolinkExtract = false ∧ extracts = [] := by
  rw [extractJobs] at h
  split at h
  · next hneeds =>
    obtain ⟨extract, hextract, hextracts⟩ := bind_eq_ok.1 h
    exact .inl ⟨hneeds, extract, hextract, (pure_eq_ok.1 hextracts).symm⟩
  · next hneeds => exact .inr ⟨by simpa using hneeds, (pure_eq_ok.1 h).symm⟩

/-- What a link reads besides objects: modules on Darwin, lists of what objects want linked
elsewhere, and nothing for an archive. -/
def linkExtras (settings : Settings) (product : LinkProduct) (inputs : LinkInputs) :
    List TypedPath :=
  if product = .staticLibrary then []
  else
    match settings.target.family with
    | .darwin => linkedModules settings inputs
    | .elf => inputs.autolinks

/-- A link is an archive, a link on Darwin or a link on an ELF platform. -/
lemma linkJob_eq_ok {product : LinkProduct} {inputs : LinkInputs} {output : VirtualPath}
    (h : linkJob settings product inputs output = .ok job) :
    product = .staticLibrary ∧ job = archiveJob settings inputs output ∨
      product ≠ .staticLibrary ∧ settings.target.family = .darwin ∧
        darwinLinkJob settings product inputs output = .ok job ∨
      product ≠ .staticLibrary ∧ settings.target.family = .elf ∧
        elfLinkJob settings product inputs output = .ok job := by
  cases product with
  | staticLibrary => exact .inl ⟨rfl, (pure_eq_ok.1 h).symm⟩
  | executable | dynamicLibrary =>
    right
    cases hfamily : settings.target.family with
    | darwin =>
      simp only [linkJob, hfamily] at h
      exact .inl ⟨by decide, rfl, h⟩
    | elf =>
      simp only [linkJob, hfamily] at h
      exact .inr ⟨by decide, rfl, h⟩

/-- A link reads its objects and what it reads besides, and writes one image. -/
lemma linkJob_files {product : LinkProduct} {inputs : LinkInputs} {output : VirtualPath}
    (h : linkJob settings product inputs output = .ok job) :
    job.kind = .link ∧ job.inputs = inputs.objects ++ linkExtras settings product inputs ∧
      job.outputs = [⟨output, .image⟩] := by
  rcases linkJob_eq_ok h with ⟨rfl, rfl⟩ | ⟨hproduct, hfamily, hjob⟩ | ⟨hproduct, hfamily, hjob⟩
  · exact ⟨rfl, (List.append_nil _).symm, rfl⟩
  · obtain ⟨options, -, hjob⟩ := bind_eq_ok.1 hjob
    obtain rfl := pure_eq_ok.1 hjob
    exact ⟨rfl, by rw [linkExtras, if_neg hproduct, hfamily], rfl⟩
  · obtain ⟨options, -, hjob⟩ := bind_eq_ok.1 hjob
    obtain rfl := pure_eq_ok.1 hjob
    exact ⟨rfl, by rw [linkExtras, if_neg hproduct, hfamily], rfl⟩

/-- The objects that go into the product: those of the compile jobs, and those among the inputs. -/
def linkedObjects (settings : Settings) (compiles : List Job) : List TypedPath :=
  compiles.flatMap (·.outputsOf .object) ++ linkedInputs settings .object

/-- Everything that goes into the link, given the jobs before it. -/
def linkInputs (settings : Settings) (compiles extracts : List Job) : LinkInputs where
  objects := linkedObjects settings compiles
  module := moduleOf settings
  modules := linkedInputs settings .swiftModule
  autolinks := extracts.flatMap (·.outputs) ++ linkedInputs settings .autolink

/-- The jobs that collect the debug information of the product. -/
def dsymJobs (settings : Settings) (product : LinkProduct) (output : VirtualPath) : List Job :=
  if collectsDebugInfo settings product output then [dsymJob ⟨output, .image⟩] else []

lemma linkJobs_eq_ok {product : LinkProduct} (h : linkJobs settings product compiles = .ok jobs) :
    ∃ extracts output link,
      extractJobs settings (linkedObjects settings compiles) = .ok extracts ∧
        productPath settings product = .ok output ∧
        linkJob settings product (linkInputs settings compiles extracts) output = .ok link ∧
        jobs = extracts ++ link :: dsymJobs settings product output := by
  obtain ⟨extracts, hextracts, hrest⟩ := bind_eq_ok.1 h
  obtain ⟨output, houtput, hrest⟩ := bind_eq_ok.1 hrest
  obtain ⟨link, hlink, hjobs⟩ := bind_eq_ok.1 hrest
  exact ⟨extracts, output, link, hextracts, houtput, hlink, (pure_eq_ok.1 hjobs).symm⟩

lemma productJobs_eq_ok (h : productJobs settings compiles = .ok jobs) :
    settings.goal.product? = none ∧ jobs = [] ∨
      ∃ product, settings.goal.product? = some product ∧
        linkJobs settings product compiles = .ok jobs := by
  rw [productJobs] at h
  split at h
  · next hnone => exact .inl ⟨hnone, (pure_eq_ok.1 h).symm⟩
  · next product hsome => exact .inr ⟨product, hsome, h⟩

/-! ## Plans -/

lemma buildJobs_eq_ok (h : buildJobs settings = .ok jobs) :
    ∃ compiles merges links, compileJobs settings = .ok compiles ∧
      mergeJobs settings compiles = .ok merges ∧ productJobs settings compiles = .ok links ∧
      jobs = compiles ++ merges ++ links := by
  obtain ⟨compiles, hcompiles, hrest⟩ := bind_eq_ok.1 h
  obtain ⟨merges, hmerges, hrest⟩ := bind_eq_ok.1 hrest
  obtain ⟨links, hlinks, hjobs⟩ := bind_eq_ok.1 hrest
  exact ⟨compiles, merges, links, hcompiles, hmerges, hlinks, (pure_eq_ok.1 hjobs).symm⟩

/-- A driver that compiles its inputs has nothing to do without inputs. -/
lemma ofSettings_eq_ok (hmode : settings.mode = .standard ∨ settings.mode = .single) :
    (ofSettings settings).outcome = .ok jobs ↔
      settings.inputs = [] ∧ jobs = [] ∨
        settings.inputs ≠ [] ∧ buildJobs settings = .ok jobs := by
  have hplan : ofSettings settings =
      if settings.inputs.isEmpty then do
        Diagnosed.note .noInputFiles
        return []
      else (do
        Diagnosed.noteAll ((unusedInputs settings).map fun input => .unusedInput input.path)
        buildJobs settings) := by
    rcases hmode with hmode | hmode <;> simp only [ofSettings, hmode]
  rw [hplan]
  by_cases hinputs : settings.inputs = []
  · simp only [hinputs, List.isEmpty_nil, if_true, Diagnosed.outcome_bind_eq_ok,
      Diagnosed.outcome_note, Diagnosed.outcome_pure]
    simp [eq_comm]
  · simp only [List.isEmpty_iff, hinputs, if_false, Diagnosed.outcome_bind_eq_ok,
      Diagnosed.outcome_noteAll, Diagnosed.outcome_lift_path]
    simp [hinputs]

/-- Reading commands takes one job, which has no files. -/
lemma ofSettings_repl_eq_ok (hmode : settings.mode = .repl) :
    (ofSettings settings).outcome = .ok jobs ↔
      ∃ repl, replJob settings = .ok repl ∧ [repl] = jobs := by
  simp only [ofSettings, hmode, Diagnosed.outcome_bind_eq_ok, Diagnosed.outcome_lift_path,
    Diagnosed.outcome_pure, Except.ok.injEq]

lemma replJob_eq_ok (h : replJob settings = .ok job) :
    job.kind = .repl ∧ job.inputs = [] ∧ job.outputs = [] := by
  obtain ⟨options, -, hjob⟩ := bind_eq_ok.1 h
  obtain rfl := pure_eq_ok.1 hjob
  exact ⟨rfl, rfl, rfl⟩

/-- Running the inputs takes one job, which reads them all and writes nothing. -/
lemma ofSettings_immediate_eq_ok (hmode : settings.mode = .immediate) :
    (ofSettings settings).outcome = .ok jobs ↔
      ∃ interpret, interpretJob settings = .ok interpret ∧ [interpret] = jobs := by
  simp only [ofSettings, hmode, Diagnosed.outcome_bind_eq_ok, Diagnosed.outcome_lift_path,
    Diagnosed.outcome_pure, Except.ok.injEq]

lemma interpretJob_eq_ok (h : interpretJob settings = .ok job) :
    job.kind = .interpret ∧ job.inputs = settings.inputs ∧ job.outputs = [] := by
  obtain ⟨options, -, hjob⟩ := bind_eq_ok.1 h
  obtain rfl := pure_eq_ok.1 hjob
  exact ⟨rfl, rfl, rfl⟩

/-- Drivers that run their input or read commands take one job, which writes nothing. -/
lemma flatMap_outputs_of_ofSettings (hmode : settings.mode = .repl ∨ settings.mode = .immediate)
    (h : (ofSettings settings).outcome = .ok jobs) : jobs.flatMap (·.outputs) = [] := by
  rcases hmode with hmode | hmode
  · obtain ⟨repl, hrepl, rfl⟩ := (ofSettings_repl_eq_ok hmode).1 h
    rw [List.flatMap_singleton, (replJob_eq_ok hrepl).2.2]
  · obtain ⟨interpret, hinterpret, rfl⟩ := (ofSettings_immediate_eq_ok hmode).1 h
    rw [List.flatMap_singleton, (interpretJob_eq_ok hinterpret).2.2]

end SwiftPlan.Plan
