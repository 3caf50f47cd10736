import SwiftPlan.Proofs.Plan.Jobs
import SwiftPlan.Proofs.Settings.Unnamed

/-!
# The files that jobs write

If nothing says where outputs go, the files of a compile job are made up from its unit alone:
`unitOutputs` lists them, and `outputs_eq_unitOutputs` says that the job declares exactly these.

Whatever job writes a file, the file carries the extension of its type, and it is another one than
the product of the build (`Fits`).  The product itself has no type by which it could be told apart.
That it differs from the module beside it follows from normal forms: a path with something written
behind it is never the path itself.
-/

namespace SwiftPlan

namespace VirtualPath

variable {directory : Option VirtualPath} {path : VirtualPath} {text tail ext ext' : String}

/-- Where the debug information of an image is collected. -/
def bundle (path : VirtualPath) : VirtualPath :=
  ⟨path.kind, path.name ++ "." ++ FileType.dSYM.extension⟩

lemma isRooted_of_append (h : isRooted (text ++ tail) = false) : isRooted text = false := by
  rw [isRooted, String.toList_append] at h
  rw [isRooted]
  cases hchars : text.toList with
  | nil => rfl
  | cons c rest =>
    rw [hchars] at h
    exact h

lemma anchored_ne_of_isTemporary (hanchor : IsAnchor directory)
    (htemporary : path.isTemporary = true) : path ≠ anchored directory text := by
  rintro rfl
  rw [isTemporary_anchored hanchor] at htemporary
  exact absurd htemporary (by decide)

/-- The file with another extension is the file with another ending. -/
lemma withExtension_anchored (hrooted : isRooted text = false)
    (hext : LexicalPath.IsExtension ext) (hext' : LexicalPath.IsExtension ext')
    (h : (anchored directory (text ++ "." ++ ext)).withExtension ext' = .ok path) :
    ∃ tail : String, LexicalPath.IsEnding tail.toList ∧
      path = anchored directory (text ++ tail) := by
  obtain ⟨front, hfront⟩ := exists_front_anchored directory hrooted
  obtain ⟨-, rfl⟩ := (withExtension_eq_ok hext'.1).1 h
  rw [String.append_assoc, hfront _ hext.isEnding]
  dsimp only
  rw [← String.append_assoc, LexicalPath.stem_append hext]
  split
  · -- the dot belongs to the name, so both extensions are written behind it
    have hending : LexicalPath.IsEnding ("." ++ ext ++ ("." ++ ext')).toList := by
      rw [String.toList_append]
      exact hext.isEnding.append hext'.isEnding
    exact ⟨"." ++ ext ++ ("." ++ ext'), hending, by
      rw [hfront _ hending]
      simp only [String.append_assoc]⟩
  · exact ⟨"." ++ ext', hext'.isEnding, by rw [hfront _ hext'.isEnding, String.append_assoc]⟩

end VirtualPath

namespace Plan

variable {surroundings : Surroundings} {arguments : List String} {settings : Settings}
  {unit : CompileUnit} {job : Job} {compiles merges links jobs : List Job} {product : LinkProduct}

/-! ## Outputs of a compile job -/

/-- Where the list of dependencies of a unit goes: beside the object or the module of the unit, or
into the scratch directory if the unit has neither. -/
def dependenciesBeside (settings : Settings) (unit : CompileUnit) : Except PathError VirtualPath :=
  if settings.goal.compilerOutput? = some .object then do
    (← unit.objectPath settings).withExtension FileType.dependencies.extension
  else
    match settings.moduleFiles with
    | none => unit.scratchFile settings .dependencies
    | some files =>
      if writesPartialModules settings then do
        (← unit.scratchFile settings .swiftModule).withExtension FileType.dependencies.extension
      else files.output.path.withExtension FileType.dependencies.extension

/-- The module of a unit and its documentation: parts of them if there is a merge. -/
def unitModules (settings : Settings) (unit : CompileUnit) :
    List (FileType × Except PathError VirtualPath) :=
  match settings.moduleFiles with
  | none => []
  | some files =>
    if writesPartialModules settings then
      [(.swiftModule, unit.scratchFile settings .swiftModule),
        (.swiftDocumentation, unit.scratchFile settings .swiftDocumentation)]
    else
      [(.swiftModule, .ok files.output.path), (.swiftDocumentation, .ok files.documentation)]

/-- The files that a unit writes, by their types. -/
def unitOutputs (settings : Settings) (unit : CompileUnit) :
    List (FileType × Except PathError VirtualPath) :=
  (if settings.goal.compilerOutput? = some .object then [(.object, unit.objectPath settings)]
    else []) ++
  unitModules settings unit ++
  (if settings.options.contains "-emit-dependencies" then
      [(.dependencies, dependenciesBeside settings unit)]
    else [])

/-- A file with its type in front, as something that may have failed. -/
def typed (file : TypedPath) : FileType × Except PathError VirtualPath :=
  (file.type, .ok file.path)

lemma typed_eq_iff {file : TypedPath} {type : FileType} {outcome : Except PathError VirtualPath} :
    typed file = (type, outcome) ↔ file.type = type ∧ outcome = .ok file.path := by
  rw [typed, Prod.mk.injEq]
  exact and_congr_right fun _ => eq_comm

lemma typed_injective : Function.Injective typed := by
  rintro ⟨path, type⟩ ⟨path', type'⟩ h
  obtain ⟨rfl, hpath⟩ := typed_eq_iff.1 h
  obtain rfl : path' = path := by simpa using hpath
  rfl

lemma mem_unitModules_iff {entry : FileType × Except PathError VirtualPath} :
    entry ∈ unitModules settings unit ↔
      ∃ files ∈ settings.moduleFiles,
        writesPartialModules settings = true ∧
            (entry = (.swiftModule, unit.scratchFile settings .swiftModule) ∨
              entry = (.swiftDocumentation, unit.scratchFile settings .swiftDocumentation)) ∨
          writesPartialModules settings = false ∧
            (entry = (.swiftModule, .ok files.output.path) ∨
              entry = (.swiftDocumentation, .ok files.documentation)) := by
  rw [unitModules]
  cases hfiles : settings.moduleFiles with
  | none => simp
  | some files =>
    cases hpartial : writesPartialModules settings with
    | false => simp
    | true => simp

lemma mem_unitOutputs_iff {entry : FileType × Except PathError VirtualPath} :
    entry ∈ unitOutputs settings unit ↔
      settings.goal.compilerOutput? = some .object ∧
          entry = (.object, unit.objectPath settings) ∨
        entry ∈ unitModules settings unit ∨
        settings.options.contains "-emit-dependencies" = true ∧
          entry = (.dependencies, dependenciesBeside settings unit) := by
  rw [unitOutputs, List.mem_append, List.mem_append, or_assoc]
  by_cases hgoal : settings.goal.compilerOutput? = some .object
  · by_cases hasked : settings.options.contains "-emit-dependencies" = true
    · simp [hgoal, hasked]
    · simp [hgoal, hasked]
  · by_cases hasked : settings.options.contains "-emit-dependencies" = true
    · simp [hgoal, hasked]
    · simp [hgoal, hasked]

lemma scratchFile_eq {type : FileType} {path : VirtualPath}
    (h : unit.scratchFile settings type = .ok path) :
    path = .scratch (unit.stem settings ++ "." ++ type.extension) :=
  VirtualPath.temporary_eq_scratch h

/-- No output goes to a stream if nothing says so. -/
lemma isStream_objectPath (hanchor : IsAnchor settings.workingDirectory)
    (hunnamed : settings.options.hasAny Settings.outputOptions = false) {path : VirtualPath}
    (h : unit.objectPath settings = .ok path) : path.isStream = false := by
  cases hproduct : settings.goal.product? with
  | none =>
    obtain ⟨-, rfl⟩ := objectPath_eq_anchored hanchor hunnamed hproduct h
    exact VirtualPath.isStream_anchored hanchor
  | some product =>
    obtain rfl := objectPath_eq_scratch (by simp [hproduct]) h
    rfl

lemma isStream_modulePath (hresolved : settings.Resolved surroundings arguments)
    (hunnamed : settings.options.hasAny Settings.outputOptions = false) {files : ModuleFiles}
    (hfiles : settings.moduleFiles = some files) : files.output.path.isStream = false := by
  rcases hresolved.modulePath_eq hunnamed hfiles with ⟨-, -, hpath⟩ | ⟨-, -, hpath⟩
  · rw [hpath]
    exact VirtualPath.isStream_anchored hresolved.isAnchor
  · rw [hpath]
    rfl

lemma mappedOr_eq (hmap : settings.outputFileMap = none) {type : FileType}
    {other : Except PathError VirtualPath} : unit.mappedOr settings type other = other := by
  simp [CompileUnit.mappedOr, CompileUnit.mapped?, hmap]

section

variable {objects modules dependencies : List CompileFile}

lemma map_typed_objects (hmap : settings.outputFileMap = none)
    (h : unit.objectFiles settings = .ok objects) :
    (objects.map CompileFile.output).map typed =
      if settings.goal.compilerOutput? = some .object then [(.object, unit.objectPath settings)]
      else [] := by
  rcases objectFiles_eq_ok h with ⟨hgoal, path, hpath, rfl⟩ | ⟨hgoal, rfl⟩
  · rw [mappedOr_eq hmap] at hpath
    rw [if_pos hgoal, hpath]
    rfl
  · rw [if_neg hgoal]
    rfl

lemma map_typed_modules (hmap : settings.outputFileMap = none)
    (h : unit.moduleFiles settings = .ok modules) :
    (modules.map CompileFile.output).map typed = unitModules settings unit := by
  rw [unitModules]
  rcases moduleFiles_eq_ok h with ⟨hfiles, rfl⟩ |
    ⟨files, hfiles, ⟨hpartial, module, documentation, hpath, hpath', rfl⟩ | ⟨hpartial, rfl⟩⟩
  · rw [hfiles]
    rfl
  · rw [mappedOr_eq hmap] at hpath hpath'
    simp only [hfiles, hpartial, if_true, hpath, hpath']
    rfl
  · simp only [hfiles, hpartial, Bool.false_eq_true, if_false]
    rfl

lemma dependencyPath_cons {output : CompileOutput} {path : VirtualPath} {rest : List CompileFile}
    (h : path.isStream = false) :
    dependencyPath settings unit ((output, path) :: rest) =
      path.withExtension FileType.dependencies.extension := by
  have hfirst : ((output, path) :: rest).head?.filter (fun file => !file.2.isStream) =
      some (output, path) := by
    simp [Option.filter, h]
  rw [dependencyPath, hfirst]

lemma dependencyPath_eq (hresolved : settings.Resolved surroundings arguments)
    (hunnamed : settings.options.hasAny Settings.outputOptions = false)
    (hobjects : unit.objectFiles settings = .ok objects)
    (hmodules : unit.moduleFiles settings = .ok modules) :
    dependencyPath settings unit (objects ++ modules) = dependenciesBeside settings unit := by
  have hmap := hresolved.outputFileMap_eq_none hunnamed
  rw [dependenciesBeside]
  rcases objectFiles_eq_ok hobjects with ⟨hgoal, path, hpath, rfl⟩ | ⟨hgoal, rfl⟩
  · rw [mappedOr_eq hmap] at hpath
    have hstream := isStream_objectPath hresolved.isAnchor hunnamed hpath
    rw [if_pos hgoal, hpath, List.singleton_append, dependencyPath_cons hstream]
    rfl
  · rw [if_neg hgoal, List.nil_append]
    rcases moduleFiles_eq_ok hmodules with ⟨hfiles, rfl⟩ |
      ⟨files, hfiles, ⟨hpartial, module, documentation, hpath, -, rfl⟩ | ⟨hpartial, rfl⟩⟩
    · rw [hfiles]
      rfl
    · rw [mappedOr_eq hmap] at hpath
      have hstream : module.isStream = false := by
        rw [scratchFile_eq hpath]
        rfl
      simp only [hfiles, hpartial, if_true, hpath, dependencyPath_cons hstream]
      rfl
    · simp only [hfiles, hpartial, Bool.false_eq_true, if_false,
        dependencyPath_cons (isStream_modulePath hresolved hunnamed hfiles)]

end

/-- If nothing says where outputs go, a compile job declares the outputs of its unit. -/
lemma outputs_eq_unitOutputs (hresolved : settings.Resolved surroundings arguments)
    (hunnamed : settings.options.hasAny Settings.outputOptions = false)
    (h : compileJob settings unit = .ok job) :
    job.outputs.map typed = unitOutputs settings unit := by
  have hmap := hresolved.outputFileMap_eq_none hunnamed
  obtain ⟨objects, modules, dependencies, hobjects, hmodules, hdependencies, houtputs⟩ :=
    outputs_of_compileJob h
  have hnone : unit.swiftDependencyFiles settings = [] := by
    simp [CompileUnit.swiftDependencyFiles, CompileUnit.mapped?, hmap]
  have hlist : (dependencies.map CompileFile.output).map typed =
      if settings.options.contains "-emit-dependencies" then
        [(.dependencies, dependenciesBeside settings unit)]
      else [] := by
    rcases dependencyFiles_eq_ok hdependencies with ⟨hasked, path, hpath, rfl⟩ | ⟨hasked, rfl⟩
    · rw [mappedOr_eq hmap, dependencyPath_eq hresolved hunnamed hobjects hmodules] at hpath
      rw [if_pos hasked, hpath]
      rfl
    · rw [if_neg (by simp [hasked])]
      rfl
  rw [houtputs, hnone, List.append_nil, List.map_append, List.map_append, List.map_append,
    List.map_append, map_typed_objects hmap hobjects, map_typed_modules hmap hmodules, hlist,
    unitOutputs]

/-- Whatever the compile jobs write belongs to a unit. -/
lemma exists_unit_of_mem_outputs (hresolved : settings.Resolved surroundings arguments)
    (hunnamed : settings.options.hasAny Settings.outputOptions = false)
    (h : compileJobs settings = .ok compiles) {file : TypedPath}
    (hfile : file ∈ compiles.flatMap (·.outputs)) :
    ∃ unit ∈ compileUnits settings, typed file ∈ unitOutputs settings unit := by
  obtain ⟨job, hjob, hfile⟩ := List.mem_flatMap.1 hfile
  obtain ⟨unit, hunit, hcompile⟩ := exists_unit_of_mem h hjob
  refine ⟨unit, hunit, ?_⟩
  rw [← outputs_eq_unitOutputs hresolved hunnamed hcompile]
  exact List.mem_map_of_mem hfile

/-- The files of the compile jobs are those of the units, in order. -/
lemma map_typed_compileJobs (hresolved : settings.Resolved surroundings arguments)
    (hunnamed : settings.options.hasAny Settings.outputOptions = false)
    (h : compileJobs settings = .ok compiles) :
    (compiles.flatMap (·.outputs)).map typed =
      (compileUnits settings).flatMap (unitOutputs settings) := by
  have hunits := compileJobs_eq_ok.1 h
  generalize compileUnits settings = units at hunits ⊢
  clear h
  induction hunits with
  | nil => rfl
  | cons hjob hrest ih =>
    rw [List.flatMap_cons, List.flatMap_cons, List.map_append, ih,
      outputs_eq_unitOutputs hresolved hunnamed hjob]

/-! ## Files that are not the product -/

/-- Whether a file of this type is kept when the build is over: objects and lists of dependencies
are if nothing is linked, the module if it is asked for. -/
def Outlives (settings : Settings) : FileType → Prop
  | .object | .dependencies => settings.goal.product? = none
  | .swiftModule | .swiftDocumentation =>
    settings.options.hasAny BuildGoal.moduleRequests = true
  | .image | .dSYM => True
  | .swift | .swiftDependencies | .autolink | .objcHeader => False

/-- The file carries the extension of its type and is not the product of the build. It is temporary
unless files of its type are kept. -/
structure Fits (settings : Settings) (file : TypedPath) : Prop where
  extension : file.path.HasExtension file.type.extension
  notImage : file.type ≠ .image
  apart : ∀ product ∈ settings.goal.product?,
    file.path ≠ .anchored settings.workingDirectory (defaultProductName settings product)
  outlives : file.path.isTemporary = true ∨ Outlives settings file.type

lemma fits_of_isTemporary (hanchor : IsAnchor settings.workingDirectory) {path : VirtualPath}
    {type : FileType} (htype : type ≠ .image) (htemporary : path.isTemporary = true)
    (hext : path.HasExtension type.extension) : Fits settings ⟨path, type⟩ where
  extension := hext
  notImage := htype
  apart _ _ := VirtualPath.anchored_ne_of_isTemporary hanchor htemporary
  outlives := .inl htemporary

lemma fits_scratch (hanchor : IsAnchor settings.workingDirectory) {text : String}
    {type : FileType} (htype : type ≠ .image) :
    Fits settings ⟨.scratch (text ++ "." ++ type.extension), type⟩ :=
  fits_of_isTemporary hanchor htype rfl
    (VirtualPath.hasExtension_scratch (FileType.isExtension_extension htype))

lemma fits_scratchFile (hanchor : IsAnchor settings.workingDirectory) {path : VirtualPath}
    {type : FileType} (htype : type ≠ .image) (h : unit.scratchFile settings type = .ok path) :
    Fits settings ⟨path, type⟩ := by
  rw [scratchFile_eq h]
  exact fits_scratch hanchor htype

/-- The extensions of libraries. -/
def libraryExtensions : List String :=
  ["dylib", "so", "a"]

lemma isExtension_of_mem_libraryExtensions :
    ∀ ext ∈ libraryExtensions, LexicalPath.IsExtension ext := by
  decide

/-- The default product has `lib` and an extension around the name of the module, or nothing. -/
lemma defaultProductName_eq (settings : Settings) (product : LinkProduct) :
    (product.isLibrary = true ∧ ∃ ext ∈ libraryExtensions,
        defaultProductName settings product = "lib" ++ settings.moduleName ++ "." ++ ext) ∨
      product = .executable ∧ defaultProductName settings product = settings.moduleName := by
  cases product with
  | executable => exact .inr ⟨rfl, rfl⟩
  | dynamicLibrary =>
    refine .inl ⟨rfl, settings.target.dynamicLibraryExtension, ?_, rfl⟩
    rw [Triple.dynamicLibraryExtension]
    cases settings.target.family <;> decide
  | staticLibrary => exact .inl ⟨rfl, "a", by decide, rfl⟩

/-- A library has an extension of its own, whatever its name is. -/
lemma hasExtension_library {ext : String} (hext : ext ∈ libraryExtensions) :
    (VirtualPath.anchored settings.workingDirectory
      ("lib" ++ settings.moduleName ++ "." ++ ext)).HasExtension ext := by
  have hrooted : VirtualPath.isRooted ("lib" ++ settings.moduleName) = false := by
    rw [VirtualPath.isRooted, String.toList_append]
    rfl
  exact VirtualPath.hasExtension_anchored hrooted (isExtension_of_mem_libraryExtensions ext hext)

/-- What is named after the module with something behind it is not the product. An executable has
the bare name, and libraries have other extensions. -/
lemma anchored_ne_product {tail : String} {type : FileType} (htype : type ≠ .image)
    (hrooted : VirtualPath.isRooted settings.moduleName = false)
    (htail : LexicalPath.IsEnding tail.toList)
    (hext : (VirtualPath.anchored settings.workingDirectory
      (settings.moduleName ++ tail)).HasExtension type.extension) :
    VirtualPath.anchored settings.workingDirectory (settings.moduleName ++ tail) ≠
      .anchored settings.workingDirectory (defaultProductName settings product) := by
  rcases defaultProductName_eq settings product with ⟨-, ext, hmem, hcalled⟩ | ⟨-, hcalled⟩
  · intro hsame
    rw [hsame, hcalled] at hext
    have heq := (hasExtension_library hmem).unique hext
      (isExtension_of_mem_libraryExtensions ext hmem) (FileType.isExtension_extension htype)
    subst heq
    revert hmem
    cases type <;> decide
  · rw [hcalled]
    exact (VirtualPath.anchored_ne_append hrooted htail).symm

/-- The module of the build and its documentation are not the product. -/
lemma fits_moduleFiles (hresolved : settings.Resolved surroundings arguments)
    (hunnamed : settings.options.hasAny Settings.outputOptions = false) {files : ModuleFiles}
    (hfiles : settings.moduleFiles = some files) :
    Fits settings ⟨files.output.path, .swiftModule⟩ ∧
      Fits settings ⟨files.documentation, .swiftDocumentation⟩ := by
  have hdocumentation := hresolved.documentation_eq_ok hunnamed hfiles
  have hdocext : files.documentation.HasExtension FileType.swiftDocumentation.extension :=
    VirtualPath.hasExtension_withExtension (by decide) hdocumentation
  rcases hresolved.modulePath_eq hunnamed hfiles with
    ⟨hasked, hrooted, hpath⟩ | ⟨-, -, hpath⟩
  · have hname : VirtualPath.isRooted settings.moduleName = false := by
      rw [ModuleOutput.fileName, String.append_assoc] at hrooted
      exact VirtualPath.isRooted_of_append hrooted
    have hmodule : LexicalPath.IsExtension FileType.swiftModule.extension := by decide
    rw [hpath, ModuleOutput.fileName] at hdocumentation
    have hmodext : files.output.path.HasExtension FileType.swiftModule.extension := by
      rw [hpath]
      exact VirtualPath.hasExtension_anchored hname hmodule
    constructor
    · refine ⟨hmodext, by simp, fun product _ => ?_, .inr hasked⟩
      dsimp only
      rw [hpath, ModuleOutput.fileName, String.append_assoc] at hmodext ⊢
      exact anchored_ne_product (by decide) hname hmodule.isEnding hmodext
    · obtain ⟨tail, htail, hdoc⟩ :=
        VirtualPath.withExtension_anchored hname hmodule (by decide) hdocumentation
      refine ⟨hdocext, by simp, fun product _ => ?_, .inr hasked⟩
      dsimp only
      rw [hdoc] at hdocext ⊢
      exact anchored_ne_product (by decide) hname htail hdocext
  · constructor
    · rw [hpath]
      exact fits_scratch hresolved.isAnchor (by decide)
    · refine fits_of_isTemporary hresolved.isAnchor (by decide) ?_ hdocext
      obtain ⟨-, hdoc⟩ := (VirtualPath.withExtension_eq_ok (by decide)).1 hdocumentation
      rw [hdoc, hpath]
      rfl

lemma fits_object (hanchor : IsAnchor settings.workingDirectory)
    (hunnamed : settings.options.hasAny Settings.outputOptions = false) {path : VirtualPath}
    (h : unit.objectPath settings = .ok path) : Fits settings ⟨path, .object⟩ := by
  cases hproduct : settings.goal.product? with
  | none =>
    obtain ⟨hrooted, rfl⟩ := objectPath_eq_anchored hanchor hunnamed hproduct h
    have hstem : VirtualPath.isRooted (unit.stem settings) = false := by
      rw [String.append_assoc] at hrooted
      exact VirtualPath.isRooted_of_append hrooted
    refine ⟨VirtualPath.hasExtension_anchored hstem (by decide), by simp, ?_, .inr hproduct⟩
    intro product hmem
    simp [hproduct] at hmem
  | some product =>
    obtain rfl := objectPath_eq_scratch (by simp [hproduct]) h
    exact fits_scratch hanchor (by decide)

/-- A list of dependencies goes where the file beside it goes. -/
lemma fits_withExtension (hanchor : IsAnchor settings.workingDirectory) {path path' : VirtualPath}
    (hbeside : path.isTemporary = true ∨ settings.goal.product? = none)
    (h : path.withExtension FileType.dependencies.extension = .ok path') :
    Fits settings ⟨path', .dependencies⟩ := by
  have hext := VirtualPath.hasExtension_withExtension (by decide) h
  rcases hbeside with htemporary | hproduct
  · refine fits_of_isTemporary hanchor (by decide) ?_ hext
    rwa [VirtualPath.isTemporary_withExtension (by decide) h]
  · refine ⟨hext, by simp, fun product hmem => ?_, .inr hproduct⟩
    simp [hproduct] at hmem

lemma fits_dependencies (hanchor : IsAnchor settings.workingDirectory) {path : VirtualPath}
    (h : dependenciesBeside settings unit = .ok path) : Fits settings ⟨path, .dependencies⟩ := by
  rw [dependenciesBeside] at h
  split at h
  · obtain ⟨object, hobject, hpath⟩ := bind_eq_ok.1 h
    refine fits_withExtension hanchor ?_ hpath
    cases hproduct : settings.goal.product? with
    | none => exact .inr rfl
    | some product =>
      rw [objectPath_eq_scratch (by simp [hproduct]) hobject]
      exact .inl rfl
  · next hgoal =>
    have hproduct : settings.goal.product? = none := by
      by_contra hne
      obtain ⟨product, hproduct⟩ := Option.ne_none_iff_exists'.1 hne
      exact hgoal (compilerOutput?_of_product? hproduct)
    split at h
    · exact fits_scratchFile hanchor (by decide) h
    · split at h
      · obtain ⟨module, -, hpath⟩ := bind_eq_ok.1 h
        exact fits_withExtension hanchor (.inr hproduct) hpath
      · exact fits_withExtension hanchor (.inr hproduct) h

/-- Every file of a unit carries the extension of its type and is not the product. -/
lemma fits_of_mem_unitOutputs (hresolved : settings.Resolved surroundings arguments)
    (hunnamed : settings.options.hasAny Settings.outputOptions = false) {file : TypedPath}
    (h : typed file ∈ unitOutputs settings unit) : Fits settings file := by
  have hanchor := hresolved.isAnchor
  obtain ⟨path, type⟩ := file
  rcases mem_unitOutputs_iff.1 h with ⟨-, hobject⟩ | hmodule | ⟨-, hlist⟩
  · obtain ⟨rfl, hpath⟩ := typed_eq_iff.1 hobject
    exact fits_object hanchor hunnamed hpath
  · obtain ⟨files, hfiles, ⟨-, hpart⟩ | ⟨-, hwhole⟩⟩ := mem_unitModules_iff.1 hmodule
    · rcases hpart with hpart | hpart
      · obtain ⟨rfl, hpath⟩ := typed_eq_iff.1 hpart
        exact fits_scratchFile hanchor (by decide) hpath
      · obtain ⟨rfl, hpath⟩ := typed_eq_iff.1 hpart
        exact fits_scratchFile hanchor (by decide) hpath
    · obtain ⟨hfit, hfit'⟩ := fits_moduleFiles hresolved hunnamed hfiles
      rcases hwhole with hwhole | hwhole
      · obtain ⟨rfl, hpath⟩ := typed_eq_iff.1 hwhole
        obtain rfl : files.output.path = path := by simpa using hpath
        exact hfit
      · obtain ⟨rfl, hpath⟩ := typed_eq_iff.1 hwhole
        obtain rfl : files.documentation = path := by simpa using hpath
        exact hfit'
  · obtain ⟨rfl, hpath⟩ := typed_eq_iff.1 hlist
    exact fits_dependencies hanchor hpath

/-! ## Files of all jobs -/

/-- A merge writes the files of the module. -/
lemma outputs_of_mergeJobs (h : mergeJobs settings compiles = .ok merges) :
    writesPartialModules settings = true ∧
        (∃ files, settings.moduleFiles = some files ∧
          merges.flatMap (·.outputs) =
            [⟨files.output.path, .swiftModule⟩, ⟨files.documentation, .swiftDocumentation⟩]) ∨
      writesPartialModules settings = false ∧ merges.flatMap (·.outputs) = [] := by
  rcases mergeJobs_eq_ok h with ⟨hpartial, files, merge, hfiles, hmerge, rfl⟩ | ⟨hwhole, rfl⟩
  · obtain ⟨-, -, -, -, houtputs, -⟩ := mergeJob_eq_ok hmerge
    refine .inl ⟨hpartial, files, hfiles, ?_⟩
    rw [List.flatMap_singleton, houtputs]
  · exact .inr ⟨hwhole, rfl⟩

lemma fits_of_mem_mergeJobs (hresolved : settings.Resolved surroundings arguments)
    (hunnamed : settings.options.hasAny Settings.outputOptions = false)
    (h : mergeJobs settings compiles = .ok merges) {file : TypedPath}
    (hfile : file ∈ merges.flatMap (·.outputs)) : Fits settings file := by
  rcases outputs_of_mergeJobs h with ⟨-, files, hfiles, houtputs⟩ | ⟨-, hnone⟩
  · obtain ⟨hfit, hfit'⟩ := fits_moduleFiles hresolved hunnamed hfiles
    rw [houtputs] at hfile
    simp only [List.mem_cons, List.not_mem_nil, or_false] at hfile
    rcases hfile with rfl | rfl
    · exact hfit
    · exact hfit'
  · simp [hnone] at hfile

/-- The files of the jobs that make the product: what is extracted, the product itself and its debug
information. -/
lemma outputs_of_linkJobs (hanchor : IsAnchor settings.workingDirectory)
    (hunnamed : settings.options.hasAny Settings.outputOptions = false)
    (h : linkJobs settings product compiles = .ok links) :
    ∃ extracted collected, (extracted = [] ∨ ∃ path, extracted = [⟨path, .autolink⟩] ∧
        path = .scratch (settings.moduleName ++ "." ++ FileType.autolink.extension)) ∧
      (collected = [] ∨ ∃ path, collected = [⟨path, .dSYM⟩] ∧
        path = (VirtualPath.anchored settings.workingDirectory
          (defaultProductName settings product)).bundle) ∧
      links.flatMap (·.outputs) =
        extracted ++ ⟨.anchored settings.workingDirectory
          (defaultProductName settings product), .image⟩ :: collected := by
  obtain ⟨extracts, output, link, hextracts, houtput, hlink, rfl⟩ := linkJobs_eq_ok h
  obtain ⟨-, hproduct⟩ := productPath_eq hanchor hunnamed houtput
  obtain ⟨-, -, hwritten⟩ := linkJob_files hlink
  refine ⟨extracts.flatMap (·.outputs), (dsymJobs settings product output).flatMap (·.outputs),
    ?_, ?_, ?_⟩
  · rcases extractJobs_eq_ok hextracts with ⟨-, extract, hextract, rfl⟩ | ⟨-, rfl⟩
    · obtain ⟨path, hpath, -, -, houtputs, -⟩ := autolinkExtractJob_eq_ok hextract
      refine .inr ⟨path, ?_, VirtualPath.temporary_eq_scratch hpath⟩
      rw [List.flatMap_singleton, houtputs]
    · exact .inl rfl
  · rw [dsymJobs]
    split
    · refine .inr ⟨_, List.flatMap_singleton .., ?_⟩
      rw [← hproduct]
      rfl
    · exact .inl rfl
  · rw [List.flatMap_append, List.flatMap_cons, hwritten, hproduct]
    rfl

end Plan

end SwiftPlan
