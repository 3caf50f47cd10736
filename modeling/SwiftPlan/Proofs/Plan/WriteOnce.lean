import Mathlib.Data.List.Nodup
import SwiftPlan.Proofs.Plan.Overwriting
import SwiftPlan.Proofs.ResponseFile.Plain

/-!
# Files that are written once

Nothing in the planner keeps two jobs from writing the same file.  Objects and parts of a module are
named after the base name of their source, whatever directory it is in, and what the build itself
makes is named after the module.  If nothing says where outputs go, exactly these names can meet:
those of one kind among the units, and those of the merged module with those of its parts
(`NamesApart`).  Files of different types never meet, because the ending of a name says its type,
and the product meets no other output (`Fits`).  So the files of a plan are pairwise different if
and only if the names are apart, which is a matter of stems alone if the module has a proper name
(`StemsApart`).

What outputs may be inputs as well is said by `Overwrites`: those that outlive the build, where the
input is of the same type, or is taken for an object where the output is the product.
-/

namespace SwiftPlan.Plan

open LexicalPath

variable {surroundings : Surroundings} {arguments : List String} {settings : Settings}
  {compiles merges links jobs : List Job} {product : LinkProduct}

/-- The names that a build makes up are different wherever they could be the same: the objects of
the units, their lists of dependencies and their parts of the module, and the module that is put
together from its parts. -/
structure NamesApart (settings : Settings) : Prop where
  objects : settings.goal.compilerOutput? = some .object →
    ((compileUnits settings).map (·.objectPath settings)).Nodup
  dependencies : settings.options.contains "-emit-dependencies" = true →
    ((compileUnits settings).map (dependenciesBeside settings)).Nodup
  parts : writesPartialModules settings = true →
    ((compileUnits settings).map (·.scratchFile settings .swiftModule)).Nodup
  merged : writesPartialModules settings = true → ∀ files ∈ settings.moduleFiles,
    ∀ unit ∈ compileUnits settings,
      unit.scratchFile settings .swiftModule ≠ .ok files.output.path ∧
        unit.scratchFile settings .swiftDocumentation ≠ .ok files.documentation

/-- The same in terms of stems: they are pairwise different if anything is named after them, and
none is the name of the module if that is put together in the scratch directory. -/
structure StemsApart (settings : Settings) : Prop where
  units : (settings.goal.compilerOutput? = some .object ∨
      settings.options.contains "-emit-dependencies" = true ∨
      writesPartialModules settings = true) →
    ((compileUnits settings).map (·.stem settings)).Nodup
  merged : writesPartialModules settings = true →
    settings.options.hasAny BuildGoal.moduleRequests = false →
    ∀ unit ∈ compileUnits settings, settings.moduleName ≠ unit.stem settings

instance : Decidable (StemsApart settings) :=
  decidable_of_iff
    (((settings.goal.compilerOutput? = some .object ∨
          settings.options.contains "-emit-dependencies" = true ∨
          writesPartialModules settings = true) →
        ((compileUnits settings).map (·.stem settings)).Nodup) ∧
      (writesPartialModules settings = true →
        settings.options.hasAny BuildGoal.moduleRequests = false →
        ∀ unit ∈ compileUnits settings, settings.moduleName ≠ unit.stem settings))
    ⟨fun ⟨units, merged⟩ => ⟨units, merged⟩, fun ⟨units, merged⟩ => ⟨units, merged⟩⟩

/-! ## Names and stems -/

lemma nodup_dependenciesBeside_iff (hanchor : IsAnchor settings.workingDirectory)
    (hunnamed : settings.options.hasAny Settings.outputOptions = false)
    (hstem : ∀ unit ∈ compileUnits settings, IsEnding (unit.stem settings).toList) :
    ((compileUnits settings).map (dependenciesBeside settings)).Nodup ↔
      ((compileUnits settings).map (·.stem settings)).Nodup := by
  by_cases hmany : 1 < (compileUnits settings).length
  · exact (namedByStem_dependenciesBeside hanchor hunnamed hstem hmany).nodup_iff
  · match hunits : compileUnits settings with
    | [] => simp
    | [unit] => simp
    | _ :: _ :: _ => simp [hunits] at hmany

/-- If the module has a proper name then names are apart exactly if stems are. -/
lemma namesApart_iff_stemsApart (hresolved : settings.Resolved surroundings arguments)
    (hunnamed : settings.options.hasAny Settings.outputOptions = false)
    (hname : Text.isIdentifier settings.moduleName = true) :
    NamesApart settings ↔ StemsApart settings := by
  have hanchor := hresolved.isAnchor
  have hstem : ∀ unit ∈ compileUnits settings, IsEnding (unit.stem settings).toList :=
    fun unit hunit => isEnding_stem hresolved hname hunit
  have hobjects := (namedByStem_objectPath hanchor hunnamed hstem).nodup_iff
  have hlists := nodup_dependenciesBeside_iff hanchor hunnamed hstem
  have hmodules : NamedByStem settings (·.scratchFile settings .swiftModule) _ :=
    namedByStem_scratchFile hstem (by decide)
  constructor
  · intro h
    refine ⟨fun hwritten => ?_, fun hpartial hunasked unit hunit => ?_⟩
    · rcases hwritten with hgoal | hasked | hpartial
      · exact hobjects.1 (h.objects hgoal)
      · exact hlists.1 (h.dependencies hasked)
      · exact hmodules.nodup_iff.1 (h.parts hpartial)
    · obtain ⟨files, hfiles⟩ :=
        Option.isSome_iff_exists.1 (writesPartialModules_eq_true.1 hpartial).1
      have hapart := h.merged hpartial files hfiles unit hunit
      exact (parts_ne_iff hresolved hunnamed hname hfiles hunit).1 hapart hunasked
  · intro h
    constructor
    case objects => exact fun hgoal => hobjects.2 (h.units (.inl hgoal))
    case dependencies => exact fun hasked => hlists.2 (h.units (.inr (.inl hasked)))
    case parts => exact fun hpartial => hmodules.nodup_iff.2 (h.units (.inr (.inr hpartial)))
    case merged =>
      intro hpartial files hfiles unit hunit
      exact (parts_ne_iff hresolved hunnamed hname hfiles hunit).2 fun hunasked =>
        h.merged hpartial hunasked unit hunit

/-! ## Units that write different files -/

/-- Parts of a module are the same file exactly if their documentation is: both are named after the
unit, and what stands in front of the extension does not depend on it. -/
lemma scratchFile_eq_of_documentation_eq {unit unit' : CompileUnit}
    {module module' documentation : VirtualPath}
    (hmodule : unit.scratchFile settings .swiftModule = .ok module)
    (hmodule' : unit'.scratchFile settings .swiftModule = .ok module')
    (h : unit.scratchFile settings .swiftDocumentation = .ok documentation)
    (h' : unit'.scratchFile settings .swiftDocumentation = .ok documentation) :
    module = module' := by
  obtain ⟨front, hfront⟩ := VirtualPath.exists_front_scratch (unit.stem settings)
  obtain ⟨front', hfront'⟩ := VirtualPath.exists_front_scratch (unit'.stem settings)
  have hdoc : LexicalPath.IsExtension FileType.swiftDocumentation.extension := by decide
  have hmod : LexicalPath.IsExtension FileType.swiftModule.extension := by decide
  have hsame := (scratchFile_eq h).symm.trans (scratchFile_eq h')
  rw [String.append_assoc, String.append_assoc, hfront _ hdoc.isEnding,
    hfront' _ hdoc.isEnding] at hsame
  have hfronts : front = front' := by
    have hname := congrArg VirtualPath.name hsame
    exact (String.append_left_inj _).1 hname
  rw [scratchFile_eq hmodule, scratchFile_eq hmodule', String.append_assoc, String.append_assoc,
    hfront _ hmod.isEnding, hfront' _ hmod.isEnding, hfronts]

lemma type_of_mem_unitModules {unit : CompileUnit}
    {entry : FileType × Except PathError VirtualPath} (h : entry ∈ unitModules settings unit) :
    entry.1 = .swiftModule ∨ entry.1 = .swiftDocumentation := by
  obtain ⟨files, -, ⟨-, rfl | rfl⟩ | ⟨-, rfl | rfl⟩⟩ := mem_unitModules_iff.1 h <;> simp

lemma disjoint_unitOutputs {unit unit' : CompileUnit} :
    List.Disjoint (unitOutputs settings unit) (unitOutputs settings unit') ↔
      (settings.goal.compilerOutput? = some .object →
        unit.objectPath settings ≠ unit'.objectPath settings) ∧
      List.Disjoint (unitModules settings unit) (unitModules settings unit') ∧
      (settings.options.contains "-emit-dependencies" = true →
        dependenciesBeside settings unit ≠ dependenciesBeside settings unit') := by
  have hobject (unit : CompileUnit) (path : Except PathError VirtualPath) :
      (.object, path) ∉ unitModules settings unit := fun h => by
    simpa using type_of_mem_unitModules h
  have hlist (unit : CompileUnit) (path : Except PathError VirtualPath) :
      (.dependencies, path) ∉ unitModules settings unit := fun h => by
    simpa using type_of_mem_unitModules h
  by_cases hgoal : settings.goal.compilerOutput? = some .object
  · by_cases hasked : settings.options.contains "-emit-dependencies" = true
    · simp [unitOutputs, hgoal, hasked, hobject, hlist, eq_comm]
    · simp [unitOutputs, hgoal, hasked, hobject, eq_comm]
  · by_cases hasked : settings.options.contains "-emit-dependencies" = true
    · simp [unitOutputs, hgoal, hasked, hlist, eq_comm]
    · simp [unitOutputs, hgoal, hasked]

/-- The files of one unit are of different types. -/
lemma nodup_unitOutputs {unit : CompileUnit} : (unitOutputs settings unit).Nodup := by
  refine List.Nodup.of_map Prod.fst ?_
  have hmodules : (unitModules settings unit).map Prod.fst = [] ∨
      (unitModules settings unit).map Prod.fst = [.swiftModule, .swiftDocumentation] := by
    rw [unitModules]
    split
    · exact .inl rfl
    · split
      · exact .inr rfl
      · exact .inr rfl
  rw [unitOutputs, List.map_append, List.map_append]
  rcases hmodules with hmodules | hmodules
  · rw [hmodules]
    split <;> split <;> simp
  · rw [hmodules]
    split <;> split <;> simp

lemma pairwise_ne_iff {units : List CompileUnit} {condition : Prop}
    {name : CompileUnit → Except PathError VirtualPath} :
    units.Pairwise (fun unit unit' => condition → name unit ≠ name unit') ↔
      (condition → (units.map name).Nodup) := by
  by_cases hcondition : condition
  · simp [hcondition, List.Nodup, List.pairwise_map]
  · simp [hcondition, List.pairwise_of_forall]

/-- Each unit has its part of the module and of the documentation, as a unit that was compiled. -/
def HaveParts (settings : Settings) : Prop :=
  writesPartialModules settings = true → ∀ unit ∈ compileUnits settings,
    ∃ module documentation, unit.scratchFile settings .swiftModule = .ok module ∧
      unit.scratchFile settings .swiftDocumentation = .ok documentation

lemma pairwise_disjoint_unitModules (hparts : HaveParts settings)
    (hmany : 1 < (compileUnits settings).length) :
    (compileUnits settings).Pairwise (fun unit unit' =>
        List.Disjoint (unitModules settings unit) (unitModules settings unit')) ↔
      (writesPartialModules settings = true →
        ((compileUnits settings).map (·.scratchFile settings .swiftModule)).Nodup) := by
  cases hfiles : settings.moduleFiles with
  | none =>
    have hwhole : writesPartialModules settings = false := by simp [writesPartialModules, hfiles]
    simp [unitModules, hfiles, hwhole, List.pairwise_of_forall]
  | some files =>
    have hpartial : writesPartialModules settings = true := by
      simp [writesPartialModules, hfiles, hmany]
    rw [← pairwise_ne_iff]
    refine List.Pairwise.iff_of_mem fun {unit unit'} hunit hunit' => ?_
    obtain ⟨module, documentation, hmod, hdoc⟩ := hparts hpartial unit hunit
    obtain ⟨module', documentation', hmod', hdoc'⟩ := hparts hpartial unit' hunit'
    simp only [unitModules, hfiles, hpartial, if_true, forall_const, hmod, hdoc, hmod', hdoc']
    constructor
    · intro hdisjoint hsame
      rw [hsame] at hdisjoint
      exact hdisjoint List.mem_cons_self List.mem_cons_self
    · intro hne
      have hdocne : documentation ≠ documentation' := by
        rintro rfl
        exact hne (congrArg _ (scratchFile_eq_of_documentation_eq hmod hmod' hdoc hdoc'))
      simp [hdocne.symm, Ne.symm hne]

/-- The units of a build write different files exactly if their names are apart. -/
lemma nodup_flatMap_unitOutputs (hparts : HaveParts settings) :
    ((compileUnits settings).flatMap (unitOutputs settings)).Nodup ↔
      (settings.goal.compilerOutput? = some .object →
        ((compileUnits settings).map (·.objectPath settings)).Nodup) ∧
      (writesPartialModules settings = true →
        ((compileUnits settings).map (·.scratchFile settings .swiftModule)).Nodup) ∧
      (settings.options.contains "-emit-dependencies" = true →
        ((compileUnits settings).map (dependenciesBeside settings)).Nodup) := by
  rw [List.nodup_flatMap, and_iff_right fun unit _ => nodup_unitOutputs]
  by_cases hmany : 1 < (compileUnits settings).length
  · rw [← pairwise_disjoint_unitModules hparts hmany, ← pairwise_ne_iff, ← pairwise_ne_iff,
      ← List.pairwise_and_iff, ← List.pairwise_and_iff]
    exact List.Pairwise.iff fun unit unit' => disjoint_unitOutputs
  · match hunits : compileUnits settings with
    | [] => simp
    | [unit] => simp
    | _ :: _ :: _ => simp [hunits] at hmany

lemma haveParts (hresolved : settings.Resolved surroundings arguments)
    (hunnamed : settings.options.hasAny Settings.outputOptions = false)
    (h : compileJobs settings = .ok compiles) : HaveParts settings := by
  have hmap := hresolved.outputFileMap_eq_none hunnamed
  intro hpartial unit hunit
  obtain ⟨job, -, hjob⟩ := eq_ok_of_mem_mapM h hunit
  obtain ⟨-, modules, -, -, hmodules, -, -⟩ := outputs_of_compileJob hjob
  rcases moduleFiles_eq_ok hmodules with ⟨hnone, -⟩ |
    ⟨files, -, ⟨-, module, documentation, hmod, hdoc, -⟩ | ⟨hwhole, -⟩⟩
  · simp [writesPartialModules, hnone] at hpartial
  · rw [mappedOr_eq hmap] at hmod hdoc
    exact ⟨module, documentation, hmod, hdoc⟩
  · simp [hpartial] at hwhole

/-! ## The merged module and its parts -/

lemma type_of_mem_unitOutputs {unit : CompileUnit}
    {entry : FileType × Except PathError VirtualPath} (h : entry ∈ unitOutputs settings unit) :
    entry.1 = .object ∨ entry.1 = .swiftModule ∨ entry.1 = .swiftDocumentation ∨
      entry.1 = .dependencies := by
  rcases mem_unitOutputs_iff.1 h with ⟨-, rfl⟩ | hmodule | ⟨-, rfl⟩
  · simp
  · rcases type_of_mem_unitModules hmodule with htype | htype <;> simp [htype]
  · simp

lemma mem_unitOutputs_iff_of_module {unit : CompileUnit} {type : FileType}
    {path : Except PathError VirtualPath}
    (htype : type = .swiftModule ∨ type = .swiftDocumentation) :
    (type, path) ∈ unitOutputs settings unit ↔ (type, path) ∈ unitModules settings unit := by
  rw [mem_unitOutputs_iff]
  rcases htype with rfl | rfl <;> simp

/-- The merge writes other files than the compile jobs exactly if the names of the module are apart
from those of its parts. -/
lemma disjoint_mergeJobs (hmerges : mergeJobs settings compiles = .ok merges) :
    List.Disjoint ((compileUnits settings).flatMap (unitOutputs settings))
        ((merges.flatMap (·.outputs)).map typed) ↔
      (writesPartialModules settings = true → ∀ files ∈ settings.moduleFiles,
        ∀ unit ∈ compileUnits settings,
          unit.scratchFile settings .swiftModule ≠ .ok files.output.path ∧
            unit.scratchFile settings .swiftDocumentation ≠ .ok files.documentation) := by
  rcases outputs_of_mergeJobs hmerges with ⟨hpartial, files, hfiles, houtputs⟩ | ⟨hwhole, hnone⟩
  · have hmod (unit : CompileUnit) :
        (.swiftModule, .ok files.output.path) ∈ unitOutputs settings unit ↔
          unit.scratchFile settings .swiftModule = .ok files.output.path := by
      rw [mem_unitOutputs_iff_of_module (.inl rfl)]
      simp [unitModules, hfiles, hpartial, eq_comm]
    have hdoc (unit : CompileUnit) :
        (.swiftDocumentation, .ok files.documentation) ∈ unitOutputs settings unit ↔
          unit.scratchFile settings .swiftDocumentation = .ok files.documentation := by
      rw [mem_unitOutputs_iff_of_module (.inr rfl)]
      simp [unitModules, hfiles, hpartial, eq_comm]
    simp only [houtputs, List.map_cons, List.map_nil, typed,
      List.disjoint_cons_right, List.disjoint_nil_right, and_true, List.mem_flatMap, hmod, hdoc,
      not_exists, not_and, hpartial, forall_const, hfiles, Option.mem_def, Option.some.injEq,
      forall_eq']
    exact forall₂_and.symm
  · simp [hwhole, hnone]

lemma nodup_mergeJobs (hmerges : mergeJobs settings compiles = .ok merges) :
    ((merges.flatMap (·.outputs)).map typed).Nodup := by
  rcases outputs_of_mergeJobs hmerges with ⟨-, files, -, houtputs⟩ | ⟨-, hnone⟩
  · simp [houtputs, typed]
  · simp [hnone]

/-! ## All files of a build -/

/-- The jobs that make the product write files of types that no other job writes, and one of each
type. -/
lemma files_of_productJobs (hanchor : IsAnchor settings.workingDirectory)
    (hunnamed : settings.options.hasAny Settings.outputOptions = false)
    (h : productJobs settings compiles = .ok links) :
    ((links.flatMap (·.outputs)).map typed).Nodup ∧
      (∀ file ∈ links.flatMap (·.outputs), file.type ∈ [.autolink, .image, .dSYM]) ∧
      ∀ file ∈ links.flatMap (·.outputs), Fits settings file ∨
        ∃ product ∈ settings.goal.product?, file =
          ⟨.anchored settings.workingDirectory (defaultProductName settings product), .image⟩ := by
  rcases productJobs_eq_ok h with ⟨-, rfl⟩ | ⟨product, hproduct, hlinks⟩
  · simp
  obtain ⟨extracted, collected, hextracted, hcollected, houtputs⟩ :=
    outputs_of_linkJobs hanchor hunnamed hlinks
  have hextract : ∀ file ∈ extracted, file.type = .autolink ∧ Fits settings file := by
    rcases hextracted with rfl | ⟨path, rfl, rfl⟩
    · simp
    · simpa using fits_scratch hanchor (by decide)
  have hcollect : ∀ file ∈ collected, file.type = .dSYM ∧ Fits settings file := by
    rcases hcollected with rfl | ⟨path, rfl, rfl⟩
    · simp
    · rw [List.forall_mem_singleton]
      refine ⟨rfl, ⟨_, rfl⟩, by simp, fun product' hproduct' hsame => ?_, .inr trivial⟩
      obtain rfl : product = product' := by simpa [hproduct] using hproduct'
      -- the name of the bundle is longer than that of the product
      have hlength := congrArg (fun file : VirtualPath => file.name.length) hsame
      have hdot : ".".length = 1 := rfl
      simp only [VirtualPath.bundle, String.length_append] at hlength
      omega
  refine ⟨?_, ?_, ?_⟩
  · refine List.Nodup.of_map Prod.fst ?_
    rw [houtputs]
    rcases hextracted with rfl | ⟨path, rfl, -⟩ <;> rcases hcollected with rfl | ⟨path', rfl, -⟩ <;>
      simp [typed]
  · rw [houtputs]
    intro file hfile
    rcases List.mem_append.1 hfile with hfile | hfile
    · simp [(hextract file hfile).1]
    · rcases List.mem_cons.1 hfile with rfl | hfile
      · simp
      · simp [(hcollect file hfile).1]
  · rw [houtputs]
    intro file hfile
    rcases List.mem_append.1 hfile with hfile | hfile
    · exact .inl (hextract file hfile).2
    · rcases List.mem_cons.1 hfile with rfl | hfile
      · exact .inr ⟨product, hproduct, rfl⟩
      · exact .inl (hcollect file hfile).2

/-- Every file of a build carries the extension of its type or is the product. -/
lemma fits_or_product (hresolved : settings.Resolved surroundings arguments)
    (hunnamed : settings.options.hasAny Settings.outputOptions = false)
    (h : buildJobs settings = .ok jobs) :
    ∀ file ∈ jobs.flatMap (·.outputs), Fits settings file ∨
      ∃ product ∈ settings.goal.product?, file =
        ⟨.anchored settings.workingDirectory (defaultProductName settings product), .image⟩ := by
  obtain ⟨compiles, merges, links, hcompiles, hmerges, hlinks, rfl⟩ := buildJobs_eq_ok h
  intro file hfile
  rw [List.flatMap_append, List.flatMap_append] at hfile
  rcases List.mem_append.1 hfile with hfile | hfile
  · rcases List.mem_append.1 hfile with hfile | hfile
    · obtain ⟨unit, -, htyped⟩ := exists_unit_of_mem_outputs hresolved hunnamed hcompiles hfile
      exact .inl (fits_of_mem_unitOutputs hresolved hunnamed htyped)
    · exact .inl (fits_of_mem_mergeJobs hresolved hunnamed hmerges hfile)
  · exact (files_of_productJobs hresolved.isAnchor hunnamed hlinks).2.2 file hfile

/-- A path says of which type the file is. -/
lemma eq_of_path_eq (hresolved : settings.Resolved surroundings arguments)
    (hunnamed : settings.options.hasAny Settings.outputOptions = false)
    (h : buildJobs settings = .ok jobs) {file file' : TypedPath}
    (hfile : file ∈ jobs.flatMap (·.outputs)) (hfile' : file' ∈ jobs.flatMap (·.outputs))
    (hpath : file.path = file'.path) : file = file' := by
  have htype : file.type = file'.type := by
    rcases fits_or_product hresolved hunnamed h file hfile with hfit | ⟨product, hproduct, rfl⟩
    · rcases fits_or_product hresolved hunnamed h file' hfile' with hfit' | ⟨product, hproduct, rfl⟩
      · have hext := hfit.extension
        rw [hpath] at hext
        exact FileType.eq_of_extension_eq (hext.unique hfit'.extension
          (FileType.isExtension_extension hfit.notImage)
          (FileType.isExtension_extension hfit'.notImage))
      · exact absurd hpath (hfit.apart product hproduct)
    · rcases fits_or_product hresolved hunnamed h file' hfile' with hfit' | ⟨product', -, rfl⟩
      · exact absurd hpath.symm (hfit'.apart product hproduct)
      · rfl
  obtain ⟨path, type⟩ := file
  obtain ⟨path', type'⟩ := file'
  obtain rfl : path = path' := hpath
  obtain rfl : type = type' := htype
  rfl

lemma nodup_map_path_iff (hresolved : settings.Resolved surroundings arguments)
    (hunnamed : settings.options.hasAny Settings.outputOptions = false)
    (h : buildJobs settings = .ok jobs) :
    ((jobs.flatMap (·.outputs)).map (·.path)).Nodup ↔
      ((jobs.flatMap (·.outputs)).map typed).Nodup := by
  rw [List.nodup_map_iff typed_injective]
  constructor
  · intro hnodup
    exact hnodup.of_map
  · intro hnodup
    exact hnodup.map_on fun file hfile file' hfile' hpath =>
      eq_of_path_eq hresolved hunnamed h hfile hfile' hpath

lemma nodup_buildJobs_iff (hresolved : settings.Resolved surroundings arguments)
    (hunnamed : settings.options.hasAny Settings.outputOptions = false)
    (h : buildJobs settings = .ok jobs) :
    ((jobs.flatMap (·.outputs)).map (·.path)).Nodup ↔ NamesApart settings := by
  rw [nodup_map_path_iff hresolved hunnamed h]
  obtain ⟨compiles, merges, links, hcompiles, hmerges, hlinks, rfl⟩ := buildJobs_eq_ok h
  obtain ⟨hlinked, htypes, -⟩ := files_of_productJobs hresolved.isAnchor hunnamed hlinks
  have hmerged : ∀ file ∈ merges.flatMap (·.outputs),
      file.type = .swiftModule ∨ file.type = .swiftDocumentation := by
    rcases outputs_of_mergeJobs hmerges with ⟨-, files, -, houtputs⟩ | ⟨-, hnone⟩
    · simp [houtputs]
    · simp [hnone]
  have hapart : List.Disjoint
      ((compileUnits settings).flatMap (unitOutputs settings) ++
        (merges.flatMap (·.outputs)).map typed)
      ((links.flatMap (·.outputs)).map typed) := by
    intro entry hentry hlink
    obtain ⟨file, hfile, rfl⟩ := List.mem_map.1 hlink
    have htype := htypes file hfile
    rcases List.mem_append.1 hentry with hcompile | hmerge
    · obtain ⟨unit, -, hunit⟩ := List.mem_flatMap.1 hcompile
      rcases type_of_mem_unitOutputs hunit with hother | hother | hother | hother <;>
        simp only [typed] at hother <;> simp [hother] at htype
    · obtain ⟨file', hfile', hsame⟩ := List.mem_map.1 hmerge
      obtain rfl := typed_injective hsame
      rcases hmerged file' hfile' with hother | hother <;> simp [hother] at htype
  rw [List.flatMap_append, List.flatMap_append, List.map_append, List.map_append,
    map_typed_compileJobs hresolved hunnamed hcompiles, List.nodup_append', List.nodup_append',
    nodup_flatMap_unitOutputs (haveParts hresolved hunnamed hcompiles),
    disjoint_mergeJobs hmerges]
  constructor
  · rintro ⟨⟨⟨hobjects, hparts, hlists⟩, -, hmodule⟩, -, -⟩
    exact ⟨hobjects, hlists, hparts, hmodule⟩
  · rintro ⟨hobjects, hlists, hparts, hmodule⟩
    exact ⟨⟨⟨hobjects, hparts, hlists⟩, nodup_mergeJobs hmerges, hmodule⟩, hlinked, hapart⟩

/-! ## Outputs and inputs -/

/-- What it takes for a file of the build to be written over an input: the file outlives the build,
and the input is of its type.  There are two exceptions to the second.  A product is taken for an
object on a command line.  And if the module has no proper name, then what is named after it may be
taken for an object as well, and an executable for anything. -/
structure Overwrites (settings : Settings) (file input : TypedPath) : Prop where
  outlives : Outlives settings file.type
  type : input.type = file.type ∨ input.type = .object ∨
    file.type = .image ∧ settings.goal.product? = some .executable
  proper : Text.isIdentifier settings.moduleName = true → input.type = file.type.asInput

lemma overwrites_of_path_eq (hresolved : settings.Resolved surroundings arguments)
    (hunnamed : settings.options.hasAny Settings.outputOptions = false)
    (h : buildJobs settings = .ok jobs) {file input : TypedPath}
    (hfile : file ∈ jobs.flatMap (·.outputs)) (hinput : input ∈ settings.inputs)
    (hpath : file.path = input.path) : Overwrites settings file input := by
  have hdurable := isTemporary_of_mem_inputs hresolved hinput
  rw [← hpath] at hdurable
  have hproper : Text.isIdentifier settings.moduleName = true →
      input.type = file.type.asInput := by
    intro hname
    have hplaced := (placed_of_mem_buildJobs hresolved hunnamed hname h hfile).resolve_left
      (by simp [hdurable])
    exact type_of_placed hresolved hplaced hinput hpath
  rcases fits_or_product hresolved hunnamed h file hfile with hfit | ⟨product, hproduct, rfl⟩
  · refine ⟨hfit.outlives.resolve_left (by simp [hdurable]), ?_, hproper⟩
    exact (type_of_fits hresolved hfit hinput hpath).imp_right .inl
  · refine ⟨trivial, ?_, hproper⟩
    rcases defaultProductName_eq settings product with ⟨-, ext, hext, hcalled⟩ | ⟨rfl, -⟩
    · dsimp only at hpath
      rw [hcalled] at hpath
      exact .inr (.inl (type_of_library hresolved hext hinput hpath))
    · exact .inr (.inr ⟨rfl, hproduct⟩)

/-! ## The plan of a request -/

section

variable {environment : Environment} {driver : Driver}

lemma outputs_map_equip {toolchain : Toolchain} :
    (jobs.map (·.equip toolchain)).flatMap (·.outputs) = jobs.flatMap (·.outputs) := by
  rw [List.flatMap_map]
  rfl

/-- **A plan writes each file once exactly if the names that the build makes up are apart.**  If
nothing says where outputs go, the outputs of all jobs are pairwise different files if and only if
`NamesApart` holds, which is a matter of builds that compile; for a module with a proper name this
says that stems are apart; and what outputs may be inputs as well is said by `Overwrites`. -/
theorem write_once_iff
    (hdriver : (Driver.ofArguments surroundings environment arguments).outcome = .ok driver)
    (hrequest : driver.request = .build settings)
    (hunnamed : settings.options.hasAny Settings.outputOptions = false)
    (hplan : driver.plan.outcome = .ok jobs) :
    (((jobs.flatMap (·.outputs)).map (·.path)).Nodup ↔
        (settings.mode = .standard ∨ settings.mode = .single → NamesApart settings)) ∧
      (Text.isIdentifier settings.moduleName = true →
        (NamesApart settings ↔ StemsApart settings)) ∧
      ∀ file ∈ jobs.flatMap (·.outputs), ∀ input ∈ settings.inputs, file.path = input.path →
        Overwrites settings file input := by
  have hresolved := Driver.resolved_of_ofArguments hdriver hrequest
  obtain ⟨plain, hplain, rfl⟩ := (Driver.plan_eq_ok hrequest).1 hplan
  rw [outputs_map_equip, and_left_comm]
  refine ⟨namesApart_iff_stemsApart hresolved hunnamed, ?_⟩
  by_cases hmode : settings.mode = .standard ∨ settings.mode = .single
  · rw [forall_prop_of_true hmode]
    rcases (ofSettings_eq_ok hmode).1 hplain with ⟨hinputs, rfl⟩ | ⟨-, hbuild⟩
    · -- without inputs there are no units, whose names could meet
      have hunits : compileUnits settings = [] := by simp [compileUnits, swiftInputs, hinputs]
      have happart : NamesApart settings := by constructor <;> simp [hunits]
      simp [happart]
    · exact ⟨nodup_buildJobs_iff hresolved hunnamed hbuild,
        fun file hfile input hinput hpath =>
          overwrites_of_path_eq hresolved hunnamed hbuild hfile hinput hpath⟩
  · have hother : settings.mode = .repl ∨ settings.mode = .immediate := by
      rw [not_or] at hmode
      cases hcase : settings.mode with
      | standard => exact absurd hcase hmode.1
      | single => exact absurd hcase hmode.2
      | immediate => exact .inr rfl
      | repl => exact .inl rfl
    rw [flatMap_outputs_of_ofSettings hother hplain]
    simp [hmode]

/-- Two sources with full debug information and an object that is called like the product: partial
modules, the module that is put together from them, lists of dependencies, the product and its debug
information.  All of them are different files, and the product is written over the object. -/
theorem write_once_of_debugged_executable :
    let arguments := ["swiftc", "-g", "-emit-dependencies", "-target", "x86_64-apple-macosx10.15",
      "a.swift", "b.swift", "main"]
    ∃ driver settings jobs,
      (Driver.ofArguments .bare [] arguments).outcome = .ok driver ∧
        driver.request = .build settings ∧
        settings.options.hasAny Settings.outputOptions = false ∧
        Text.isIdentifier settings.moduleName = true ∧
        driver.plan.outcome = .ok jobs ∧ (jobs.flatMap (·.outputs)).length = 12 ∧
        ((jobs.flatMap (·.outputs)).map (·.path)).Nodup ∧
        ∃ file ∈ jobs.flatMap (·.outputs), ∃ input ∈ settings.inputs,
          file.path = input.path ∧ Overwrites settings file input := by
  intro arguments
  have hany : (Driver.built? (Driver.ofPlainArguments .bare [] arguments)).any
      (fun built => !built.1.options.hasAny Settings.outputOptions &&
        Text.isIdentifier built.1.moduleName && decide (StemsApart built.1) &&
        (built.2.flatMap (·.outputs)).length == 12 &&
        decide (∃ file ∈ built.2.flatMap (·.outputs), ∃ input ∈ built.1.inputs,
          file.path = input.path)) = true := by
    decide +kernel
  obtain ⟨driver, settings, jobs, hdriver, hrequest, hplan, hproperty⟩ :=
    Driver.exists_of_any_built (by decide +kernel) hany
  simp only [Bool.and_eq_true, beq_iff_eq, Bool.not_eq_true', decide_eq_true_eq] at hproperty
  obtain ⟨⟨⟨⟨hunnamed, hname⟩, hstems⟩, hlength⟩, file, hfile, input, hinput, hpath⟩ := hproperty
  obtain ⟨hiff, hnames, hinputs⟩ := write_once_iff hdriver hrequest hunnamed hplan
  exact ⟨driver, settings, jobs, hdriver, hrequest, hunnamed, hname, hplan, hlength,
    hiff.2 fun _ => (hnames hname).2 hstems, file, hfile, input, hinput, hpath,
    hinputs file hfile input hinput hpath⟩

/-- Requests whose plans write over an input, each with the type of the output and the type of the
input.  All that outlives a build occurs. -/
def overwriting : List (List String × FileType × FileType) :=
  [(["swiftc", "a"], .image, .object),
    (["swiftc", "-c", "a.swift", "a.o"], .object, .object),
    (["swiftc", "-c", "-emit-dependencies", "a.swift", "a.d"], .dependencies, .dependencies),
    (["swiftc", "-emit-module", "a.swift", "main.swiftmodule"], .swiftModule, .swiftModule),
    (["swiftc", "-emit-module", "a.swift", "main.swiftdoc"], .swiftDocumentation,
      .swiftDocumentation),
    (["swiftc", "-g", "-target", "x86_64-apple-macosx10.15", "a.swift", "main.dSYM"], .dSYM, .dSYM),
    (["swiftc", "-module-name", "a.swift", "a.swift"], .image, .swift)]

/-- Two sources of one name in different directories are both compiled to one object, and whatever a
build keeps may be written over an input. -/
theorem exists_plan_not_write_once :
    (∃ driver settings jobs,
      (Driver.ofArguments .bare [] ["swiftc", "a/x.swift", "b/x.swift"]).outcome = .ok driver ∧
        driver.request = .build settings ∧ settings.kind = .batch ∧ settings.inputs.Nodup ∧
        settings.options.hasAny Settings.outputOptions = false ∧
        driver.plan.outcome = .ok jobs ∧ ¬ ((jobs.flatMap (·.outputs)).map (·.path)).Nodup) ∧
    ∀ request ∈ overwriting, ∃ driver settings jobs,
      (Driver.ofArguments .bare [] request.1).outcome = .ok driver ∧
        driver.request = .build settings ∧ settings.kind = .batch ∧ settings.inputs.Nodup ∧
        settings.options.hasAny Settings.outputOptions = false ∧
        driver.plan.outcome = .ok jobs ∧
        ∃ file ∈ jobs.flatMap (·.outputs), ∃ input ∈ settings.inputs,
          file.path = input.path ∧ (file.type, input.type) = request.2 := by
  constructor
  · have hany : (Driver.built? (Driver.ofPlainArguments .bare []
        ["swiftc", "a/x.swift", "b/x.swift"])).any
        (fun built => built.1.kind == .batch && decide built.1.inputs.Nodup &&
          !built.1.options.hasAny Settings.outputOptions &&
          !decide ((built.2.flatMap (·.outputs)).map (·.path)).Nodup) = true := by
      decide +kernel
    obtain ⟨driver, settings, jobs, hdriver, hrequest, hplan, hproperty⟩ :=
      Driver.exists_of_any_built (by decide +kernel) hany
    simp only [Bool.and_eq_true, beq_iff_eq, Bool.not_eq_true', decide_eq_true_eq,
      decide_eq_false_iff_not] at hproperty
    obtain ⟨⟨⟨hkind, hinputs⟩, hunnamed⟩, hsame⟩ := hproperty
    exact ⟨driver, settings, jobs, hdriver, hrequest, hkind, hinputs, hunnamed, hplan, hsame⟩
  · intro request hmem
    have hplain : ∀ request ∈ overwriting, ResponseFile.Plain request.1 := by decide +kernel
    have hany : ∀ request ∈ overwriting, (Driver.built? (Driver.ofPlainArguments .bare []
        request.1)).any
        (fun built => built.1.kind == .batch && decide built.1.inputs.Nodup &&
          !built.1.options.hasAny Settings.outputOptions &&
          decide (∃ file ∈ built.2.flatMap (·.outputs), ∃ input ∈ built.1.inputs,
            file.path = input.path ∧ (file.type, input.type) = request.2)) = true := by
      decide +kernel
    obtain ⟨driver, settings, jobs, hdriver, hrequest, hplan, hproperty⟩ :=
      Driver.exists_of_any_built (hplain request hmem) (hany request hmem)
    simp only [Bool.and_eq_true, beq_iff_eq, Bool.not_eq_true', decide_eq_true_eq] at hproperty
    obtain ⟨⟨⟨hkind, hinputs⟩, hunnamed⟩, hover⟩ := hproperty
    exact ⟨driver, settings, jobs, hdriver, hrequest, hkind, hinputs, hunnamed, hplan, hover⟩

end

end SwiftPlan.Plan
