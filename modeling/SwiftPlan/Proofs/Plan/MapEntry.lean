import SwiftPlan.Proofs.Plan.Shape

/-!
# Entries of the output-file map

A compile job looks into the output-file map under one name: that of the input that it compiles, or
the empty one if inputs are compiled together (`IsKey`).  So all other entries can be replaced
without a change to the job, even if one of them makes another job fail (`compile_of_entry`).

Within its entry, a destination takes precedence over whatever would be worked out in its place.
Modules are an exception.  Only parts of a module that are put together later go where the map says
(`Decides`), since the place of the module itself is settled for the whole build.
-/

namespace SwiftPlan

/-- The maps have the same entry for an input, or none. -/
def OutputFileMap.AgreeAt (input : String) (first second : OutputFileMap) : Prop :=
  first.entries.lookup input = second.entries.lookup input

/-- The settings with another output-file map. -/
def Settings.withMap (settings : Settings) (map : OutputFileMap) : Settings :=
  { settings with outputFileMap := some map }

namespace Plan

/-- The name under which the compile job at an index looks into the output-file map. -/
inductive IsKey (settings : Settings) : Nat → String → Prop where
  | source {index : Nat} {source : TypedPath} (hmode : settings.mode = .standard)
      (hsource : (swiftInputs settings)[index]? = some source) :
      IsKey settings index source.path.display
  | whole (hmode : settings.mode = .single) : IsKey settings 0 ""

/-- The types of outputs for which a destination in the output-file map is the last word. -/
inductive Decides (settings : Settings) : FileType → Prop where
  | object : Decides settings .object
  | dependencies : Decides settings .dependencies
  | swiftDependencies : Decides settings .swiftDependencies
  | module (h : mergesModule settings) : Decides settings .swiftModule
  | documentation (h : mergesModule settings) : Decides settings .swiftDocumentation

variable {settings : Settings} {unit : CompileUnit} {map map' : OutputFileMap} {job : Job}
  {type : FileType} {path : VirtualPath} {compiles jobs : List Job} {index : Nat}

/-! ## Other entries -/

section

variable (hmap : settings.outputFileMap = some map) (hagree : map'.AgreeAt unit.mapInput map)

include hmap hagree

lemma mapped?_withMap (type : FileType) :
    unit.mapped? (settings.withMap map') type = unit.mapped? settings type := by
  rw [CompileUnit.mapped?, CompileUnit.mapped?, hmap]
  show map'.find? unit.mapInput type = map.find? unit.mapInput type
  rw [OutputFileMap.find?, hagree, OutputFileMap.find?]

lemma mappedOr_withMap (type : FileType) (other : Except PathError VirtualPath) :
    unit.mappedOr (settings.withMap map') type other = unit.mappedOr settings type other := by
  rw [CompileUnit.mappedOr, mapped?_withMap hmap hagree, CompileUnit.mappedOr]

lemma files_withMap : unit.files (settings.withMap map') = unit.files settings := by
  have hobjects : unit.objectFiles (settings.withMap map') = unit.objectFiles settings := by
    simp only [CompileUnit.objectFiles, mappedOr_withMap hmap hagree]
    rfl
  have hmodules : unit.moduleFiles (settings.withMap map') = unit.moduleFiles settings := by
    simp only [CompileUnit.moduleFiles, mappedOr_withMap hmap hagree]
    rfl
  have hdependencies (others : List CompileFile) :
      unit.dependencyFiles (settings.withMap map') others =
        unit.dependencyFiles settings others := by
    simp only [CompileUnit.dependencyFiles, mappedOr_withMap hmap hagree]
    rfl
  have hswift : unit.swiftDependencyFiles (settings.withMap map') =
      unit.swiftDependencyFiles settings := by
    rw [CompileUnit.swiftDependencyFiles, mapped?_withMap hmap hagree,
      CompileUnit.swiftDependencyFiles]
  simp only [CompileUnit.files, hobjects, hmodules, hdependencies, hswift]

/-- A unit looks at its own entry only, whether its job can be made or not. -/
lemma compileJob_withMap : compileJob (settings.withMap map') unit = compileJob settings unit := by
  rw [compileJob, files_withMap hmap hagree, compileJob]
  rfl

end

/-! ## The entry of a job -/

lemma mem_swiftDependencyFiles {file : CompileFile} :
    file ∈ unit.swiftDependencyFiles settings ↔
      ∃ path, unit.mapped? settings .swiftDependencies = some path ∧
        (.swiftDependencies, path) = file := by
  rw [CompileUnit.swiftDependencyFiles, Option.mem_toList, Option.map_eq_some_iff]

/-- Each file of a compile job goes where the map says if it says anything, except for the files of
a module that is compiled as a whole. -/
lemma exists_mappedOr_of_mem {files : List CompileFile} (h : unit.files settings = .ok files)
    {file : CompileFile} (hfile : file ∈ files) :
    (∃ other, unit.mappedOr settings file.1.type other = .ok file.2) ∨
      writesPartialModules settings = false ∧ (file.1 = .module ∨ file.1 = .documentation) := by
  obtain ⟨objects, modules, dependencies, hobjects, hmodules, hdependencies, rfl⟩ :=
    files_eq_ok.1 h
  simp only [List.mem_append] at hfile
  rcases hfile with ((hobject | hmodule) | hdependency) | hswift
  · rcases objectFiles_eq_ok hobjects with ⟨-, path, hpath, rfl⟩ | ⟨-, rfl⟩
    · obtain rfl := List.mem_singleton.1 hobject
      exact .inl ⟨_, hpath⟩
    · simp at hobject
  · rcases moduleFiles_eq_ok hmodules with ⟨-, rfl⟩ |
      ⟨files, -, ⟨-, module, documentation, hpath, hpath', rfl⟩ | ⟨hwhole, rfl⟩⟩
    · simp at hmodule
    · rcases List.mem_pair.1 hmodule with rfl | rfl
      · exact .inl ⟨_, hpath⟩
      · exact .inl ⟨_, hpath'⟩
    · exact .inr ⟨hwhole, type_of_mem_moduleFiles hmodules file hmodule⟩
  · rcases dependencyFiles_eq_ok hdependencies with ⟨-, path, hpath, rfl⟩ | ⟨-, rfl⟩
    · obtain rfl := List.mem_singleton.1 hdependency
      exact .inl ⟨_, hpath⟩
    · simp at hdependency
  · obtain ⟨path, hpath, rfl⟩ := mem_swiftDependencyFiles.1 hswift
    exact .inl ⟨.ok path, mappedOr_of_mapped? hpath _⟩

lemma writesPartialModules_of_decides (hmode : settings.mode = .standard ∨ settings.mode = .single)
    {file : CompileFile} (hdecides : Decides settings file.1.type)
    (hmodule : file.1 = .module ∨ file.1 = .documentation) :
    writesPartialModules settings = true := by
  rw [writesPartialModules_iff hmode]
  rcases hmodule with hmodule | hmodule
  · rw [hmodule] at hdecides
    cases hdecides with
    | module hmerges => exact hmerges
  · rw [hmodule] at hdecides
    cases hdecides with
    | documentation hmerges => exact hmerges

/-- What the map says about an output is the last word. -/
lemma path_of_decides (hmode : settings.mode = .standard ∨ settings.mode = .single)
    (h : compileJob settings unit = .ok job) (hdecides : Decides settings type)
    (hmapped : unit.mapped? settings type = some path) :
    ∀ output ∈ job.outputsOf type, output.path = path := by
  intro output houtput
  obtain ⟨files, -, hfiles, -, -, -, houtputs, -⟩ := compileJob_eq_ok h
  rw [Job.outputsOf, List.mem_filter, houtputs, List.mem_map, beq_iff_eq] at houtput
  obtain ⟨⟨file, hfile, rfl⟩, rfl⟩ := houtput
  rcases exists_mappedOr_of_mem hfiles hfile with ⟨other, hother⟩ | ⟨hwhole, hmodule⟩
  · exact (eq_of_mapped? hmapped hother).symm
  · simp [writesPartialModules_of_decides hmode hdecides hmodule] at hwhole

/-- What the compiler finds out about dependencies is written exactly if the map has a place for
it. -/
lemma outputsOf_swiftDependencies (h : compileJob settings unit = .ok job) :
    job.outputsOf .swiftDependencies ≠ [] ↔
      (unit.mapped? settings .swiftDependencies).isSome = true := by
  obtain ⟨objects, modules, dependencies, hobjects, hmodules, hdependencies, houtputs⟩ :=
    outputs_of_compileJob h
  have hother : ∀ file ∈ objects ++ modules ++ dependencies,
      file.1.type ≠ .swiftDependencies := by
    intro file hfile
    rw [List.mem_append, List.mem_append] at hfile
    rcases hfile with (hobject | hmodule) | hdependency
    · simp [type_of_mem_objectFiles hobjects file hobject, CompileOutput.type]
    · rcases type_of_mem_moduleFiles hmodules file hmodule with hfirst | hfirst <;>
        simp [hfirst, CompileOutput.type]
    · simp [type_of_mem_dependencyFiles hdependencies file hdependency, CompileOutput.type]
  constructor
  · intro hne
    obtain ⟨output, houtput⟩ := List.exists_mem_of_ne_nil _ hne
    rw [Job.outputsOf, List.mem_filter, houtputs, List.mem_map, beq_iff_eq] at houtput
    obtain ⟨⟨file, hfile, rfl⟩, htype⟩ := houtput
    rcases List.mem_append.1 hfile with hfile | hswift
    · exact absurd htype (hother file hfile)
    · obtain ⟨path, hpath, -⟩ := mem_swiftDependencyFiles.1 hswift
      exact Option.isSome_iff_exists.2 ⟨path, hpath⟩
  · intro hsome
    obtain ⟨path, hpath⟩ := Option.isSome_iff_exists.1 hsome
    have hfile := mem_swiftDependencyFiles.2 ⟨path, hpath, rfl⟩
    refine List.ne_nil_of_mem (a := ⟨path, .swiftDependencies⟩) (List.mem_filter.2 ⟨?_, rfl⟩)
    rw [houtputs]
    exact List.mem_map.2 ⟨_, List.mem_append_right _ hfile, rfl⟩

/-! ## Compile jobs by index -/

lemma isKey_mapInput (hmode : settings.mode = .standard ∨ settings.mode = .single)
    (h : (compileUnits settings)[index]? = some unit) : IsKey settings index unit.mapInput := by
  rcases hmode with hmode | hmode
  · rw [compileUnits_of_standard hmode, List.getElem?_map, Option.map_eq_some_iff] at h
    obtain ⟨⟨source, place⟩, hsource, rfl⟩ := h
    rw [List.getElem?_zipIdx, Option.map_eq_some_iff] at hsource
    obtain ⟨source', hsource, hsame⟩ := hsource
    obtain ⟨rfl, -⟩ := Prod.mk.inj hsame
    exact .source hmode hsource
  · have hswift : swiftInputs settings ≠ [] := fun hnone => by
      simp [compileUnits_eq_nil_iff.2 hnone] at h
    rw [compileUnits_of_single hmode hswift, List.getElem?_singleton] at h
    split at h
    · next hindex =>
      obtain rfl := Option.some.inj h
      subst hindex
      exact .whole hmode
    · cases h

/-- The compile job at an index, with the executables of a toolchain, or what is wrong with it. -/
def compileJobAt (settings : Settings) (toolchain : Toolchain) (index : Nat) :
    Option (Except PathError Job) :=
  (compileUnits settings)[index]?.map fun unit =>
    (compileJob settings unit).map (·.equip toolchain)

variable {toolchain : Toolchain} {driver : Driver}

lemma compileJobAt_eq_some :
    compileJobAt settings toolchain index = some (.ok job) ↔
      ∃ unit plain, (compileUnits settings)[index]? = some unit ∧
        compileJob settings unit = .ok plain ∧ plain.equip toolchain = job := by
  rw [compileJobAt, Option.map_eq_some_iff]
  constructor
  · rintro ⟨unit, hunit, hmade⟩
    cases hplain : compileJob settings unit with
    | error error => simp [hplain, Except.map] at hmade
    | ok plain =>
      rw [hplain] at hmade
      exact ⟨unit, plain, hunit, hplain, Except.ok.inj hmade⟩
  · rintro ⟨unit, plain, hunit, hplain, rfl⟩
    exact ⟨unit, hunit, by rw [hplain]; rfl⟩

/-- The compile jobs of a plan are those at all indices. -/
lemma compileJobAt_of_plan (hrequest : driver.request = .build settings)
    (hmode : settings.mode = .standard ∨ settings.mode = .single)
    (hplan : driver.plan.outcome = .ok jobs) (index : Nat) :
    compileJobAt settings driver.toolchain index = (ofKind .compile jobs)[index]?.map .ok := by
  obtain ⟨compiles, hcompiles, hkind⟩ := compileJobs_of_plan hrequest hmode hplan
  have hmade : (compileUnits settings).map (compileJob settings) = compiles.map .ok := by
    rw [← List.forall₂_eq_eq_eq, List.forall₂_map_left_iff, List.forall₂_map_right_iff]
    exact compileJobs_eq_ok.1 hcompiles
  have hindex := congrArg (·[index]?) hmade
  simp only [List.getElem?_map] at hindex
  have hequipped := congrArg (Option.map (Except.map (·.equip driver.toolchain))) hindex
  rw [Option.map_map, Option.map_map] at hequipped
  rw [hkind, List.getElem?_map, Option.map_map]
  exact hequipped

/-- **A compile job depends on its own entry of the output-file map.**  If the other entries are
replaced, then the job stays the same, whether or not the other jobs can still be made.  Where the
entry has a destination for an output, the output goes there, and what the compiler finds out about
dependencies is written only in this case. -/
theorem compile_of_entry (hrequest : driver.request = .build settings)
    (hmode : settings.mode = .standard ∨ settings.mode = .single)
    (hmap : settings.outputFileMap = some map) (hplan : driver.plan.outcome = .ok jobs)
    (hjob : (ofKind .compile jobs)[index]? = some job) :
    ∃ key, IsKey settings index key ∧
      (∀ type path, Decides settings type → map.find? key type = some path →
        ∀ output ∈ job.outputsOf type, output.path = path) ∧
      (job.outputsOf .swiftDependencies ≠ [] ↔
        (map.find? key .swiftDependencies).isSome = true) ∧
      ∀ map', map'.AgreeAt key map →
        compileJobAt (settings.withMap map') driver.toolchain index = some (.ok job) ∧
          ∀ (driver' : Driver) (jobs' : List Job),
            driver'.request = .build (settings.withMap map') →
              driver'.toolchain = driver.toolchain → driver'.plan.outcome = .ok jobs' →
              (ofKind .compile jobs')[index]? = some job := by
  have hmade : compileJobAt settings driver.toolchain index = some (.ok job) := by
    rw [compileJobAt_of_plan hrequest hmode hplan, hjob, Option.map_some]
  obtain ⟨unit, plain, hunit, hplain, rfl⟩ := compileJobAt_eq_some.1 hmade
  have hmapped (type : FileType) :
      unit.mapped? settings type = map.find? unit.mapInput type := by
    rw [CompileUnit.mapped?, hmap, Option.bind_some]
  refine ⟨unit.mapInput, isKey_mapInput hmode hunit, fun type path hdecides hfind => ?_, ?_,
    fun map' hagree => ?_⟩
  · rw [← hmapped] at hfind
    have hpath := path_of_decides hmode hplain hdecides hfind
    exact hpath
  · have hdeclared := outputsOf_swiftDependencies hplain
    rw [hmapped] at hdeclared
    exact hdeclared
  · have hother : compileJobAt (settings.withMap map') driver.toolchain index =
        some (.ok (plain.equip driver.toolchain)) :=
      compileJobAt_eq_some.2
        ⟨unit, plain, hunit, (compileJob_withMap hmap hagree).trans hplain, rfl⟩
    refine ⟨hother, fun driver' jobs' hrequest' htoolchain hplan' => ?_⟩
    have hindex := compileJobAt_of_plan hrequest' hmode hplan' index
    rw [htoolchain, hother] at hindex
    obtain ⟨job', hjob', hsame⟩ := Option.map_eq_some_iff.1 hindex.symm
    rw [hjob', Except.ok.inj hsame]

/-- A machine with an output-file map that has an entry for one source. -/
def withEntry : Surroundings :=
  ⟨.ofFiles "/work"
    [("m.json",
      ("\x7b\"a.swift\": \x7b\"object\": \"out/a.o\", " ++
        "\"swift-dependencies\": \"a.deps\"\x7d\x7d").toUTF8)],
    ⟨"Linux", "x86_64", ""⟩⟩

/-- A source that is given twice has one entry, to which both of its jobs keep. -/
theorem compile_of_entry_of_repeated_source :
    ∃ driver settings map jobs job,
      (Driver.ofArguments withEntry [] ["swiftc", "-c", "a.swift", "b.swift", "a.swift",
          "-output-file-map", "m.json"]).outcome = .ok driver ∧
        driver.request = .build settings ∧ settings.mode = .standard ∧
        settings.outputFileMap = some map ∧ driver.plan.outcome = .ok jobs ∧
        (ofKind .compile jobs)[2]? = some job ∧
        map.find? "a.swift" .object = some ⟨.relative, "out/a.o"⟩ ∧
        (∀ output ∈ job.outputsOf .object, output.path = ⟨.relative, "out/a.o"⟩) ∧
        job.outputsOf .swiftDependencies ≠ [] ∧
        ∀ map' : OutputFileMap, map'.AgreeAt "a.swift" map →
          compileJobAt (settings.withMap map') driver.toolchain 2 = some (.ok job) := by
  have hany : (Driver.built? (Driver.ofPlainArguments withEntry [] ["swiftc", "-c", "a.swift",
      "b.swift", "a.swift", "-output-file-map", "m.json"])).any
      (fun built => built.1.mode == .standard &&
        (swiftInputs built.1).map (·.path.display) == ["a.swift", "b.swift", "a.swift"] &&
        built.1.outputFileMap.any (fun map =>
          map.find? "a.swift" .object == some ⟨.relative, "out/a.o"⟩ &&
            (map.find? "a.swift" .swiftDependencies).isSome) &&
        (ofKind .compile built.2)[2]?.isSome) = true := by
    decide +kernel
  obtain ⟨driver, settings, jobs, hdriver, hrequest, hplan, hproperty⟩ :=
    Driver.exists_of_any_built (by decide +kernel) hany
  simp only [Bool.and_eq_true, beq_iff_eq, Option.any_eq_true, Option.isSome_iff_exists]
    at hproperty
  obtain ⟨⟨⟨hmode, hnames⟩, map, hmap, hobject, hdependencies⟩, job, hjob⟩ := hproperty
  obtain ⟨key, hkey, hpath, hdeclared, hother⟩ :=
    compile_of_entry hrequest (.inl hmode) hmap hplan hjob
  obtain rfl : key = "a.swift" := by
    cases hkey with
    | @source _ source _ hsource =>
      have hname := congrArg (·[2]?) hnames
      simpa [hsource] using hname
  refine ⟨driver, settings, map, jobs, job, hdriver, hrequest, hmode, hmap, hplan, hjob, hobject,
    hpath .object _ .object hobject, ?_, fun map' hagree => (hother map' hagree).1⟩
  exact hdeclared.2 (Option.isSome_iff_exists.2 hdependencies)

end Plan

end SwiftPlan
