import SwiftPlan.Proofs.Plan.CommandLine
import SwiftPlan.Proofs.Plan.Order
import SwiftPlan.Proofs.Settings.Paths

/-!
# Where planned paths come from

A plan is full of paths, and each of them got there in one of few ways.  Either it is an input, or a
user wrote it as the value of an option, or the planner made it (`Occurs`).  A path that is made is
one that the output-file map gives, one that the settings hold, one where a user can expect a result
of the build (`OutputPath`), or one that is named after the module, after a source or after another
path that is made (`Made`).

Whatever a job writes is made (`made_of_mem_outputs`), and whatever it mentions at all occurs
(`occurs_of_mentions`).  So a property that each of these ways has, and each step from path to path
keeps, is one of all paths in all plans.
-/

namespace SwiftPlan

/-- The job mentions the path, on its command line or among the files that it declares. -/
def Job.Mentions (job : Job) (path : VirtualPath) : Prop :=
  path ∈ Argument.paths job.commandLine ∨ path ∈ TypedPath.paths job.inputs ∨
    path ∈ TypedPath.paths job.outputs

namespace TypedPath

variable {path : VirtualPath} {files : List TypedPath}

lemma mem_paths : path ∈ paths files ↔ ∃ file ∈ files, file.path = path := by
  rw [paths, Multiset.mem_coe]
  exact List.mem_map

end TypedPath

namespace Plan

variable {settings : Settings} {unit : CompileUnit} {type : FileType} {path : VirtualPath}
  {job : Job} {compiles merges links jobs : List Job} {product : LinkProduct}

/-! ## Paths that are made -/

/-- The types of files for which the units of a build look into the output-file map. -/
def consultedTypes (settings : Settings) : List FileType :=
  (if settings.goal.compilerOutput? = some .object then [.object] else [])
    ++ (if writesPartialModules settings then [.swiftModule, .swiftDocumentation] else [])
    ++ (if settings.options.contains "-emit-dependencies" then [.dependencies] else [])
    ++ [.swiftDependencies]

/-- What the map gives for a unit is one of its destinations. -/
lemma exists_entry_of_mapped? (h : unit.mapped? settings type = some path) :
    ∃ map, settings.outputFileMap = some map ∧ ∃ entry ∈ map.entries, (type, path) ∈ entry.2 := by
  obtain ⟨map, hmap, hfind⟩ := Option.bind_eq_some_iff.1 h
  exact ⟨map, hmap, OutputFileMap.exists_entry_of_find? hfind⟩

/-- A path at which a result of the build can go, as the last output that is given says. -/
inductive OutputPath (settings : Settings) : VirtualPath → Prop where
  | dash (h : settings.options.lastValue? ["-o"] = some "-") : OutputPath settings .standardOutput
  | written {text : String} {path : VirtualPath} (hdash : text ≠ "-")
      (h : settings.path text = .ok path) : OutputPath settings path
  | named {name : String} {path : VirtualPath}
      (h : (do (← VirtualPath.relative name).resolvedIn settings.workingDirectory) = .ok path) :
      OutputPath settings path

/-- The planner makes this path. -/
inductive Made (settings : Settings) : VirtualPath → Prop where
  | mapped {unit : CompileUnit} {type : FileType} {path : VirtualPath}
      (hunit : unit ∈ compileUnits settings) (htype : type ∈ consultedTypes settings)
      (h : unit.mapped? settings type = some path) : Made settings path
  | scratch {unit : CompileUnit} {type : FileType} {path : VirtualPath}
      (hunit : unit ∈ compileUnits settings) (htype : type ≠ .image)
      (h : unit.scratchFile settings type = .ok path) : Made settings path
  | output {path : VirtualPath} (h : OutputPath settings path) : Made settings path
  | module {files : ModuleFiles} (h : settings.moduleFiles = some files) :
      Made settings files.output.path
  | documentation {files : ModuleFiles} (h : settings.moduleFiles = some files) :
      Made settings files.documentation
  | dependencies {other path : VirtualPath} (hother : Made settings other)
      (h : other.withExtension FileType.dependencies.extension = .ok path) : Made settings path
  | autolink {path : VirtualPath}
      (h : VirtualPath.temporary (settings.moduleName ++ "." ++ FileType.autolink.extension) =
        .ok path) : Made settings path
  | bundle {image : VirtualPath} (himage : Made settings image) (hstream : image.isStream = false) :
      Made settings ⟨image.kind, image.name ++ "." ++ FileType.dSYM.extension⟩

/-- The last output may be a dash. -/
lemma outputPath_of_lastValue? {text : String}
    (htext : settings.options.lastValue? ["-o"] = some text)
    (h : (if text = "-" then .ok .standardOutput else settings.path text) = .ok path) :
    OutputPath settings path := by
  split at h
  · next hdash =>
    subst hdash
    obtain rfl := Except.ok.inj h
    exact .dash htext
  · next hdash => exact .written hdash h

lemma outputPath_of_productPath (h : productPath settings product = .ok path) :
    OutputPath settings path := by
  rw [productPath] at h
  split at h
  · next htext => exact outputPath_of_lastValue? htext h
  · exact .named h

/-- An object is a result only if nothing is linked. -/
lemma made_of_objectPath (hunit : unit ∈ compileUnits settings)
    (h : unit.objectPath settings = .ok path) : Made settings path := by
  rw [CompileUnit.objectPath] at h
  split at h
  · exact .scratch hunit (by decide) h
  · apply Made.output
    split at h
    · next htext => exact outputPath_of_lastValue? (Option.filter_eq_some_iff.1 htext).1 h
    · exact .named h

/-- The map is asked first. -/
lemma made_of_mappedOr {other : Except PathError VirtualPath}
    (hunit : unit ∈ compileUnits settings) (htype : type ∈ consultedTypes settings)
    (hother : ∀ path, other = .ok path → Made settings path)
    (h : unit.mappedOr settings type other = .ok path) : Made settings path := by
  rw [CompileUnit.mappedOr] at h
  split at h
  · next mapped hmapped =>
    obtain rfl := Except.ok.inj h
    exact .mapped hunit htype hmapped
  · exact hother path h

lemma made_of_mem_objectFiles {objects : List CompileFile} (hunit : unit ∈ compileUnits settings)
    (h : unit.objectFiles settings = .ok objects) : ∀ file ∈ objects, Made settings file.2 := by
  rcases objectFiles_eq_ok h with ⟨hgoal, path, hpath, rfl⟩ | ⟨-, rfl⟩
  · have htype : .object ∈ consultedTypes settings := by simp [consultedTypes, hgoal]
    have hmade : Made settings path :=
      made_of_mappedOr hunit htype (fun other hother => made_of_objectPath hunit hother) hpath
    simpa using hmade
  · simp

lemma made_of_mem_moduleFiles {modules : List CompileFile} (hunit : unit ∈ compileUnits settings)
    (h : unit.moduleFiles settings = .ok modules) : ∀ file ∈ modules, Made settings file.2 := by
  rcases moduleFiles_eq_ok h with ⟨-, rfl⟩ | ⟨files, hfiles, hparts | ⟨-, rfl⟩⟩
  · simp
  · obtain ⟨hpartial, module, documentation, hmodule, hdocumentation, rfl⟩ := hparts
    have hpart {type : FileType} {path : VirtualPath} (htype : type ∈ consultedTypes settings)
        (himage : type ≠ .image)
        (hpath : unit.mappedOr settings type (unit.scratchFile settings type) = .ok path) :
        Made settings path :=
      made_of_mappedOr hunit htype (fun other hother => .scratch hunit himage hother) hpath
    have hmodule' : Made settings module :=
      hpart (by simp [consultedTypes, hpartial]) (by decide) hmodule
    have hdocumentation' : Made settings documentation :=
      hpart (by simp [consultedTypes, hpartial]) (by decide) hdocumentation
    simp [hmodule', hdocumentation']
  · have hmodule : Made settings files.output.path := .module hfiles
    have hdocumentation : Made settings files.documentation := .documentation hfiles
    simp [hmodule, hdocumentation]

/-- A list of dependencies goes beside a file that is made. -/
lemma made_of_mem_dependencyFiles {others dependencies : List CompileFile}
    (hunit : unit ∈ compileUnits settings) (hothers : ∀ file ∈ others, Made settings file.2)
    (h : unit.dependencyFiles settings others = .ok dependencies) :
    ∀ file ∈ dependencies, Made settings file.2 := by
  rcases dependencyFiles_eq_ok h with ⟨hasked, path, hpath, rfl⟩ | ⟨-, rfl⟩
  · have htype : .dependencies ∈ consultedTypes settings := by simp [consultedTypes, hasked]
    have hbeside : ∀ path, dependencyPath settings unit others = .ok path → Made settings path := by
      intro path hpath
      rw [dependencyPath] at hpath
      split at hpath
      · next output first hfirst =>
        have hmem : (output, first) ∈ others :=
          List.mem_of_mem_head? (Option.filter_eq_some_iff.1 hfirst).1
        exact .dependencies (hothers _ hmem) hpath
      · exact .scratch hunit (by decide) hpath
    have hmade : Made settings path := made_of_mappedOr hunit htype hbeside hpath
    simpa using hmade
  · simp

lemma made_of_mem_swiftDependencyFiles (hunit : unit ∈ compileUnits settings) :
    ∀ file ∈ unit.swiftDependencyFiles settings, Made settings file.2 := by
  intro file hfile
  obtain ⟨path, hmapped, rfl⟩ := Option.map_eq_some_iff.1 (Option.mem_toList.1 hfile)
  exact .mapped hunit (by simp [consultedTypes]) hmapped

lemma made_of_mem_compileJobs (h : compileJobs settings = .ok compiles) :
    ∀ job ∈ compiles, ∀ output ∈ job.outputs, Made settings output.path := by
  intro job hjob output houtput
  obtain ⟨unit, hunit, hcompile⟩ := exists_unit_of_mem h hjob
  obtain ⟨objects, modules, dependencies, hobjects, hmodules, hdependencies, houtputs⟩ :=
    outputs_of_compileJob hcompile
  have hothers : ∀ file ∈ objects ++ modules, Made settings file.2 :=
    List.forall_mem_append.2
      ⟨made_of_mem_objectFiles hunit hobjects, made_of_mem_moduleFiles hunit hmodules⟩
  rw [houtputs] at houtput
  obtain ⟨file, hfile, rfl⟩ := List.mem_map.1 houtput
  show Made settings file.2
  rcases List.mem_append.1 hfile with hfile | hfile
  · rcases List.mem_append.1 hfile with hfile | hfile
    · exact hothers file hfile
    · exact made_of_mem_dependencyFiles hunit hothers hdependencies file hfile
  · exact made_of_mem_swiftDependencyFiles hunit file hfile

lemma made_of_mem_mergeJobs (h : mergeJobs settings compiles = .ok merges) :
    ∀ job ∈ merges, ∀ output ∈ job.outputs, Made settings output.path := by
  rcases mergeJobs_eq_ok h with ⟨-, files, merge, hfiles, hmerge, rfl⟩ | ⟨-, rfl⟩
  · obtain ⟨-, -, -, -, houtputs, -⟩ := mergeJob_eq_ok hmerge
    have hmodule : Made settings files.output.path := .module hfiles
    have hdocumentation : Made settings files.documentation := .documentation hfiles
    simp [houtputs, hmodule, hdocumentation]
  · simp

lemma made_of_mem_extractJobs {objects : List TypedPath} {extracts : List Job}
    (h : extractJobs settings objects = .ok extracts) :
    ∀ job ∈ extracts, ∀ output ∈ job.outputs, Made settings output.path := by
  rcases extractJobs_eq_ok h with ⟨-, extract, hextract, rfl⟩ | ⟨-, rfl⟩
  · obtain ⟨output, houtput, -, -, houtputs, -⟩ := autolinkExtractJob_eq_ok hextract
    have hmade : Made settings output := .autolink houtput
    simp [houtputs, hmade]
  · simp

lemma made_of_mem_dsymJobs {output : VirtualPath} (houtput : Made settings output) :
    ∀ job ∈ dsymJobs settings product output, ∀ bundle ∈ job.outputs,
      Made settings bundle.path := by
  rw [dsymJobs]
  split
  · next hcollects =>
    have hstream : output.isStream = false := by
      simp only [collectsDebugInfo, Bool.and_eq_true, Bool.not_eq_true'] at hcollects
      exact hcollects.2
    have hbundle := Made.bundle houtput hstream
    simpa [dsymJob] using hbundle
  · simp

lemma made_of_mem_productJobs (h : productJobs settings compiles = .ok links) :
    ∀ job ∈ links, ∀ output ∈ job.outputs, Made settings output.path := by
  rcases productJobs_eq_ok h with ⟨-, rfl⟩ | ⟨product, hproduct, hlinks⟩
  · simp
  · obtain ⟨extracts, output, link, hextracts, houtput, hlink, rfl⟩ := linkJobs_eq_ok hlinks
    have himage : Made settings output := .output (outputPath_of_productPath houtput)
    refine List.forall_mem_append.2
      ⟨made_of_mem_extractJobs hextracts, List.forall_mem_cons.2 ⟨?_, ?_⟩⟩
    · obtain ⟨-, -, houtputs⟩ := linkJob_files hlink
      simpa [houtputs] using himage
    · exact made_of_mem_dsymJobs himage

/-- Whatever a planned job writes is made. -/
lemma made_of_mem_outputs (h : (ofSettings settings).outcome = .ok jobs) :
    ∀ job ∈ jobs, ∀ output ∈ job.outputs, Made settings output.path := by
  cases hmode : settings.mode with
  | repl =>
    obtain ⟨repl, hrepl, rfl⟩ := (ofSettings_repl_eq_ok hmode).1 h
    simp [(replJob_eq_ok hrepl).2.2]
  | immediate =>
    obtain ⟨interpret, hinterpret, rfl⟩ := (ofSettings_immediate_eq_ok hmode).1 h
    simp [(interpretJob_eq_ok hinterpret).2.2]
  | standard | single =>
    rcases (ofSettings_eq_ok (by simp [hmode])).1 h with ⟨-, rfl⟩ | ⟨-, hbuild⟩
    · simp
    · obtain ⟨compiles, merges, links, hcompiles, hmerges, hlinks, rfl⟩ := buildJobs_eq_ok hbuild
      refine List.forall_mem_append.2 ⟨List.forall_mem_append.2 ⟨?_, ?_⟩, ?_⟩
      · exact made_of_mem_compileJobs hcompiles
      · exact made_of_mem_mergeJobs hmerges
      · exact made_of_mem_productJobs hlinks

/-! ## Paths that occur -/

/-- The path occurs in the plan of a build: it is an input, it is made, or a user wrote it. -/
inductive Occurs (settings : Settings) : VirtualPath → Prop where
  | input {file : TypedPath} (h : file ∈ settings.inputs) : Occurs settings file.path
  | made {path : VirtualPath} (h : Made settings path) : Occurs settings path
  | told {text : String} {path : VirtualPath} (h : settings.path text = .ok path) :
      Occurs settings path

/-- Files that are inputs or were written before. -/
lemma occurs_of_mem_linkedObjects (h : compileJobs settings = .ok compiles) :
    ∀ file ∈ linkedObjects settings compiles, Occurs settings file.path := by
  intro file hfile
  rcases List.mem_append.1 hfile with hfile | hfile
  · obtain ⟨job, hjob, hwritten⟩ := List.mem_flatMap.1 (mem_outputs_of_mem_outputsOf hfile)
    exact .made (made_of_mem_compileJobs h job hjob file hwritten)
  · exact .input (mem_inputs_of_mem_linkedInputs hfile)

lemma occurs_of_mem_linkExtras {extracts : List Job} {objects : List TypedPath}
    (hextracts : extractJobs settings objects = .ok extracts) :
    ∀ file ∈ linkExtras settings product (linkInputs settings compiles extracts),
      Occurs settings file.path := by
  intro file hfile
  rcases mem_linkExtras hfile with htold | hextracted | hinput
  · rw [toldModule] at htold
    split at htold
    · obtain ⟨files, hfiles, rfl⟩ := Option.map_eq_some_iff.1 htold
      exact .made (.module hfiles)
    · simp at htold
  · obtain ⟨job, hjob, hwritten⟩ := List.mem_flatMap.1 hextracted
    exact .made (made_of_mem_extractJobs hextracts job hjob file hwritten)
  · exact .input hinput

lemma occurs_of_mem_inputs_productJobs (hcompiles : compileJobs settings = .ok compiles)
    (h : productJobs settings compiles = .ok links) :
    ∀ job ∈ links, ∀ input ∈ job.inputs, Occurs settings input.path := by
  rcases productJobs_eq_ok h with ⟨-, rfl⟩ | ⟨product, hproduct, hlinks⟩
  · simp
  obtain ⟨extracts, output, link, hextracts, houtput, hlink, rfl⟩ := linkJobs_eq_ok hlinks
  refine List.forall_mem_append.2
    ⟨fun job hjob => ?_, List.forall_mem_cons.2 ⟨?_, fun job hjob => ?_⟩⟩
  · rcases extractJobs_eq_ok hextracts with ⟨-, extract, hextract, rfl⟩ | ⟨-, rfl⟩
    · obtain rfl := List.mem_singleton.1 hjob
      obtain ⟨-, -, -, hinputs, -⟩ := autolinkExtractJob_eq_ok hextract
      rw [hinputs]
      exact occurs_of_mem_linkedObjects hcompiles
    · simp at hjob
  · obtain ⟨-, hinputs, -⟩ := linkJob_files hlink
    rw [hinputs]
    exact List.forall_mem_append.2
      ⟨occurs_of_mem_linkedObjects hcompiles, occurs_of_mem_linkExtras hextracts⟩
  · rw [dsymJobs] at hjob
    split at hjob
    · obtain rfl := List.mem_singleton.1 hjob
      have himage : Occurs settings output := .made (.output (outputPath_of_productPath houtput))
      simpa [dsymJob] using himage
    · simp at hjob

/-- Whatever a planned job reads occurs. -/
lemma occurs_of_mem_inputs (h : (ofSettings settings).outcome = .ok jobs) :
    ∀ job ∈ jobs, ∀ input ∈ job.inputs, Occurs settings input.path := by
  cases hmode : settings.mode with
  | repl =>
    obtain ⟨repl, hrepl, rfl⟩ := (ofSettings_repl_eq_ok hmode).1 h
    simp [(replJob_eq_ok hrepl).2.1]
  | immediate =>
    obtain ⟨interpret, hinterpret, rfl⟩ := (ofSettings_immediate_eq_ok hmode).1 h
    rw [List.forall_mem_singleton, (interpretJob_eq_ok hinterpret).2.1]
    intro input hinput
    exact .input hinput
  | standard | single =>
    rcases (ofSettings_eq_ok (by simp [hmode])).1 h with ⟨-, rfl⟩ | ⟨-, hbuild⟩
    · simp
    obtain ⟨compiles, merges, links, hcompiles, hmerges, hlinks, rfl⟩ := buildJobs_eq_ok hbuild
    refine List.forall_mem_append.2
      ⟨List.forall_mem_append.2 ⟨fun job hjob => ?_, fun job hjob => ?_⟩, ?_⟩
    · obtain ⟨unit, -, hunit⟩ := exists_unit_of_mem hcompiles hjob
      obtain ⟨-, -, -, -, -, hinputs, -⟩ := compileJob_eq_ok hunit
      rw [hinputs]
      intro input hinput
      exact .input (List.mem_filter.1 hinput).1
    · rcases mergeJobs_eq_ok hmerges with ⟨-, files, merge, -, hmerge, rfl⟩ | ⟨-, rfl⟩
      · obtain rfl := List.mem_singleton.1 hjob
        obtain ⟨-, -, -, hinputs, -⟩ := mergeJob_eq_ok hmerge
        rw [hinputs]
        intro part hpart
        obtain ⟨compile, hcompile, hwritten⟩ :=
          List.mem_flatMap.1 (mem_outputs_of_mem_outputsOf hpart)
        exact .made (made_of_mem_compileJobs hcompiles compile hcompile part hwritten)
      · simp at hjob
    · exact occurs_of_mem_inputs_productJobs hcompiles hlinks

/-- Whatever a planned job mentions occurs.  What its command line has besides the files that it
declares is what the user wrote. -/
lemma occurs_of_mentions (h : (ofSettings settings).outcome = .ok jobs) (hjob : job ∈ jobs)
    (hpath : job.Mentions path) : Occurs settings path := by
  have hinput (hread : path ∈ TypedPath.paths job.inputs) : Occurs settings path := by
    obtain ⟨file, hfile, rfl⟩ := TypedPath.mem_paths.1 hread
    exact occurs_of_mem_inputs h job hjob file hfile
  have houtput (hwritten : path ∈ TypedPath.paths job.outputs) : Occurs settings path := by
    obtain ⟨file, hfile, rfl⟩ := TypedPath.mem_paths.1 hwritten
    exact .made (made_of_mem_outputs h job hjob file hfile)
  rcases hpath with hargument | hread | hwritten
  · obtain ⟨told, htold, hcommand⟩ := ofSettings_namesFiles h job hjob
    rw [hcommand, Multiset.mem_add, Multiset.mem_add, Multiset.mem_coe] at hargument
    rcases hargument with (hread | hwritten) | hmem
    · exact hinput hread
    · exact houtput hwritten
    · obtain ⟨text, -, htext⟩ := exists_of_mem_mapM htold hmem
      exact .told htext
  · exact hinput hread
  · exact houtput hwritten

end Plan

/-! ## Requests -/

namespace Driver

open Plan

variable {driver : Driver} {settings : Settings} {jobs : List Job} {job : Job} {path : VirtualPath}

/-- The executables that are put in are no paths of the plan. -/
lemma occurs_of_mentions (hrequest : driver.request = .build settings)
    (hplan : driver.plan.outcome = .ok jobs) (hjob : job ∈ jobs) (hpath : job.Mentions path) :
    Occurs settings path := by
  obtain ⟨plain, hplain, rfl⟩ := (plan_eq_ok hrequest).1 hplan
  obtain ⟨made, hmade, rfl⟩ := List.mem_map.1 hjob
  have hmentions : made.Mentions path := hpath
  exact Plan.occurs_of_mentions hplain hmade hmentions

lemma made_of_mem_outputs (hrequest : driver.request = .build settings)
    (hplan : driver.plan.outcome = .ok jobs) (hjob : job ∈ jobs) {output : TypedPath}
    (houtput : output ∈ job.outputs) : Made settings output.path := by
  obtain ⟨plain, hplain, rfl⟩ := (plan_eq_ok hrequest).1 hplan
  obtain ⟨made, hmade, rfl⟩ := List.mem_map.1 hjob
  have hwritten : output ∈ made.outputs := houtput
  exact Plan.made_of_mem_outputs hplain made hmade output hwritten

end Driver

end SwiftPlan
