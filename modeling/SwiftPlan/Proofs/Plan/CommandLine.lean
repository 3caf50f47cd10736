import Mathlib.Algebra.Order.Group.Multiset
import Mathlib.Tactic.Abel
import SwiftPlan.Proofs.Plan.Jobs
import SwiftPlan.Proofs.ResponseFile.Plain

/-!
# Files on command lines

Whoever runs a job sees which files it reads and writes in two places: in the lists that the job
declares, and on its command line.  The two are written down separately, so it has to be shown that
they agree (`names_files_plan`).  Paths are counted here, since one file may be read twice.

A command line has one more source of paths, the options that are handed on to the tool.  Which
values these are depends on the kind of the job only (`forwardedValues`), and each of them is read
as a path of the build.  A command line is put together from pieces, and its paths are those of the
pieces (`Argument.paths_append`); of each piece one lemma says which paths it has.
-/

namespace SwiftPlan

/-- The paths in arguments, each as often as it stands there. -/
def Argument.paths (arguments : List Argument) : Multiset VirtualPath :=
  arguments.filterMap path?

/-- The paths of files, each as often as it stands there. -/
def TypedPath.paths (files : List TypedPath) : Multiset VirtualPath :=
  files.map (·.path)

namespace Plan

/-- The options whose paths the compiler is told wherever it runs on source files. -/
def searchOptions : List String :=
  ["-I", "-I=", "-F", "-sdk", "-api-diff-data-file"]

/-- The value of the last option that names a header, if there is one. -/
def headerValues (settings : Settings) : List String :=
  (settings.options.lastValue? ["-import-objc-header"]).toList

/-- The values of the path options that are handed on to jobs of a kind.  Archivers are told
nothing. -/
def forwardedValues (settings : Settings) : JobKind → List String
  | .compile | .interpret | .repl =>
    (settings.options.allOf searchOptions).map (·.value) ++ headerValues settings
  | .mergeModule => headerValues settings
  | .link =>
    if settings.goal.product? = some .staticLibrary then []
    else (settings.options.allOf ["-L"]).map (·.value)
  | .autolinkExtract | .generateDSYM | .passthrough => []

/-- The paths on the command line of a job are those of the files that it declares, and those of the
options that are handed on to jobs of its kind. -/
def NamesFiles (settings : Settings) (job : Job) : Prop :=
  ∃ told, (forwardedValues settings job.kind).mapM settings.path = .ok told ∧
    Argument.paths job.commandLine =
      TypedPath.paths job.inputs + TypedPath.paths job.outputs + Multiset.ofList told

end Plan

/-! ## Paths of pieces -/

namespace Argument

variable {first second : List Argument} {path : VirtualPath}

@[simp] lemma paths_nil : paths [] = 0 := rfl

@[simp] lemma paths_append : paths (first ++ second) = paths first + paths second := by
  rw [paths, List.filterMap_append]
  rfl

@[simp] lemma paths_flag (text : String) : paths (flag text :: first) = paths first := rfl

@[simp] lemma paths_path (lead : String) :
    paths (Argument.path path lead :: first) = {path} + paths first := rfl

@[simp] lemma paths_file : paths (file path :: first) = {path} + paths first := rfl

@[simp] lemma paths_option (spelling : String) : paths (option spelling path) = {path} := rfl

/-- Arguments that are made of texts have no paths. -/
@[simp] lemma paths_map_flag {α : Type} (text : α → String) (elements : List α) :
    paths (elements.map fun element => flag (text element)) = 0 := by
  rw [paths, List.filterMap_map]
  exact congrArg Multiset.ofList (List.filterMap_eq_nil_iff.2 fun _ _ => rfl)

end Argument

namespace TypedPath

@[simp] lemma paths_nil : paths [] = 0 := rfl

@[simp] lemma paths_cons (file : TypedPath) (rest : List TypedPath) :
    paths (file :: rest) = {file.path} + paths rest := rfl

@[simp] lemma paths_append (first second : List TypedPath) :
    paths (first ++ second) = paths first + paths second := by
  rw [paths, List.map_append]
  rfl

end TypedPath

namespace Plan

variable {settings : Settings} {unit : CompileUnit} {job : Job} {links jobs : List Job}
  {product : LinkProduct} {inputs : LinkInputs} {output : VirtualPath}

@[simp] lemma paths_fileArguments (files : List TypedPath) :
    Argument.paths (fileArguments files) = TypedPath.paths files := by
  induction files with
  | nil => rfl
  | cons file rest ih =>
    rw [TypedPath.paths_cons, ← ih]
    rfl

/-- Each file of a list becomes one path if each of them does. -/
lemma paths_flatMap {α : Type} {elements : List α} {arguments : α → List Argument}
    {file : α → TypedPath}
    (h : ∀ element, Argument.paths (arguments element) = {(file element).path}) :
    Argument.paths (elements.flatMap arguments) = TypedPath.paths (elements.map file) := by
  induction elements with
  | nil => rfl
  | cons element rest ih =>
    rw [List.flatMap_cons, Argument.paths_append, h, ih, List.map_cons, TypedPath.paths_cons]

lemma paths_flatMap_files {files : List TypedPath} {arguments : TypedPath → List Argument}
    (h : ∀ file, Argument.paths (arguments file) = {file.path}) :
    Argument.paths (files.flatMap arguments) = TypedPath.paths files := by
  have hfiles : Argument.paths (files.flatMap arguments) = TypedPath.paths (files.map id) :=
    paths_flatMap h
  rwa [List.map_id] at hfiles

/-! ## Paths that are handed on -/

/-- If each option with one of the given identities is handed on with its path, and all others
without, then together they are handed on with the paths of their values. -/
lemma paths_flatten {step : ParsedOption → Except PathError (List Argument)} {names : List String}
    {elements : List ParsedOption} {results : List (List Argument)}
    (htold : ∀ element arguments, step element = .ok arguments → element.isOneOf names = true →
      ∃ path, settings.path element.value = .ok path ∧ Argument.paths arguments = {path})
    (hother : ∀ element arguments, step element = .ok arguments → element.isOneOf names = false →
      Argument.paths arguments = 0)
    (h : elements.mapM step = .ok results) :
    ∃ told, ((elements.filter (·.isOneOf names)).map (·.value)).mapM settings.path = .ok told ∧
      Argument.paths results.flatten = Multiset.ofList told := by
  induction mapM_eq_ok.1 h with
  | nil => exact ⟨[], rfl, rfl⟩
  | @cons element result elements results hstep hrest ih =>
    obtain ⟨told, htail, hpaths⟩ := ih (mapM_eq_ok.2 hrest)
    rw [List.flatten_cons, Argument.paths_append, hpaths]
    cases hone : element.isOneOf names with
    | true =>
      obtain ⟨path, hpath, hresult⟩ := htold element result hstep hone
      refine ⟨path :: told, ?_, by rw [hresult]; rfl⟩
      simp only [List.filter_cons, hone, if_true, List.map_cons]
      exact mapM_eq_ok.2 (.cons hpath (mapM_eq_ok.1 htail))
    | false =>
      refine ⟨told, ?_, by rw [hother element result hstep hone, zero_add]⟩
      rwa [List.filter_cons_of_neg (by simp [hone])]

/-- The options whose paths the compiler is told are those that are handed on under a flag. -/
lemma forwardedPathFlag?_isSome {identity : String} :
    (forwardedPathFlag? identity).isSome = true ↔ identity ∈ searchOptions := by
  rw [forwardedPathFlag?, List.lookup_isSome_iff]
  simp [searchOptions]

lemma paths_forwarded {elements : List ParsedOption} {results : List (List Argument)}
    (h : elements.mapM (forwarded settings) = .ok results) :
    ∃ told,
      ((elements.filter (·.isOneOf searchOptions)).map (·.value)).mapM settings.path = .ok told ∧
        Argument.paths results.flatten = Multiset.ofList told := by
  refine paths_flatten (fun element arguments hstep hone => ?_)
    (fun element arguments hstep hone => ?_) h
  · obtain ⟨identity, hidentity, hname⟩ := (Option.any_eq_true _ _).1 hone
    obtain ⟨flag, hflag⟩ := Option.isSome_iff_exists.1
      (forwardedPathFlag?_isSome.2 (by simpa using hname))
    simp only [forwarded, hidentity, hflag] at hstep
    obtain ⟨path, hpath, harguments⟩ := bind_eq_ok.1 hstep
    obtain rfl := pure_eq_ok.1 harguments
    exact ⟨path, hpath, Argument.paths_option flag⟩
  · rw [forwarded] at hstep
    split at hstep
    · obtain rfl := pure_eq_ok.1 hstep
      rfl
    · next identity hidentity =>
      have hnone : forwardedPathFlag? identity = none := by
        rw [← Option.not_isSome_iff_eq_none, forwardedPathFlag?_isSome]
        simpa [ParsedOption.isOneOf, hidentity] using hone
      rw [hnone] at hstep
      dsimp only at hstep
      split_ifs at hstep <;> obtain rfl := pure_eq_ok.1 hstep <;> rfl

lemma paths_headerOption {header : List Argument} (h : headerOption settings = .ok header) :
    ∃ told, (headerValues settings).mapM settings.path = .ok told ∧
      Argument.paths header = Multiset.ofList told := by
  rw [headerOption] at h
  rw [headerValues]
  split at h
  · next hnone =>
    obtain rfl := pure_eq_ok.1 h
    exact ⟨[], by rw [hnone]; rfl, rfl⟩
  · next value hvalue =>
    obtain ⟨path, hpath, hheader⟩ := bind_eq_ok.1 h
    obtain rfl := pure_eq_ok.1 hheader
    refine ⟨[path], ?_, Argument.paths_option _⟩
    rw [hvalue, Option.toList_some, mapM_eq_ok]
    exact .cons hpath .nil

/-- Of the options of the compiler only those that are handed on have paths. -/
lemma paths_frontendOptions {options : List Argument} (h : frontendOptions settings = .ok options) :
    ∃ told,
      ((settings.options.allOf searchOptions).map (·.value) ++ headerValues settings).mapM
          settings.path = .ok told ∧
        Argument.paths options = Multiset.ofList told := by
  obtain ⟨handedOn, hhandedOn, hrest⟩ := bind_eq_ok.1 h
  obtain ⟨header, hheader, hoptions⟩ := bind_eq_ok.1 hrest
  obtain rfl := pure_eq_ok.1 hoptions
  obtain ⟨searched, hsearched, hforwarded⟩ := paths_forwarded hhandedOn
  obtain ⟨headers, hheaders, hpaths⟩ := paths_headerOption hheader
  have hcolor : Argument.paths (colorFlags settings.options) = 0 := by
    rw [colorFlags]
    split <;> rfl
  have hdebug : Argument.paths (debugFlags settings) = 0 := by
    rw [debugFlags]
    split
    · rfl
    · dsimp only
      split <;> rfl
  refine ⟨searched ++ headers, mapM_eq_ok.2 ?_, ?_⟩
  · exact List.rel_append (mapM_eq_ok.1 hsearched) (mapM_eq_ok.1 hheaders)
  · simp only [Argument.paths_append, hcolor, hdebug, hforwarded, hpaths, targetFlags,
      moduleNameFlags, Argument.paths_flag, Argument.paths_map_flag, Argument.paths_nil,
      apply_ite Argument.paths, ite_self, add_zero, zero_add, Multiset.coe_add]

lemma paths_linkerOptions {options : List Argument} (h : linkerOptions settings = .ok options) :
    ∃ told, ((settings.options.allOf ["-L"]).map (·.value)).mapM settings.path = .ok told ∧
      Argument.paths options = Multiset.ofList told := by
  obtain ⟨results, hresults, hoptions⟩ := bind_eq_ok.1 h
  obtain rfl := pure_eq_ok.1 hoptions
  refine paths_flatten (fun element arguments hstep hone => ?_)
    (fun element arguments hstep hone => ?_) hresults
  · obtain ⟨identity, hidentity, hname⟩ := (Option.any_eq_true _ _).1 hone
    obtain rfl : identity = "-L" := by simpa using hname
    simp only [linkerArguments, hidentity, if_true] at hstep
    obtain ⟨path, hpath, harguments⟩ := bind_eq_ok.1 hstep
    obtain rfl := pure_eq_ok.1 harguments
    exact ⟨path, hpath, Argument.paths_option _⟩
  · rw [linkerArguments] at hstep
    split at hstep
    · obtain rfl := pure_eq_ok.1 hstep
      rfl
    · next identity hidentity =>
      have hother : identity ≠ "-L" := by simpa [ParsedOption.isOneOf, hidentity] using hone
      rw [if_neg hother] at hstep
      split_ifs at hstep
      · obtain rfl := pure_eq_ok.1 hstep
        rfl
      · split at hstep <;> obtain rfl := pure_eq_ok.1 hstep <;> rfl
      · obtain rfl := pure_eq_ok.1 hstep
        rfl

/-! ## Jobs that compile -/

lemma paths_inputArguments :
    Argument.paths (unit.inputArguments settings) = TypedPath.paths (swiftInputs settings) := by
  have hpaths : TypedPath.paths (swiftInputs settings) =
      TypedPath.paths ((swiftInputs settings).zipIdx.map Prod.fst) := by
    rw [List.zipIdx_map_fst]
  rw [hpaths, CompileUnit.inputArguments]
  refine paths_flatMap fun element => ?_
  obtain ⟨input, index⟩ := element
  dsimp only
  split <;> rfl

lemma compileJob_namesFiles (h : compileJob settings unit = .ok job) : NamesFiles settings job := by
  obtain ⟨files, options, -, hoptions, hkind, hinputs, houtputs, hcommand⟩ := compileJob_eq_ok h
  obtain ⟨told, htold, hpaths⟩ := paths_frontendOptions hoptions
  have hwritten :
      Argument.paths (files.flatMap fun file => Argument.option file.1.flag file.2) =
        TypedPath.paths (files.map CompileFile.output) :=
    paths_flatMap fun file => Argument.paths_option _
  refine ⟨told, by rw [hkind]; exact htold, ?_⟩
  rw [hcommand, hinputs, houtputs]
  simp only [Argument.paths_append, Argument.paths_flag, Argument.paths_nil, zero_add,
    paths_inputArguments, hpaths, hwritten]
  exact add_right_comm _ _ _

lemma mergeJob_namesFiles {files : ModuleFiles} {parts : List TypedPath}
    (h : mergeJob settings files parts = .ok job) : NamesFiles settings job := by
  obtain ⟨header, hheader, hkind, hinputs, houtputs, hcommand⟩ := mergeJob_eq_ok h
  obtain ⟨told, htold, hpaths⟩ := paths_headerOption hheader
  refine ⟨told, by rw [hkind]; exact htold, ?_⟩
  rw [hcommand, hinputs, houtputs]
  simp only [Argument.paths_append, Argument.paths_flag, Argument.paths_nil, Argument.paths_option,
    TypedPath.paths_cons, TypedPath.paths_nil, paths_fileArguments, hpaths, targetFlags,
    moduleNameFlags, zero_add, add_zero]
  abel

/-! ## Jobs that link -/

lemma autolinkExtractJob_namesFiles {objects : List TypedPath}
    (h : autolinkExtractJob settings objects = .ok job) : NamesFiles settings job := by
  obtain ⟨output, -, hkind, hinputs, houtputs, hcommand⟩ := autolinkExtractJob_eq_ok h
  refine ⟨[], by rw [hkind]; rfl, ?_⟩
  rw [hcommand, hinputs, houtputs]
  simp

/-- An archiver is told the objects and the archive, in an order that depends on the platform. -/
lemma archiveJob_namesFiles (hproduct : settings.goal.product? = some .staticLibrary) :
    NamesFiles settings (archiveJob settings inputs output) := by
  refine ⟨[], ?_, ?_⟩
  · simp only [archiveJob, forwardedValues, hproduct, if_true]
    rfl
  · simp only [archiveJob, archiveCommand]
    cases settings.target.family with
    | darwin => simp
    | elf => simp [add_comm]

lemma paths_deploymentFlags : Argument.paths (deploymentFlags settings.target) = 0 := by
  rw [deploymentFlags]
  split <;> rfl

lemma darwinLinkJob_namesFiles (hproduct : settings.goal.product? ≠ some .staticLibrary)
    (h : darwinLinkJob settings product inputs output = .ok job) : NamesFiles settings job := by
  obtain ⟨options, hoptions, hjob⟩ := bind_eq_ok.1 h
  obtain rfl := pure_eq_ok.1 hjob
  obtain ⟨told, htold, hpaths⟩ := paths_linkerOptions hoptions
  have hmodules :
      Argument.paths ((linkedModules settings inputs).flatMap fun module =>
        Argument.option "-add_ast_path" module.path) =
        TypedPath.paths (linkedModules settings inputs) :=
    paths_flatMap_files fun module => Argument.paths_option _
  refine ⟨told, by simpa only [forwardedValues, if_neg hproduct] using htold, ?_⟩
  simp only [Argument.paths_append, Argument.paths_flag, Argument.paths_nil, Argument.paths_option,
    TypedPath.paths_append, TypedPath.paths_cons, TypedPath.paths_nil, paths_fileArguments,
    apply_ite Argument.paths, ite_self, hmodules, hpaths, paths_deploymentFlags, zero_add, add_zero]
  abel

lemma elfLinkJob_namesFiles (hproduct : settings.goal.product? ≠ some .staticLibrary)
    (h : elfLinkJob settings product inputs output = .ok job) : NamesFiles settings job := by
  obtain ⟨options, hoptions, hjob⟩ := bind_eq_ok.1 h
  obtain rfl := pure_eq_ok.1 hjob
  obtain ⟨told, htold, hpaths⟩ := paths_linkerOptions hoptions
  have hautolinks :
      Argument.paths (inputs.autolinks.map fun file => .path file.path "@") =
        TypedPath.paths inputs.autolinks := by
    rw [List.map_eq_flatMap]
    exact paths_flatMap_files fun file => rfl
  refine ⟨told, by simpa only [forwardedValues, if_neg hproduct] using htold, ?_⟩
  simp only [Argument.paths_append, Argument.paths_flag, Argument.paths_nil, Argument.paths_option,
    TypedPath.paths_append, TypedPath.paths_cons, TypedPath.paths_nil, paths_fileArguments,
    apply_ite Argument.paths, ite_self, hautolinks, hpaths, targetFlags, add_zero]
  abel

lemma linkJob_namesFiles (hproduct : settings.goal.product? = some product)
    (h : linkJob settings product inputs output = .ok job) : NamesFiles settings job := by
  rcases linkJob_eq_ok h with ⟨rfl, rfl⟩ | ⟨himage, -, hjob⟩ | ⟨himage, -, hjob⟩
  · exact archiveJob_namesFiles hproduct
  · exact darwinLinkJob_namesFiles (by simpa [hproduct] using himage) hjob
  · exact elfLinkJob_namesFiles (by simpa [hproduct] using himage) hjob

lemma dsymJob_namesFiles (image : TypedPath) : NamesFiles settings (dsymJob image) := by
  refine ⟨[], rfl, ?_⟩
  simp [dsymJob]

lemma productJobs_namesFiles (h : productJobs settings compiles = .ok links) :
    ∀ job ∈ links, NamesFiles settings job := by
  rcases productJobs_eq_ok h with ⟨-, rfl⟩ | ⟨product, hproduct, hjobs⟩
  · simp
  obtain ⟨extracts, output, link, hextracts, -, hlink, rfl⟩ := linkJobs_eq_ok hjobs
  refine List.forall_mem_append.2 ⟨fun job hjob => ?_, List.forall_mem_cons.2 ⟨?_, ?_⟩⟩
  · rcases extractJobs_eq_ok hextracts with ⟨-, extract, hextract, rfl⟩ | ⟨-, rfl⟩
    · obtain rfl := List.mem_singleton.1 hjob
      exact autolinkExtractJob_namesFiles hextract
    · simp at hjob
  · exact linkJob_namesFiles hproduct hlink
  · intro job hjob
    rw [dsymJobs] at hjob
    split at hjob
    · obtain rfl := List.mem_singleton.1 hjob
      exact dsymJob_namesFiles _
    · simp at hjob

/-! ## Plans -/

lemma buildJobs_namesFiles (h : buildJobs settings = .ok jobs) :
    ∀ job ∈ jobs, NamesFiles settings job := by
  obtain ⟨compiles, merges, links, hcompiles, hmerges, hlinks, rfl⟩ := buildJobs_eq_ok h
  refine List.forall_mem_append.2 ⟨List.forall_mem_append.2
    ⟨fun job hjob => ?_, fun job hjob => ?_⟩, productJobs_namesFiles hlinks⟩
  · obtain ⟨unit, -, hunit⟩ := exists_unit_of_mem hcompiles hjob
    exact compileJob_namesFiles hunit
  · rcases mergeJobs_eq_ok hmerges with ⟨-, files, merge, -, hmerge, rfl⟩ | ⟨-, rfl⟩
    · obtain rfl := List.mem_singleton.1 hjob
      exact mergeJob_namesFiles hmerge
    · simp at hjob

lemma interpretJob_namesFiles (h : interpretJob settings = .ok job) : NamesFiles settings job := by
  obtain ⟨options, hoptions, hjob⟩ := bind_eq_ok.1 h
  obtain rfl := pure_eq_ok.1 hjob
  obtain ⟨told, htold, hpaths⟩ := paths_frontendOptions hoptions
  have htail : Argument.paths ((settings.options.tail.getD []).map .flag) = 0 :=
    Argument.paths_map_flag (fun text => text) _
  refine ⟨told, htold, ?_⟩
  simp only [Argument.paths_append, Argument.paths_flag, Argument.paths_nil, TypedPath.paths_nil,
    paths_fileArguments, apply_ite Argument.paths, htail, ite_self, hpaths, zero_add, add_zero]

lemma replJob_namesFiles (h : replJob settings = .ok job) : NamesFiles settings job := by
  obtain ⟨options, hoptions, hjob⟩ := bind_eq_ok.1 h
  obtain rfl := pure_eq_ok.1 hjob
  obtain ⟨told, htold, hpaths⟩ := paths_frontendOptions hoptions
  refine ⟨told, htold, ?_⟩
  simp only [Argument.paths_append, Argument.paths_flag, Argument.paths_nil, TypedPath.paths_nil,
    hpaths, zero_add]

lemma ofSettings_namesFiles (h : (ofSettings settings).outcome = .ok jobs) :
    ∀ job ∈ jobs, NamesFiles settings job := by
  cases hmode : settings.mode with
  | repl =>
    obtain ⟨repl, hrepl, rfl⟩ := (ofSettings_repl_eq_ok hmode).1 h
    simpa using replJob_namesFiles hrepl
  | immediate =>
    obtain ⟨interpret, hinterpret, rfl⟩ := (ofSettings_immediate_eq_ok hmode).1 h
    simpa using interpretJob_namesFiles hinterpret
  | standard | single =>
    rcases (ofSettings_eq_ok (by simp [hmode])).1 h with ⟨-, rfl⟩ | ⟨-, hbuild⟩
    · simp
    · exact buildJobs_namesFiles hbuild

/-! ## Requests -/

variable {driver : Driver}

/-- **Command lines agree with declarations.**  The paths on the command line of a planned job are
those of the files that it declares as inputs and outputs and those of the options that are handed
on to it, each exactly as often. -/
theorem names_files_plan (hrequest : driver.request = .build settings)
    (hplan : driver.plan.outcome = .ok jobs) : ∀ job ∈ jobs, NamesFiles settings job := by
  obtain ⟨plain, hplain, rfl⟩ := (Driver.plan_eq_ok hrequest).1 hplan
  intro job hjob
  obtain ⟨made, hmade, rfl⟩ := List.mem_map.1 hjob
  exact ofSettings_namesFiles hplain made hmade

/-- A dynamic library for Darwin, whose build has jobs of most kinds. -/
theorem names_files_plan_of_library :
    ∃ driver settings jobs,
      (Driver.ofArguments .bare [] ["swiftc", "-emit-library", "-emit-module", "-g", "-I=inc",
          "-import-objc-header", "old.h", "-target", "x86_64-apple-macosx10.15", "-Llib", "a.swift",
          "-Fframeworks", "b.swift", "-import-objc-header", "new.h"]).outcome = .ok driver ∧
        driver.request = .build settings ∧ driver.plan.outcome = .ok jobs ∧
        jobs.map (·.kind) = [.compile, .compile, .mergeModule, .link, .generateDSYM] ∧
        [JobKind.compile, .mergeModule, .link, .generateDSYM].map (forwardedValues settings) =
          [["inc", "frameworks", "new.h"], ["new.h"], ["lib"], []] ∧
        ∀ job ∈ jobs, NamesFiles settings job := by
  have hany : (Driver.built? (Driver.ofPlainArguments .bare [] ["swiftc", "-emit-library",
      "-emit-module", "-g", "-I=inc", "-import-objc-header", "old.h", "-target",
      "x86_64-apple-macosx10.15", "-Llib", "a.swift", "-Fframeworks", "b.swift",
      "-import-objc-header", "new.h"])).any
      (fun built =>
        built.2.map (·.kind) == [.compile, .compile, .mergeModule, .link, .generateDSYM] &&
          [JobKind.compile, .mergeModule, .link, .generateDSYM].map (forwardedValues built.1) ==
            [["inc", "frameworks", "new.h"], ["new.h"], ["lib"], []]) = true := by
    decide +kernel
  obtain ⟨driver, settings, jobs, hdriver, hrequest, hplan, hproperty⟩ :=
    Driver.exists_of_any_built (by decide +kernel) hany
  obtain ⟨hkinds, hforwarded⟩ := Bool.and_eq_true_iff.1 hproperty
  exact ⟨driver, settings, jobs, hdriver, hrequest, hplan, eq_of_beq hkinds, eq_of_beq hforwarded,
    names_files_plan hrequest hplan⟩

end Plan

end SwiftPlan
