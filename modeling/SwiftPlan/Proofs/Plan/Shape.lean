import SwiftPlan.Proofs.Plan.Jobs
import SwiftPlan.Proofs.ResponseFile.Plain
import SwiftPlan.Proofs.VirtualPath

/-!
# The shape of a plan

Which jobs a build has is decided by its settings alone, before any job is made: `shape` is the list
of their kinds.  What flows between the jobs is decided by the kinds as well: a merge reads one part
of the module from each compile job, a link one object from each, both in the order of the inputs,
and the collection of debug information reads the product.  `Shaped` puts this together for a list
of jobs, and `shaped_plan` says that the plan of each build is so.

Each condition of `shape` is checked by another part of the planner, so the proof goes stage by
stage: the compile jobs, the merge, and the jobs of the product.
-/

namespace SwiftPlan.Plan

variable {settings : Settings} {product : LinkProduct} {job : Job}
  {compiles merges links jobs : List Job}

/-! ## Kinds of jobs -/

/-- The number of compile jobs of a build. -/
def compileCount (settings : Settings) : Nat :=
  if (swiftInputs settings).isEmpty then 0
  else if settings.mode = .single then 1
  else (swiftInputs settings).length

/-- Whether parts of a module are merged: the module is wanted and compiled by several jobs. -/
def mergesModule (settings : Settings) : Prop :=
  settings.moduleFiles.isSome ∧ settings.mode = .standard ∧ 2 ≤ (swiftInputs settings).length

/-- Whether the debug information of a product is collected: the product is an image for Darwin, has
debug information, and does not go to the standard output. -/
def collectsImage (settings : Settings) (product : LinkProduct) : Prop :=
  product ≠ .staticLibrary ∧ settings.target.family = .darwin ∧ settings.debug.level.isSome ∧
    settings.options.lastValue? ["-o"] ≠ some "-"

instance : Decidable (mergesModule settings) :=
  inferInstanceAs (Decidable (_ ∧ _))

instance : Decidable (collectsImage settings product) :=
  inferInstanceAs (Decidable (_ ∧ _))

/-- The kinds of the jobs that make a product. -/
def productShape (settings : Settings) (product : LinkProduct) : List JobKind :=
  (if settings.target.family = .elf then [.autolinkExtract] else []) ++ [.link] ++
    (if collectsImage settings product then [.generateDSYM] else [])

/-- The kinds of the jobs of a build, in order. -/
def shape (settings : Settings) : List JobKind :=
  List.replicate (compileCount settings) .compile ++
    (if mergesModule settings then [.mergeModule] else []) ++
    (match settings.goal.product? with
      | none => []
      | some product => productShape settings product)

/-- The jobs of a kind. -/
def ofKind (kind : JobKind) (jobs : List Job) : List Job :=
  jobs.filter (·.kind == kind)

/-- The jobs that compile: compile jobs and the merge. -/
def compilation (jobs : List Job) : List Job :=
  jobs.filter fun job => job.kind == .compile || job.kind == .mergeModule

/-- The job marks a source as the one that it compiles. -/
def Marks (job : Job) (source : TypedPath) : Prop :=
  [.flag "-primary-file", .file source.path] <:+: job.commandLine

/-- The jobs have the shape that the settings give, and each kind of job reads what it is meant
to. -/
structure Shaped (settings : Settings) (jobs : List Job) : Prop where
  kinds : jobs.map (·.kind) = shape settings
  /-- Compile jobs stand in the order of the inputs. -/
  compile : settings.mode = .standard →
    List.Forall₂ (fun source job => Marks job source) (swiftInputs settings) (ofKind .compile jobs)
  /-- A merge reads the part of each compile job. -/
  merge : ∀ merge ∈ ofKind .mergeModule jobs,
    List.Forall₂ (fun job part => job.outputsOf .swiftModule = [part]) (ofKind .compile jobs)
      merge.inputs
  /-- An extraction reads the object of each compile job and the objects among the inputs, and the
  link reads these and no other ones. -/
  objects : settings.goal.product?.isSome → ∃ objects,
    List.Forall₂ (fun job object => job.outputsOf .object = [object]) (ofKind .compile jobs)
        objects ∧
      (∀ extract ∈ ofKind .autolinkExtract jobs,
        extract.inputs = objects ++ settings.inputs.filter (·.type == .object)) ∧
      ∀ link ∈ ofKind .link jobs, ∃ others,
        link.inputs = objects ++ settings.inputs.filter (·.type == .object) ++ others ∧
          ∀ file ∈ others, file.type ≠ .object
  /-- Debug information is collected from the product. -/
  dsym : ∀ dsym ∈ ofKind .generateDSYM jobs, ∀ link ∈ ofKind .link jobs,
    dsym.inputs = link.outputs
  /-- The last job that compiles writes the module of the build and its documentation. -/
  module : swiftInputs settings ≠ [] → ∀ files ∈ settings.moduleFiles,
    ∃ last, (compilation jobs).getLast? = some last ∧
      ⟨files.output.path, .swiftModule⟩ ∈ last.outputs ∧
      ⟨files.documentation, .swiftDocumentation⟩ ∈ last.outputs

/-! ## Compile jobs -/

lemma length_compileUnits_eq_compileCount :
    (compileUnits settings).length = compileCount settings := by
  rw [length_compileUnits, compileCount]
  cases hinputs : swiftInputs settings with
  | nil => simp
  | cons input rest => simp

lemma map_kind_of_compileJobs (h : compileJobs settings = .ok compiles) :
    compiles.map (·.kind) = List.replicate (compileCount settings) .compile := by
  have hunits := compileJobs_eq_ok.1 h
  rw [← length_compileUnits_eq_compileCount, hunits.length_eq]
  refine List.eq_replicate_iff.2 ⟨List.length_map _, fun kind hkind => ?_⟩
  obtain ⟨job, hjob, rfl⟩ := List.mem_map.1 hkind
  obtain ⟨unit, -, hunit⟩ := exists_unit_of_mem h hjob
  obtain ⟨-, -, -, -, hcompile, -⟩ := compileJob_eq_ok hunit
  exact hcompile

/-- If each input is compiled by a job of its own, the job marks it. -/
lemma forall₂_marks (hmode : settings.mode = .standard)
    (h : compileJobs settings = .ok compiles) :
    List.Forall₂ (fun source job => Marks job source) (swiftInputs settings) compiles := by
  have hjobs := compileJobs_eq_ok.1 h
  rw [compileUnits_of_standard hmode, List.forall₂_map_left_iff] at hjobs
  rw [← List.zipIdx_map_fst 0 (swiftInputs settings), List.forall₂_map_left_iff]
  refine ((List.forall₂_and_left _ _).2 ⟨fun pair hpair => hpair, hjobs⟩).imp ?_
  rintro ⟨source, index⟩ job ⟨hmem, hjob⟩
  obtain ⟨files, options, -, -, -, -, -, hcommand⟩ := compileJob_eq_ok hjob
  have hmarked : [Argument.flag "-primary-file", .file source.path] <:+:
      (CompileUnit.primary source index).inputArguments settings := by
    rw [CompileUnit.inputArguments, List.flatMap_def]
    refine List.infix_of_mem_flatten (List.mem_map.2 ⟨(source, index), hmem, ?_⟩)
    simp [CompileUnit.marks]
  rw [Marks, hcommand, List.append_assoc _ options]
  exact hmarked.trans (List.infix_append _ _ _)

/-! ## The merge -/

lemma writesPartialModules_iff (hmode : settings.mode = .standard ∨ settings.mode = .single) :
    writesPartialModules settings = true ↔ mergesModule settings := by
  rw [writesPartialModules_eq_true, mergesModule, length_compileUnits]
  rcases hmode with hmode | hmode
  · simp only [hmode, reduceCtorEq, if_false, true_and]
    exact Iff.rfl
  · have hle : ¬ 1 < min 1 (swiftInputs settings).length := by omega
    simp [hmode, hle]

lemma map_kind_of_mergeJobs (hmode : settings.mode = .standard ∨ settings.mode = .single)
    (h : mergeJobs settings compiles = .ok merges) :
    merges.map (·.kind) = if mergesModule settings then [.mergeModule] else [] := by
  have hiff := writesPartialModules_iff hmode
  rcases mergeJobs_eq_ok h with ⟨hpartial, files, merge, -, hmerge, rfl⟩ | ⟨hpartial, rfl⟩
  · obtain ⟨-, -, hkind, -⟩ := mergeJob_eq_ok hmerge
    rw [if_pos (hiff.1 hpartial), List.map_singleton, hkind]
  · rw [if_neg fun hmerges => by simp [hiff.2 hmerges] at hpartial, List.map_nil]

/-- A flattened list of lists with one element each has these elements. -/
lemma forall₂_flatMap {part : Job → List TypedPath}
    (h : ∀ job ∈ compiles, ∃ file, part job = [file]) :
    List.Forall₂ (fun job file => part job = [file]) compiles (compiles.flatMap part) := by
  induction compiles with
  | nil => exact .nil
  | cons job rest ih =>
    obtain ⟨⟨file, hfile⟩, hrest⟩ := List.forall_mem_cons.1 h
    rw [List.flatMap_cons, hfile]
    exact .cons hfile (ih hrest)

lemma forall₂_moduleParts {files : ModuleFiles} (h : compileJobs settings = .ok compiles)
    (hfiles : settings.moduleFiles = some files) :
    List.Forall₂ (fun job part => job.outputsOf .swiftModule = [part]) compiles
      (moduleParts compiles) := by
  refine forall₂_flatMap fun job hjob => ?_
  obtain ⟨unit, -, hunit⟩ := exists_unit_of_mem h hjob
  exact outputsOf_swiftModule hunit hfiles

/-- If a product is linked, each compile job makes one object. -/
lemma forall₂_objects (h : compileJobs settings = .ok compiles)
    (hproduct : settings.goal.product? = some product) :
    List.Forall₂ (fun job object => job.outputsOf .object = [object]) compiles
      (compiles.flatMap (·.outputsOf .object)) := by
  have hgoal := compilerOutput?_of_product? hproduct
  refine forall₂_flatMap fun job hjob => ?_
  obtain ⟨unit, -, hunit⟩ := exists_unit_of_mem h hjob
  obtain ⟨objects, hobjects, houtputs⟩ := outputsOf_object hunit
  rcases objectFiles_eq_ok hobjects with ⟨-, path, -, rfl⟩ | ⟨hnone, -⟩
  · exact ⟨_, houtputs⟩
  · exact absurd hgoal hnone

/-! ## The product -/

/-- The product goes to a stream exactly if the output is written as a dash. -/
lemma isStream_productPath (hanchor : IsAnchor settings.workingDirectory) {output : VirtualPath}
    (h : productPath settings product = .ok output) :
    output.isStream = true ↔ settings.options.lastValue? ["-o"] = some "-" := by
  rw [productPath] at h
  split at h
  · next text htext =>
    rw [htext, Option.some.injEq]
    split at h
    · next hdash =>
      obtain rfl : VirtualPath.standardOutput = output := by simpa using h
      simp [hdash, VirtualPath.isStream, VirtualPath.standardOutput, PathKind.isStream]
    · exact isStream_resolvePath hanchor h
  · next hnone =>
    obtain ⟨path, hpath, hresolved⟩ := bind_eq_ok.1 h
    rw [hnone, isStream_resolvedIn hanchor hresolved, (VirtualPath.relative_eq_ok.1 hpath).2]
    simp [VirtualPath.isStream, PathKind.isStream]

lemma collectsDebugInfo_iff (hanchor : IsAnchor settings.workingDirectory) {output : VirtualPath}
    (h : productPath settings product = .ok output) :
    collectsDebugInfo settings product output = true ↔ collectsImage settings product := by
  have hstream := isStream_productPath hanchor h
  rw [collectsImage, ne_eq, ne_eq, ← hstream]
  simp only [collectsDebugInfo, Triple.isDarwin, Bool.and_eq_true, beq_iff_eq, decide_eq_true_eq,
    Bool.not_eq_true', Bool.not_eq_true]
  tauto

lemma linkedInputs_object (hproduct : settings.goal.product? = some product) :
    linkedInputs settings .object = settings.inputs.filter (·.type == .object) := by
  simp [linkedInputs, linksType, hproduct]

lemma type_of_mem_linkedInputs {type : FileType} {file : TypedPath}
    (h : file ∈ linkedInputs settings type) : file.type = type := by
  rw [linkedInputs] at h
  split at h
  · simpa using (List.mem_filter.1 h).2
  · simp at h

/-- What a link reads besides its objects are modules on Darwin, and lists of what objects want
linked elsewhere. -/
lemma family_of_mem_linkExtras {extracts : List Job} {file : TypedPath}
    (hextracts : extractJobs settings (linkedObjects settings compiles) = .ok extracts)
    (h : file ∈ linkExtras settings product (linkInputs settings compiles extracts)) :
    product ≠ .staticLibrary ∧
      (settings.target.family = .darwin ∧ file.type = .swiftModule ∨
        settings.target.family = .elf ∧ file.type = .autolink) := by
  rw [linkExtras] at h
  split at h
  · simp at h
  · next hstatic =>
    refine ⟨hstatic, ?_⟩
    cases hfamily : settings.target.family with
    | darwin =>
      rw [hfamily] at h
      refine .inl ⟨rfl, ?_⟩
      rcases List.mem_append.1 h with hmodule | hinput
      · split at hmodule
        · obtain ⟨files, -, rfl⟩ := Option.map_eq_some_iff.1 (Option.mem_toList.1 hmodule)
          rfl
        · simp at hmodule
      · exact type_of_mem_linkedInputs hinput
    | elf =>
      rw [hfamily] at h
      refine .inr ⟨rfl, ?_⟩
      rcases List.mem_append.1 h with hextracted | hinput
      · rcases extractJobs_eq_ok hextracts with ⟨-, extract, hextract, rfl⟩ | ⟨-, rfl⟩
        · obtain ⟨output, -, -, -, houtputs, -⟩ := autolinkExtractJob_eq_ok hextract
          rw [List.flatMap_singleton, houtputs, List.mem_singleton] at hextracted
          rw [hextracted]
        · simp at hextracted
      · exact type_of_mem_linkedInputs hinput

lemma type_of_mem_linkExtras {extracts : List Job} {file : TypedPath}
    (hextracts : extractJobs settings (linkedObjects settings compiles) = .ok extracts)
    (h : file ∈ linkExtras settings product (linkInputs settings compiles extracts)) :
    file.type ≠ .object := by
  rcases (family_of_mem_linkExtras hextracts h).2 with ⟨-, htype⟩ | ⟨-, htype⟩ <;> simp [htype]

/-! ## Jobs of one kind -/

lemma kind_of_mem_compileJobs (h : compileJobs settings = .ok compiles) :
    ∀ job ∈ compiles, job.kind = .compile := by
  intro job hjob
  obtain ⟨unit, -, hunit⟩ := exists_unit_of_mem h hjob
  obtain ⟨-, -, -, -, hkind, -⟩ := compileJob_eq_ok hunit
  exact hkind

lemma kind_of_mem_mergeJobs (h : mergeJobs settings compiles = .ok merges) :
    ∀ job ∈ merges, job.kind = .mergeModule := by
  rcases mergeJobs_eq_ok h with ⟨-, files, merge, -, hmerge, rfl⟩ | ⟨-, rfl⟩
  · obtain ⟨-, -, hkind, -⟩ := mergeJob_eq_ok hmerge
    simpa using hkind
  · simp

lemma kind_of_mem_extractJobs {objects : List TypedPath} {extracts : List Job}
    (h : extractJobs settings objects = .ok extracts) :
    ∀ job ∈ extracts, job.kind = .autolinkExtract := by
  rcases extractJobs_eq_ok h with ⟨-, extract, hextract, rfl⟩ | ⟨-, rfl⟩
  · obtain ⟨-, -, hkind, -⟩ := autolinkExtractJob_eq_ok hextract
    simpa using hkind
  · simp

lemma kind_of_mem_dsymJobs {output : VirtualPath} :
    ∀ job ∈ dsymJobs settings product output, job.kind = .generateDSYM := by
  rw [dsymJobs]
  split <;> simp [dsymJob]

/-- A question about kinds has one answer for jobs of one kind. -/
lemma filter_kind {own : JobKind} (question : JobKind → Bool) (h : ∀ job ∈ jobs, job.kind = own) :
    jobs.filter (fun job => question job.kind) = if question own then jobs else [] := by
  split
  · next hyes => exact List.filter_eq_self.2 fun job hjob => by rw [h job hjob, hyes]
  · next hno => exact List.filter_eq_nil_iff.2 fun job hjob => by rwa [h job hjob]

lemma ofKind_append {kind : JobKind} {first second : List Job} :
    ofKind kind (first ++ second) = ofKind kind first ++ ofKind kind second :=
  List.filter_append ..

lemma ofKind_of_forall {kind own : JobKind} (h : ∀ job ∈ jobs, job.kind = own) :
    ofKind kind jobs = if own = kind then jobs else [] := by
  have hfilter := filter_kind (· == kind) h
  simpa [ofKind] using hfilter

lemma compilation_append {first second : List Job} :
    compilation (first ++ second) = compilation first ++ compilation second :=
  List.filter_append ..

lemma compilation_of_forall {own : JobKind} (h : ∀ job ∈ jobs, job.kind = own) :
    compilation jobs = if own = .compile ∨ own = .mergeModule then jobs else [] := by
  have hfilter := filter_kind (fun kind => kind == .compile || kind == .mergeModule) h
  simpa [compilation] using hfilter

/-! ## The plan of a build -/

lemma map_kind_of_linkJobs (hanchor : IsAnchor settings.workingDirectory)
    (h : linkJobs settings product compiles = .ok jobs) :
    jobs.map (·.kind) = productShape settings product := by
  obtain ⟨extracts, output, link, hextracts, houtput, hlink, rfl⟩ := linkJobs_eq_ok h
  have hextract : extracts.map (·.kind) =
      if settings.target.family = .elf then [.autolinkExtract] else [] := by
    rcases extractJobs_eq_ok hextracts with ⟨hneeds, extract, hextract, rfl⟩ | ⟨hneeds, rfl⟩
    · obtain ⟨-, -, hkind, -⟩ := autolinkExtractJob_eq_ok hextract
      rw [if_pos (by simpa [Triple.needsAutolinkExtract] using hneeds), List.map_singleton, hkind]
    · rw [if_neg (by simpa [Triple.needsAutolinkExtract] using hneeds), List.map_nil]
  have hdsym : (dsymJobs settings product output).map (·.kind) =
      if collectsImage settings product then [.generateDSYM] else [] := by
    have hiff := collectsDebugInfo_iff hanchor houtput
    rw [dsymJobs]
    split
    · next hcollects => rw [if_pos (hiff.1 hcollects), List.map_singleton, dsymJob]
    · next hcollects => rw [if_neg fun himage => hcollects (hiff.2 himage), List.map_nil]
  rw [productShape, ← hextract, ← hdsym, ← (linkJob_files hlink).1]
  simp

lemma ofKind_of_linkJobs {extracts : List Job} {link : Job} {inputs : LinkInputs}
    {output : VirtualPath} {objects : List TypedPath}
    (hextracts : extractJobs settings objects = .ok extracts)
    (hlink : linkJob settings product inputs output = .ok link) :
    let jobs := extracts ++ link :: dsymJobs settings product output
    ofKind .autolinkExtract jobs = extracts ∧ ofKind .link jobs = [link] ∧
      ofKind .generateDSYM jobs = dsymJobs settings product output := by
  intro jobs
  have hjobs : jobs = extracts ++ [link] ++ dsymJobs settings product output := by simp [jobs]
  have hkind : ∀ job ∈ [link], job.kind = .link := by simpa using (linkJob_files hlink).1
  simp only [hjobs, ofKind_append, ofKind_of_forall (kind_of_mem_extractJobs hextracts),
    ofKind_of_forall hkind, ofKind_of_forall kind_of_mem_dsymJobs]
  simp

lemma kind_of_mem_productJobs (h : productJobs settings compiles = .ok links) :
    ∀ job ∈ links, job.kind ≠ .compile ∧ job.kind ≠ .mergeModule := by
  rcases productJobs_eq_ok h with ⟨-, rfl⟩ | ⟨product, -, hlinks⟩
  · simp
  · obtain ⟨extracts, output, link, hextracts, -, hlink, rfl⟩ := linkJobs_eq_ok hlinks
    intro job hjob
    rcases List.mem_append.1 hjob with hextract | hjob
    · simp [kind_of_mem_extractJobs hextracts job hextract]
    · rcases List.mem_cons.1 hjob with rfl | hdsym
      · simp [(linkJob_files hlink).1]
      · simp [kind_of_mem_dsymJobs job hdsym]

/-- The jobs of a build, sorted by what they do. -/
lemma ofKind_of_buildJobs (hcompiles : compileJobs settings = .ok compiles)
    (hmerges : mergeJobs settings compiles = .ok merges)
    (hlinks : productJobs settings compiles = .ok links) :
    ofKind .compile (compiles ++ merges ++ links) = compiles ∧
      ofKind .mergeModule (compiles ++ merges ++ links) = merges ∧
      compilation (compiles ++ merges ++ links) = compiles ++ merges ∧
      ∀ kind, kind ≠ .compile → kind ≠ .mergeModule →
        ofKind kind (compiles ++ merges ++ links) = ofKind kind links := by
  have hother := kind_of_mem_productJobs hlinks
  have hcompile : ofKind .compile links = [] :=
    List.filter_eq_nil_iff.2 fun job hjob => by simp [(hother job hjob).1]
  have hmerge : ofKind .mergeModule links = [] :=
    List.filter_eq_nil_iff.2 fun job hjob => by simp [(hother job hjob).2]
  have hcompilation : compilation links = [] :=
    List.filter_eq_nil_iff.2 fun job hjob => by simp [hother job hjob]
  simp only [ofKind_append, compilation_append, hcompile, hmerge, hcompilation,
    ofKind_of_forall (kind_of_mem_compileJobs hcompiles),
    ofKind_of_forall (kind_of_mem_mergeJobs hmerges),
    compilation_of_forall (kind_of_mem_compileJobs hcompiles),
    compilation_of_forall (kind_of_mem_mergeJobs hmerges)]
  refine ⟨by simp, by simp, by simp, fun kind hcompile hmerge => ?_⟩
  simp [Ne.symm hcompile, Ne.symm hmerge]

/-! What flows between the jobs, stage by stage. -/

lemma forall₂_inputs_of_mergeJobs (hcompiles : compileJobs settings = .ok compiles)
    (hmerges : mergeJobs settings compiles = .ok merges) :
    ∀ merge ∈ merges,
      List.Forall₂ (fun job part => job.outputsOf .swiftModule = [part]) compiles merge.inputs := by
  rcases mergeJobs_eq_ok hmerges with ⟨-, files, merge, hfiles, hjob, rfl⟩ | ⟨-, rfl⟩
  · obtain ⟨-, -, -, hreads, -⟩ := mergeJob_eq_ok hjob
    rw [List.forall_mem_singleton, hreads]
    exact forall₂_moduleParts hcompiles hfiles
  · simp

/-- An extraction reads the compiled objects and those among the inputs, and the link reads no other
objects. -/
lemma inputs_of_productJobs (hproduct : settings.goal.product? = some product)
    (hlinks : productJobs settings compiles = .ok links) :
    (∀ extract ∈ ofKind .autolinkExtract links,
        extract.inputs = compiles.flatMap (·.outputsOf .object) ++
          settings.inputs.filter (·.type == .object)) ∧
      ∀ link ∈ ofKind .link links, ∃ others,
        link.inputs = compiles.flatMap (·.outputsOf .object) ++
            settings.inputs.filter (·.type == .object) ++ others ∧
          ∀ file ∈ others, file.type ≠ .object := by
  rcases productJobs_eq_ok hlinks with ⟨hnone, -⟩ | ⟨product', -, hjobs⟩
  · simp [hproduct] at hnone
  obtain ⟨extracts, output, link, hextracts, -, hlink, rfl⟩ := linkJobs_eq_ok hjobs
  obtain ⟨hextract, hlinked, -⟩ := ofKind_of_linkJobs hextracts hlink
  rw [hextract, hlinked, ← linkedInputs_object hproduct]
  constructor
  · rcases extractJobs_eq_ok hextracts with ⟨-, extract, hjob, rfl⟩ | ⟨-, rfl⟩
    · obtain ⟨-, -, -, hreads, -⟩ := autolinkExtractJob_eq_ok hjob
      rw [List.forall_mem_singleton, hreads]
      rfl
    · simp
  · rw [List.forall_mem_singleton]
    refine ⟨linkExtras settings product' (linkInputs settings compiles extracts), ?_,
      fun file hfile => type_of_mem_linkExtras hextracts hfile⟩
    rw [(linkJob_files hlink).2.1]
    rfl

lemma inputs_of_dsymJobs (hlinks : productJobs settings compiles = .ok links) :
    ∀ dsym ∈ ofKind .generateDSYM links, ∀ link ∈ ofKind .link links,
      dsym.inputs = link.outputs := by
  rcases productJobs_eq_ok hlinks with ⟨-, rfl⟩ | ⟨product, -, hjobs⟩
  · simp [ofKind]
  · obtain ⟨extracts, output, link, hextracts, -, hlink, rfl⟩ := linkJobs_eq_ok hjobs
    obtain ⟨-, hlinked, hdsym⟩ := ofKind_of_linkJobs hextracts hlink
    rw [hlinked, hdsym, dsymJobs]
    split
    · simp [dsymJob, (linkJob_files hlink).2.2]
    · simp

lemma shaped_buildJobs (hanchor : IsAnchor settings.workingDirectory)
    (hmode : settings.mode = .standard ∨ settings.mode = .single)
    (h : buildJobs settings = .ok jobs) : Shaped settings jobs := by
  obtain ⟨compiles, merges, links, hcompiles, hmerges, hlinks, rfl⟩ := buildJobs_eq_ok h
  obtain ⟨hcompile, hmerge, hcompilation, hother⟩ := ofKind_of_buildJobs hcompiles hmerges hlinks
  constructor
  case kinds =>
    rw [List.map_append, List.map_append, map_kind_of_compileJobs hcompiles,
      map_kind_of_mergeJobs hmode hmerges, shape]
    congr 1
    rcases productJobs_eq_ok hlinks with ⟨hproduct, rfl⟩ | ⟨product, hproduct, hjobs⟩
    · simp [hproduct]
    · rw [hproduct]
      exact map_kind_of_linkJobs hanchor hjobs
  case compile =>
    intro hstandard
    rw [hcompile]
    exact forall₂_marks hstandard hcompiles
  case merge =>
    rw [hcompile, hmerge]
    exact forall₂_inputs_of_mergeJobs hcompiles hmerges
  case objects =>
    intro hsome
    obtain ⟨product, hproduct⟩ := Option.isSome_iff_exists.1 hsome
    rw [hcompile, hother _ (by simp) (by simp), hother _ (by simp) (by simp)]
    exact ⟨compiles.flatMap (·.outputsOf .object), forall₂_objects hcompiles hproduct,
      inputs_of_productJobs hproduct hlinks⟩
  case dsym =>
    rw [hother _ (by simp) (by simp), hother _ (by simp) (by simp)]
    exact inputs_of_dsymJobs hlinks
  case module =>
    intro hswift files hfiles
    rw [hcompilation]
    exact exists_last_of_moduleFiles hcompiles hmerges hfiles hswift

/-! ## The plan of a request -/

section

variable {surroundings : Surroundings} {environment : Environment} {arguments : List String}
  {driver : Driver}

lemma ofKind_map_equip {kind : JobKind} {toolchain : Toolchain} :
    ofKind kind (jobs.map (·.equip toolchain)) = (ofKind kind jobs).map (·.equip toolchain) := by
  rw [ofKind, List.filter_map]
  rfl

lemma compilation_map_equip {toolchain : Toolchain} :
    compilation (jobs.map (·.equip toolchain)) = (compilation jobs).map (·.equip toolchain) := by
  rw [compilation, List.filter_map]
  rfl

/-- Which executables run has no part in the shape. -/
lemma Shaped.map_equip (h : Shaped settings jobs) (toolchain : Toolchain) :
    Shaped settings (jobs.map (·.equip toolchain)) where
  kinds := by
    rw [← h.kinds, List.map_map]
    rfl
  compile hmode := by
    rw [ofKind_map_equip, List.forall₂_map_right_iff]
    exact h.compile hmode
  merge := by
    rw [ofKind_map_equip, ofKind_map_equip, List.forall_mem_map]
    intro merge hmerge
    rw [List.forall₂_map_left_iff]
    exact h.merge merge hmerge
  objects hproduct := by
    obtain ⟨objects, hobjects, hextracts, hlinks⟩ := h.objects hproduct
    simp only [ofKind_map_equip, List.forall_mem_map, List.forall₂_map_left_iff]
    exact ⟨objects, hobjects, hextracts, hlinks⟩
  dsym := by
    simp only [ofKind_map_equip, List.forall_mem_map]
    exact h.dsym
  module hswift files hfiles := by
    obtain ⟨last, hlast, hwritten⟩ := h.module hswift files hfiles
    rw [compilation_map_equip, List.getLast?_map, hlast]
    exact ⟨last.equip toolchain, rfl, hwritten⟩

/-- The compile jobs of a plan are those of the settings, with the executables of the driver. -/
lemma compileJobs_of_plan (hrequest : driver.request = .build settings)
    (hmode : settings.mode = .standard ∨ settings.mode = .single)
    (hplan : driver.plan.outcome = .ok jobs) :
    ∃ compiles, compileJobs settings = .ok compiles ∧
      ofKind .compile jobs = compiles.map (·.equip driver.toolchain) := by
  obtain ⟨plain, hplain, rfl⟩ := (Driver.plan_eq_ok hrequest).1 hplan
  rw [ofKind_map_equip]
  rcases (ofSettings_eq_ok hmode).1 hplain with ⟨hnone, rfl⟩ | ⟨-, hbuild⟩
  · have hunits : compileUnits settings = [] :=
      compileUnits_eq_nil_iff.2 (by rw [swiftInputs, hnone, List.filter_nil])
    exact ⟨[], compileJobs_eq_ok.2 (hunits ▸ .nil), rfl⟩
  · obtain ⟨compiles, merges, links, hcompiles, hmerges, hlinks, rfl⟩ := buildJobs_eq_ok hbuild
    exact ⟨compiles, hcompiles, by rw [(ofKind_of_buildJobs hcompiles hmerges hlinks).1]⟩

/-- **The shape of a plan.**  Every build with inputs is planned as the jobs that its settings call
for, in this order and with these files handed from job to job. -/
theorem shaped_plan
    (hdriver : (Driver.ofArguments surroundings environment arguments).outcome = .ok driver)
    (hrequest : driver.request = .build settings)
    (hmode : settings.mode = .standard ∨ settings.mode = .single) (hinputs : settings.inputs ≠ [])
    (hplan : driver.plan.outcome = .ok jobs) : Shaped settings jobs := by
  have hanchor : IsAnchor settings.workingDirectory :=
    (Driver.resolved_of_ofArguments hdriver hrequest).isAnchor
  obtain ⟨plain, hplain, rfl⟩ := (Driver.plan_eq_ok hrequest).1 hplan
  rcases (ofSettings_eq_ok hmode).1 hplain with ⟨hnone, -⟩ | ⟨-, hbuild⟩
  · exact absurd hnone hinputs
  · exact (shaped_buildJobs hanchor hmode hbuild).map_equip driver.toolchain

/-- A library of two sources and an object, with its module and debug information. -/
theorem shaped_plan_of_debugged_library :
    let arguments := ["swiftc", "-g", "-emit-library", "-emit-module", "-target",
      "x86_64-apple-macosx10.15", "a.swift", "b.o", "c.swift"]
    ∃ driver settings jobs,
      (Driver.ofArguments .bare [] arguments).outcome = .ok driver ∧
        driver.request = .build settings ∧ settings.mode = .standard ∧ settings.inputs ≠ [] ∧
        driver.plan.outcome = .ok jobs ∧
        shape settings = [.compile, .compile, .mergeModule, .link, .generateDSYM] ∧
        Shaped settings jobs := by
  intro arguments
  have hany : (Driver.built? (Driver.ofPlainArguments .bare [] arguments)).any
      (fun built => built.1.mode == .standard && !built.1.inputs.isEmpty &&
        shape built.1 == [.compile, .compile, .mergeModule, .link, .generateDSYM]) = true := by
    decide +kernel
  obtain ⟨driver, settings, jobs, hdriver, hrequest, hplan, hproperty⟩ :=
    Driver.exists_of_any_built (by decide +kernel) hany
  simp only [Bool.and_eq_true, beq_iff_eq, Bool.not_eq_true', List.isEmpty_eq_false_iff]
    at hproperty
  obtain ⟨⟨hmode, hinputs⟩, hshape⟩ := hproperty
  exact ⟨driver, settings, jobs, hdriver, hrequest, hmode, hinputs, hplan, hshape,
    shaped_plan hdriver hrequest (.inl hmode) hinputs hplan⟩

end

end SwiftPlan.Plan
