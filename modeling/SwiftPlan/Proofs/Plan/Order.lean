import SwiftPlan.Proofs.Plan.Jobs
import SwiftPlan.Proofs.ResponseFile.Plain
import SwiftPlan.Proofs.VirtualPath

/-!
# The order of jobs

A plan is carried out from its first job to its last, so a job may only read what is there when its
turn comes: inputs of the build and outputs of jobs before it.  `Job.Sourced` says this of one job,
`Ordered` of the jobs of a plan.

Most jobs are wired to their predecessors directly: a merge reads the parts that compile jobs
declared, a link the objects.  The module of the build is the exception.  With full debug
information a link on Darwin is told the module whether or not a job has written it, and if nothing
is compiled then none has.  This is the only way in which a plan can be out of order
(`sourced_plan_iff`).
-/

namespace SwiftPlan

/-! ## Jobs that find what they read -/

/-- The temporary paths on the command line of a job. -/
def Job.scratchPaths (job : Job) : List VirtualPath :=
  (job.commandLine.filterMap Argument.path?).filter (·.isTemporary)

/-- Everything that the job reads is available when its turn comes. A temporary path on its command
line that it does not write is one that it reads. -/
structure Job.Sourced (available : List TypedPath) (job : Job) : Prop where
  inputs : ∀ file ∈ job.inputs, file ∈ available
  scratch : ∀ path ∈ job.scratchPaths,
    path ∈ job.outputs.map (·.path) ∨ path ∈ available.map (·.path)

/-- Each job of a list finds what it reads among the available files and the outputs of the jobs
before it. -/
def Ordered (available : List TypedPath) : List Job → Prop
  | [] => True
  | job :: rest => job.Sourced available ∧ Ordered (available ++ job.outputs) rest

variable {available : List TypedPath} {first second jobs : List Job} {job : Job}

lemma ordered_append :
    Ordered available (first ++ second) ↔
      Ordered available first ∧ Ordered (available ++ first.flatMap (·.outputs)) second := by
  induction first generalizing available with
  | nil => simp [Ordered]
  | cons job rest ih =>
    simp only [List.cons_append, Ordered, ih, List.flatMap_cons, List.append_assoc, and_assoc]

lemma ordered_iff_forall_index :
    Ordered available jobs ↔
      ∀ i (h : i < jobs.length),
        jobs[i].Sourced (available ++ (jobs.take i).flatMap (·.outputs)) := by
  induction jobs generalizing available with
  | nil => simp [Ordered]
  | cons job rest ih =>
    rw [Ordered, ih]
    constructor
    · rintro ⟨hfirst, hrest⟩ (_ | i) h
      · simpa using hfirst
      · simpa [List.append_assoc] using hrest i (by simpa using h)
    · intro h
      have hfirst := h 0 (Nat.zero_lt_succ _)
      rw [List.take_zero, List.flatMap_nil, List.append_nil] at hfirst
      refine ⟨hfirst, fun i hi => ?_⟩
      have hnext := h (i + 1) (Nat.succ_lt_succ hi)
      rw [List.take_succ_cons, List.flatMap_cons, ← List.append_assoc] at hnext
      exact hnext

lemma Job.Sourced.mono {more : List TypedPath} (h : job.Sourced available)
    (hmore : ∀ file ∈ available, file ∈ more) : job.Sourced more where
  inputs file hfile := hmore file (h.inputs file hfile)
  scratch path hpath := (h.scratch path hpath).imp_right fun hmem => by
    obtain ⟨file, hfile, rfl⟩ := List.mem_map.1 hmem
    exact List.mem_map_of_mem (hmore file hfile)

/-- Jobs that read nothing of each other are in order. -/
lemma ordered_of_forall (h : ∀ job ∈ jobs, job.Sourced available) : Ordered available jobs := by
  induction jobs generalizing available with
  | nil => trivial
  | cons job rest ih =>
    refine ⟨h job List.mem_cons_self, ih fun other hother => ?_⟩
    exact (h other (List.mem_cons_of_mem _ hother)).mono fun file hfile =>
      List.mem_append_left _ hfile

/-! ## Command lines that name declared files only -/

/-- An argument does not refer to a scratch file other than these. -/
def Argument.Within (files : List TypedPath) (argument : Argument) : Prop :=
  ∀ path ∈ argument.path?, path.isTemporary = true → path ∈ files.map (·.path)

/-- A job declares every scratch file that its command line refers to. -/
def Job.Declares (job : Job) : Prop :=
  ∀ argument ∈ job.commandLine, argument.Within (job.inputs ++ job.outputs)

lemma Job.Declares.sourced_iff (h : job.Declares) :
    job.Sourced available ↔ ∀ file ∈ job.inputs, file ∈ available := by
  refine ⟨Job.Sourced.inputs, fun hinputs => ⟨hinputs, fun path hpath => ?_⟩⟩
  simp only [Job.scratchPaths, List.mem_filter, List.mem_filterMap] at hpath
  obtain ⟨⟨argument, hargument, hpath⟩, htemporary⟩ := hpath
  have hdeclared := h argument hargument path hpath htemporary
  rw [List.map_append, List.mem_append] at hdeclared
  rcases hdeclared with hread | hwritten
  · obtain ⟨file, hfile, rfl⟩ := List.mem_map.1 hread
    exact .inr (List.mem_map_of_mem (hinputs file hfile))
  · exact .inl hwritten

section

variable {files : List TypedPath} {path : VirtualPath}

@[simp] lemma Argument.within_flag (text : String) : (flag text).Within files := by
  simp [Within, path?]

lemma Argument.within_path (lead : String)
    (h : path.isTemporary = true → path ∈ files.map (·.path)) :
    (Argument.path path lead).Within files := by
  simpa [Within, path?] using h

@[simp] lemma Argument.forall_option_within (spelling : String) :
    (∀ argument ∈ Argument.option spelling path, argument.Within files) ↔
      (path.isTemporary = true → path ∈ files.map (·.path)) := by
  simp [option, file, Within, path?]

lemma forall_fileArguments_within {named : List TypedPath} (h : ∀ file ∈ named, file ∈ files) :
    ∀ argument ∈ Plan.fileArguments named, argument.Within files := by
  intro argument hargument
  obtain ⟨file, hfile, rfl⟩ := List.mem_map.1 hargument
  exact Argument.within_path "" fun _ => List.mem_map_of_mem (h file hfile)

end

/-! ## What is handed on from the command line -/

/-- An argument does not refer to a scratch file. -/
def Argument.Durable (argument : Argument) : Prop :=
  ∀ path ∈ argument.path?, path.isTemporary = false

@[simp] lemma Argument.durable_flag (text : String) : (flag text).Durable := by
  simp [Durable, path?]

@[simp] lemma Argument.forall_option_durable (spelling : String) (path : VirtualPath) :
    (∀ argument ∈ Argument.option spelling path, argument.Durable) ↔ path.isTemporary = false := by
  simp [option, file, Durable, path?]

lemma forall_within_of_durable {arguments : List Argument} {files : List TypedPath}
    (h : ∀ argument ∈ arguments, argument.Durable) :
    ∀ argument ∈ arguments, argument.Within files := by
  intro argument hargument path hpath htemporary
  simp [h argument hargument path hpath] at htemporary

namespace Plan

variable {settings : Settings} {arguments : List Argument}

/-- No path that a user writes is one of a scratch file. -/
lemma compositional_durable (hanchor : IsAnchor settings.workingDirectory) :
    Compositional settings fun arguments => ∀ argument ∈ arguments, argument.Durable where
  nil := by simp
  append hfirst hsecond := List.forall_mem_append.2 ⟨hfirst, hsecond⟩
  flag text := by simp
  option _ hpath := by simp [isTemporary_resolvePath hanchor hpath]

/-! ## The jobs of a plan declare what they name -/

lemma compileJob_declares {unit : CompileUnit} {job : Job}
    (hanchor : IsAnchor settings.workingDirectory) (h : compileJob settings unit = .ok job) :
    job.Declares := by
  obtain ⟨files, options, -, hoptions, -, hinputs, houtputs, hcommand⟩ := compileJob_eq_ok h
  rw [Job.Declares, hcommand]
  simp only [List.forall_mem_append]
  refine ⟨⟨⟨by simp, ?_⟩, ?_⟩, ?_⟩
  · intro argument hargument
    simp only [CompileUnit.inputArguments, List.mem_flatMap] at hargument
    obtain ⟨⟨input, index⟩, hmem, hargument⟩ := hargument
    have hinput : input ∈ job.inputs := hinputs ▸ List.fst_mem_of_mem_zipIdx hmem
    rcases List.mem_append.1 hargument with hflag | hfile
    · split at hflag
      · obtain rfl := List.mem_singleton.1 hflag
        exact Argument.within_flag _
      · simp at hflag
    · obtain rfl := List.mem_singleton.1 hfile
      exact Argument.within_path "" fun _ => by
        rw [List.map_append]
        exact List.mem_append_left _ (List.mem_map_of_mem hinput)
  · exact forall_within_of_durable ((compositional_durable hanchor).frontendOptions hoptions)
  · intro argument hargument
    obtain ⟨file, hfile, hargument⟩ := List.mem_flatMap.1 hargument
    have houtput : CompileFile.output file ∈ job.outputs := houtputs ▸ List.mem_map_of_mem hfile
    refine (Argument.forall_option_within _).2 (fun _ => ?_) argument hargument
    rw [List.map_append]
    exact List.mem_append_right _ (List.mem_map_of_mem houtput)

lemma mergeJob_declares {files : ModuleFiles} {parts : List TypedPath} {job : Job}
    (hanchor : IsAnchor settings.workingDirectory)
    (h : mergeJob settings files parts = .ok job) : job.Declares := by
  obtain ⟨header, hheader, -, hinputs, houtputs, hcommand⟩ := mergeJob_eq_ok h
  rw [Job.Declares, hcommand, hinputs, houtputs]
  simp only [List.forall_mem_append, Argument.forall_option_within]
  refine ⟨⟨⟨⟨⟨⟨⟨by simp, ?_⟩, by simp⟩, ?_⟩, ?_⟩, ?_⟩, by simp⟩, by simp⟩
  · exact forall_fileArguments_within fun file hfile => List.mem_append_left _ hfile
  · simp [targetFlags]
  · exact forall_within_of_durable ((compositional_durable hanchor).headerOption hheader)
  · simp [moduleNameFlags]

lemma autolinkExtractJob_declares {objects : List TypedPath} {job : Job}
    (h : autolinkExtractJob settings objects = .ok job) : job.Declares := by
  obtain ⟨output, -, -, hinputs, houtputs, hcommand⟩ := autolinkExtractJob_eq_ok h
  rw [Job.Declares, hcommand, hinputs, houtputs]
  simp only [List.forall_mem_append, Argument.forall_option_within]
  exact ⟨forall_fileArguments_within fun file hfile => List.mem_append_left _ hfile, by simp⟩

lemma archiveJob_declares (inputs : LinkInputs) (output : VirtualPath) :
    (archiveJob settings inputs output).Declares := by
  have hobjects : ∀ argument ∈ fileArguments inputs.objects,
      argument.Within (inputs.objects ++ [⟨output, .image⟩]) :=
    forall_fileArguments_within fun file hfile => List.mem_append_left _ hfile
  rw [Job.Declares]
  dsimp only [archiveJob]
  cases settings.target.family with
  | darwin =>
    simp only [archiveCommand, List.cons_append, List.forall_mem_cons, List.forall_mem_append,
      Argument.forall_option_within]
    exact ⟨Argument.within_flag _, hobjects, by simp⟩
  | elf =>
    simp only [archiveCommand, List.forall_mem_cons]
    exact ⟨Argument.within_flag _, Argument.within_path "" (by simp), hobjects⟩

lemma darwinLinkJob_declares {product : LinkProduct} {inputs : LinkInputs} {output : VirtualPath}
    {job : Job} (hanchor : IsAnchor settings.workingDirectory)
    (h : darwinLinkJob settings product inputs output = .ok job) : job.Declares := by
  obtain ⟨options, hoptions, hjob⟩ := bind_eq_ok.1 h
  obtain rfl := pure_eq_ok.1 hjob
  simp only [Job.Declares, List.forall_mem_append, Argument.forall_option_within]
  refine ⟨⟨⟨⟨⟨?_, ?_⟩, ?_⟩, ?_⟩, ?_⟩, by simp⟩
  · split <;> simp
  · exact forall_fileArguments_within fun file hfile => by simp [hfile]
  · intro argument hargument
    obtain ⟨module, hmodule, hargument⟩ := List.mem_flatMap.1 hargument
    refine (Argument.forall_option_within _).2 (fun _ => ?_) argument hargument
    exact List.mem_map_of_mem (by simp [hmodule])
  · exact forall_within_of_durable ((compositional_durable hanchor).linkerOptions hoptions)
  · rw [deploymentFlags]
    split <;> simp

lemma elfLinkJob_declares {product : LinkProduct} {inputs : LinkInputs} {output : VirtualPath}
    {job : Job} (hanchor : IsAnchor settings.workingDirectory)
    (h : elfLinkJob settings product inputs output = .ok job) : job.Declares := by
  obtain ⟨options, hoptions, hjob⟩ := bind_eq_ok.1 h
  obtain rfl := pure_eq_ok.1 hjob
  simp only [Job.Declares, List.forall_mem_append, Argument.forall_option_within]
  refine ⟨⟨⟨⟨⟨?_, ?_⟩, ?_⟩, ?_⟩, ?_⟩, by simp⟩
  · exact forall_fileArguments_within fun file hfile => by simp [hfile]
  · intro argument hargument
    obtain ⟨file, hfile, rfl⟩ := List.mem_map.1 hargument
    exact Argument.within_path _ fun _ => List.mem_map_of_mem (by simp [hfile])
  · split <;> simp
  · simp [targetFlags]
  · exact forall_within_of_durable ((compositional_durable hanchor).linkerOptions hoptions)

lemma linkJob_declares {product : LinkProduct} {inputs : LinkInputs} {output : VirtualPath}
    {job : Job} (hanchor : IsAnchor settings.workingDirectory)
    (h : linkJob settings product inputs output = .ok job) : job.Declares := by
  rcases linkJob_eq_ok h with ⟨-, rfl⟩ | ⟨-, -, hjob⟩ | ⟨-, -, hjob⟩
  · exact archiveJob_declares inputs output
  · exact darwinLinkJob_declares hanchor hjob
  · exact elfLinkJob_declares hanchor hjob

lemma dsymJob_declares (image : TypedPath) : (dsymJob image).Declares := by
  simp [Job.Declares, dsymJob, Argument.option, Argument.file, Argument.Within, Argument.path?]

/-! ## The order of a plan -/

section

variable {product : LinkProduct} {available : List TypedPath} {compiles merges jobs : List Job}

/-- The module of the build, if the link is told it: in images for Darwin with full debug
information. -/
def toldModule (settings : Settings) (product : LinkProduct) : Option TypedPath :=
  if product ≠ .staticLibrary ∧ settings.target.family = .darwin ∧
      settings.debug.level = some .astTypes then moduleOf settings
  else none

lemma mem_inputs_of_mem_linkedInputs {type : FileType} {file : TypedPath}
    (h : file ∈ linkedInputs settings type) : file ∈ settings.inputs := by
  rw [linkedInputs] at h
  split at h
  · exact (List.mem_filter.1 h).1
  · simp at h

/-- Besides objects a link reads the module that it is told, what the extraction wrote, and
inputs. -/
lemma mem_linkExtras {extracts : List Job} {file : TypedPath}
    (h : file ∈ linkExtras settings product (linkInputs settings compiles extracts)) :
    file ∈ toldModule settings product ∨ file ∈ extracts.flatMap (·.outputs) ∨
      file ∈ settings.inputs := by
  rw [linkExtras] at h
  split at h
  · simp at h
  · next hproduct =>
    cases hfamily : settings.target.family with
    | darwin =>
      rw [hfamily] at h
      rcases List.mem_append.1 h with htold | hinput
      · split at htold
        · next hlevel =>
          rw [toldModule, if_pos ⟨hproduct, hfamily, hlevel⟩]
          exact .inl (Option.mem_toList.1 htold)
        · simp at htold
      · exact .inr (.inr (mem_inputs_of_mem_linkedInputs hinput))
    | elf =>
      rw [hfamily] at h
      exact .inr ((List.mem_append.1 h).imp_right mem_inputs_of_mem_linkedInputs)

lemma mem_linkExtras_of_mem_toldModule {extracts : List Job} {file : TypedPath}
    (h : file ∈ toldModule settings product) :
    file ∈ linkExtras settings product (linkInputs settings compiles extracts) := by
  rw [toldModule] at h
  split at h
  · next htold =>
    obtain ⟨hproduct, hfamily, hlevel⟩ := htold
    rw [linkExtras, if_neg hproduct, hfamily]
    dsimp only
    rw [linkedModules, if_pos hlevel]
    exact List.mem_append_left _ (Option.mem_toList.2 h)
  · simp at h

/-- A link that is told the module is one on Darwin, where nothing is extracted. -/
lemma extracts_eq_nil_of_mem_toldModule {objects : List TypedPath} {extracts : List Job}
    {module : TypedPath} (h : extractJobs settings objects = .ok extracts)
    (htold : module ∈ toldModule settings product) : extracts = [] := by
  rcases extractJobs_eq_ok h with ⟨hneeds, -⟩ | ⟨-, hnil⟩
  · rw [toldModule] at htold
    split at htold
    · next hcase => simp [Triple.needsAutolinkExtract, hcase.2.1] at hneeds
    · simp at htold
  · exact hnil

/-- If inputs and objects are available, the jobs that make the product are in order exactly if the
module that the link is told is available too. -/
lemma ordered_linkJobs_iff (hanchor : IsAnchor settings.workingDirectory)
    (h : linkJobs settings product compiles = .ok jobs)
    (hinputs : ∀ file ∈ settings.inputs, file ∈ available)
    (hcompiled : ∀ file ∈ compiles.flatMap (·.outputsOf .object), file ∈ available) :
    Ordered available jobs ↔ ∀ module ∈ toldModule settings product, module ∈ available := by
  obtain ⟨extracts, output, link, hextracts, -, hlink, rfl⟩ := linkJobs_eq_ok h
  obtain ⟨-, hread, hwritten⟩ := linkJob_files hlink
  have hobjects : ∀ file ∈ linkedObjects settings compiles, file ∈ available := by
    intro file hfile
    rcases List.mem_append.1 hfile with hcompile | hinput
    · exact hcompiled file hcompile
    · exact hinputs file (mem_inputs_of_mem_linkedInputs hinput)
  have hextract : Ordered available extracts := by
    rcases extractJobs_eq_ok hextracts with ⟨-, extract, hextract, rfl⟩ | ⟨-, rfl⟩
    · obtain ⟨-, -, -, hreads, -⟩ := autolinkExtractJob_eq_ok hextract
      refine ⟨(autolinkExtractJob_declares hextract).sourced_iff.2 ?_, trivial⟩
      rwa [hreads]
    · trivial
  rw [ordered_append, Ordered, (linkJob_declares hanchor hlink).sourced_iff, hread]
  constructor
  · rintro ⟨-, hlinked, -⟩ module htold
    have hmem := hlinked module
      (List.mem_append_right _ (mem_linkExtras_of_mem_toldModule htold))
    simpa [extracts_eq_nil_of_mem_toldModule hextracts htold] using hmem
  · intro htold
    refine ⟨hextract, fun file hfile => ?_, ?_⟩
    · rcases List.mem_append.1 hfile with hobject | hextra
      · exact List.mem_append_left _ (hobjects file hobject)
      · rcases mem_linkExtras hextra with hmodule | hextracted | hinput
        · exact List.mem_append_left _ (htold file hmodule)
        · exact List.mem_append_right _ hextracted
        · exact List.mem_append_left _ (hinputs file hinput)
    · refine ordered_of_forall fun job hjob => ?_
      rw [dsymJobs] at hjob
      split at hjob
      · obtain rfl := List.mem_singleton.1 hjob
        refine (dsymJob_declares _).sourced_iff.2 fun file hfile => ?_
        obtain rfl := List.mem_singleton.1 hfile
        simp [hwritten]
      · simp at hjob

/-- Compile jobs read inputs only. -/
lemma ordered_compileJobs (hanchor : IsAnchor settings.workingDirectory)
    (h : compileJobs settings = .ok compiles) : Ordered settings.inputs compiles := by
  refine ordered_of_forall fun job hjob => ?_
  obtain ⟨unit, -, hunit⟩ := exists_unit_of_mem h hjob
  refine (compileJob_declares hanchor hunit).sourced_iff.2 fun file hfile => ?_
  obtain ⟨-, -, -, -, -, hreads, -⟩ := compileJob_eq_ok hunit
  rw [hreads] at hfile
  exact (List.mem_filter.1 hfile).1

lemma mem_outputs_of_mem_outputsOf {type : FileType} {file : TypedPath}
    (h : file ∈ jobs.flatMap (·.outputsOf type)) : file ∈ jobs.flatMap (·.outputs) := by
  obtain ⟨job, hjob, hfile⟩ := List.mem_flatMap.1 h
  exact List.mem_flatMap.2 ⟨job, hjob, (List.mem_filter.1 hfile).1⟩

/-- A merge reads what the compile jobs declare. -/
lemma ordered_mergeJobs (hanchor : IsAnchor settings.workingDirectory)
    (h : mergeJobs settings compiles = .ok merges)
    (hcompiled : ∀ file ∈ compiles.flatMap (·.outputs), file ∈ available) :
    Ordered available merges := by
  rcases mergeJobs_eq_ok h with ⟨-, files, merge, -, hmerge, rfl⟩ | ⟨-, rfl⟩
  · obtain ⟨-, -, -, hreads, -⟩ := mergeJob_eq_ok hmerge
    refine ⟨(mergeJob_declares hanchor hmerge).sourced_iff.2 fun file hfile => ?_, trivial⟩
    rw [hreads] at hfile
    exact hcompiled file (mem_outputs_of_mem_outputsOf hfile)
  · trivial

/-- The link is told a module that is not there: it is neither an input nor written by the build,
because there is nothing to compile. -/
def LinksAbsentModule (settings : Settings) : Prop :=
  settings.inputs ≠ [] ∧ swiftInputs settings = [] ∧
    ∃ product ∈ settings.goal.product?, ∃ module ∈ toldModule settings product,
      module ∉ settings.inputs

/-- If anything is compiled, the module that the link is told is written by the last compile job or
by the merge. -/
lemma mem_outputs_of_mem_toldModule {module : TypedPath}
    (hcompiles : compileJobs settings = .ok compiles)
    (hmerges : mergeJobs settings compiles = .ok merges) (hswift : swiftInputs settings ≠ [])
    (htold : module ∈ toldModule settings product) :
    module ∈ (compiles ++ merges).flatMap (·.outputs) := by
  rw [toldModule] at htold
  split at htold
  · obtain ⟨files, hfiles, rfl⟩ := Option.map_eq_some_iff.1 htold
    obtain ⟨last, hlast, hmodule, -⟩ :=
      exists_last_of_moduleFiles hcompiles hmerges hfiles hswift
    exact List.mem_flatMap.2 ⟨last, List.mem_of_getLast? hlast, hmodule⟩
  · simp at htold

lemma ordered_buildJobs_iff (hanchor : IsAnchor settings.workingDirectory)
    (hinputs : settings.inputs ≠ []) (h : buildJobs settings = .ok jobs) :
    Ordered settings.inputs jobs ↔ ¬ LinksAbsentModule settings := by
  obtain ⟨compiles, merges, links, hcompiles, hmerges, hlinks, rfl⟩ := buildJobs_eq_ok h
  have hfront : Ordered settings.inputs (compiles ++ merges) := by
    refine ordered_append.2 ⟨ordered_compileJobs hanchor hcompiles, ?_⟩
    exact ordered_mergeJobs hanchor hmerges fun file hfile => List.mem_append_right _ hfile
  rw [ordered_append, and_iff_right hfront]
  rcases productJobs_eq_ok hlinks with ⟨hproduct, rfl⟩ | ⟨product, hproduct, hjobs⟩
  · simp [Ordered, LinksAbsentModule, hproduct]
  · have hcompiled : ∀ file ∈ compiles.flatMap (·.outputsOf .object),
        file ∈ settings.inputs ++ (compiles ++ merges).flatMap (·.outputs) := by
      intro file hfile
      rw [List.flatMap_append]
      exact List.mem_append_right _ (List.mem_append_left _ (mem_outputs_of_mem_outputsOf hfile))
    rw [ordered_linkJobs_iff hanchor hjobs (fun file hfile => List.mem_append_left _ hfile)
      hcompiled]
    constructor
    · rintro havailable ⟨-, hswift, product', hproduct', module, htold, habsent⟩
      obtain rfl : product = product' := by simpa [hproduct] using hproduct'
      -- nothing is compiled, so nothing is available but the inputs
      have hnone : compiles = [] := by
        have hunits := compileJobs_eq_ok.1 hcompiles
        rwa [compileUnits_eq_nil_iff.2 hswift, List.forall₂_nil_left_iff] at hunits
      have hnomerge : merges = [] := by
        rcases mergeJobs_eq_ok hmerges with ⟨hpartial, -⟩ | ⟨-, hnil⟩
        · simp [writesPartialModules, compileUnits_eq_nil_iff.2 hswift] at hpartial
        · exact hnil
      have hmem := havailable module htold
      simp only [hnone, hnomerge, List.append_nil, List.flatMap_nil] at hmem
      exact habsent hmem
    · intro hpresent module htold
      by_cases hswift : swiftInputs settings = []
      · by_contra hmem
        refine hpresent ⟨hinputs, hswift, product, hproduct, module, htold, fun hinput => ?_⟩
        exact hmem (List.mem_append_left _ hinput)
      · exact List.mem_append_right _
          (mem_outputs_of_mem_toldModule hcompiles hmerges hswift htold)

end

end Plan

/-! ## The order of a request's plan -/

section

variable {surroundings : Surroundings} {environment : Environment} {arguments : List String}
  {driver : Driver} {settings : Settings} {jobs : List Job}

lemma ordered_map_equip {available : List TypedPath} {toolchain : Toolchain} :
    Ordered available (jobs.map (·.equip toolchain)) ↔ Ordered available jobs := by
  induction jobs generalizing available with
  | nil => rfl
  | cons job rest ih =>
    rw [List.map_cons, Ordered, Ordered, ih]
    exact and_congr_left fun _ =>
      ⟨fun h => ⟨h.inputs, h.scratch⟩, fun h => ⟨h.inputs, h.scratch⟩⟩

/-- **Plans are in order unless the link is told an absent module.**  Every job of a build finds
what it reads among the inputs and the outputs of the jobs before it, with one exception: where
nothing is compiled, an image for Darwin with full debug information is linked with a module that
is not there. -/
theorem sourced_plan_iff
    (hdriver : (Driver.ofArguments surroundings environment arguments).outcome = .ok driver)
    (hrequest : driver.request = .build settings)
    (hmode : settings.mode = .standard ∨ settings.mode = .single)
    (hplan : driver.plan.outcome = .ok jobs) :
    (∀ i (h : i < jobs.length),
        jobs[i].Sourced (settings.inputs ++ (jobs.take i).flatMap (·.outputs))) ↔
      ¬ Plan.LinksAbsentModule settings := by
  have hanchor : IsAnchor settings.workingDirectory :=
    (Driver.resolved_of_ofArguments hdriver hrequest).isAnchor
  obtain ⟨plain, hplain, rfl⟩ := (Driver.plan_eq_ok hrequest).1 hplan
  rw [← ordered_iff_forall_index, ordered_map_equip]
  rcases (Plan.ofSettings_eq_ok hmode).1 hplain with ⟨hinputs, rfl⟩ | ⟨hinputs, hbuild⟩
  · simp [Ordered, Plan.LinksAbsentModule, hinputs]
  · exact Plan.ordered_buildJobs_iff hanchor hinputs hbuild

/-- A build in which each job but the first reads what earlier ones wrote. -/
theorem sourced_plan_of_debugged_executable :
    let arguments := ["swiftc", "-g", "-target", "x86_64-apple-macosx10.15", "a.swift", "b.swift",
      "c.o"]
    ∃ driver settings jobs,
      (Driver.ofArguments .bare [] arguments).outcome = .ok driver ∧
        driver.request = .build settings ∧ settings.mode = .standard ∧
        driver.plan.outcome = .ok jobs ∧
        jobs.map (·.kind) = [.compile, .compile, .mergeModule, .link, .generateDSYM] ∧
        ∀ i (h : i < jobs.length),
          jobs[i].Sourced (settings.inputs ++ (jobs.take i).flatMap (·.outputs)) := by
  intro arguments
  have hany : (Driver.built? (Driver.ofPlainArguments .bare [] arguments)).any
      (fun built => built.1.mode == .standard && !(Plan.swiftInputs built.1).isEmpty &&
        built.2.map (·.kind) == [.compile, .compile, .mergeModule, .link, .generateDSYM]) =
        true := by
    decide +kernel
  obtain ⟨driver, settings, jobs, hdriver, hrequest, hplan, hproperty⟩ :=
    Driver.exists_of_any_built (by decide +kernel) hany
  simp only [Bool.and_eq_true, beq_iff_eq, Bool.not_eq_true', List.isEmpty_eq_false_iff]
    at hproperty
  obtain ⟨⟨hmode, hswift⟩, hkinds⟩ := hproperty
  exact ⟨driver, settings, jobs, hdriver, hrequest, hmode, hplan, hkinds,
    (sourced_plan_iff hdriver hrequest (.inl hmode) hplan).2 fun habsent => hswift habsent.2.1⟩

/-- Linking an object with full debug information on Darwin: the link, which is the first job, reads
a temporary module. -/
theorem exists_plan_not_sourced :
    let arguments := ["swiftc", "-g", "-target", "x86_64-apple-macosx10.15", "a.o"]
    ∃ driver settings jobs,
      (Driver.ofArguments .bare [] arguments).outcome = .ok driver ∧
        driver.request = .build settings ∧ settings.mode = .standard ∧
        driver.plan.outcome = .ok jobs ∧
        ¬ ∀ i (h : i < jobs.length),
          jobs[i].Sourced (settings.inputs ++ (jobs.take i).flatMap (·.outputs)) := by
  intro arguments
  have hany : (Driver.built? (Driver.ofPlainArguments .bare [] arguments)).any
      (fun built => built.1.mode == .standard && built.2.head?.any fun job =>
        job.inputs.any fun file => !built.1.inputs.contains file) = true := by
    decide +kernel
  obtain ⟨driver, settings, jobs, hdriver, hrequest, hplan, hproperty⟩ :=
    Driver.exists_of_any_built (by decide +kernel) hany
  simp only [Bool.and_eq_true, beq_iff_eq, Option.any_eq_true, List.any_eq_true,
    Bool.not_eq_true', List.contains_eq_mem, decide_eq_false_iff_not] at hproperty
  obtain ⟨hmode, job, hjob, file, hfile, habsent⟩ := hproperty
  refine ⟨driver, settings, jobs, hdriver, hrequest, hmode, hplan, fun hsourced => ?_⟩
  obtain ⟨rest, rfl⟩ := List.head?_eq_some_iff.1 hjob
  have hfirst := (hsourced 0 (Nat.zero_lt_succ _)).inputs file hfile
  simp [habsent] at hfirst

end

end SwiftPlan
