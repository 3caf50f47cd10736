import SwiftPlan.Proofs.Plan.Shape

/-!
# Inputs that are not used

Whether an input is used is a question about its type: sources are compiled, and what is linked
depends on the product and the platform (`linksType`).  The planner asks it before there are any
jobs.  The plan bears the answer out: apart from the merge of partial modules, jobs read no inputs
of other types (`linksType_of_mem_inputs`), and they read all inputs of these types, so that an
input is taken by a job exactly if the planner counts it as used (`isTaken_iff`).  Hence every input
is accounted for, by a job or by a notice (`accounted_plan`).

The merge reads what compile jobs have written.  If an output-file map makes them write to the place
of an input, then the merge reads that input, used or not (`exists_mapped_of_not_isTaken`).  Another
thing that may surprise is that inputs are accounted for with their types, while a notice names
nothing but a path (`exists_input_noted_and_read`).

Reading commands takes no inputs, and about those that are given all the same nothing is said here.
-/

namespace SwiftPlan

/-- The path of an input that is noted as unused. -/
def Notice.unusedInput? : Notice → Option VirtualPath
  | unusedInput path => some path
  | _ => none

lemma FileType.ofExtension?_ne_image {extension : String} :
    FileType.ofExtension? extension ≠ some .image := by
  intro h
  obtain rfl := FileType.extension_of_ofExtension? h
  exact absurd h (by decide)

namespace Plan

/-- A job other than the merge of partial modules reads the input. -/
def isTaken (jobs : List Job) (input : TypedPath) : Bool :=
  jobs.any fun job => job.kind != .mergeModule && job.inputs.contains input

variable {surroundings : Surroundings} {arguments : List String} {settings : Settings}
  {product : LinkProduct} {compiles merges links jobs : List Job} {job : Job}
  {file input : TypedPath}

lemma isTaken_eq_true :
    isTaken jobs input = true ↔ ∃ job ∈ jobs, job.kind ≠ .mergeModule ∧ input ∈ job.inputs := by
  simp [isTaken]

lemma isTaken_map_equip {toolchain : Toolchain} :
    isTaken (jobs.map (·.equip toolchain)) input = isTaken jobs input := by
  rw [isTaken, isTaken, List.any_map]
  rfl

/-- No input is taken for a linked image. -/
lemma type_ne_image (hresolved : settings.Resolved surroundings arguments)
    (h : input ∈ settings.inputs) : input.type ≠ .image := by
  obtain ⟨text, -, hinput⟩ := exists_of_mem_mapM hresolved.inputs h
  rcases inputOf_eq_ok hinput with rfl | ⟨path, -, -, -, -, -, htype⟩
  · simp
  · rw [htype]
    cases hextension : path.extension?.bind FileType.ofExtension? with
    | none => simp
    | some type =>
      obtain ⟨extension, -, hfound⟩ := Option.bind_eq_some_iff.1 hextension
      rintro rfl
      exact FileType.ofExtension?_ne_image hfound

/-! ## What jobs read -/

lemma linksType_of_mem_linkedInputs {type : FileType} (h : file ∈ linkedInputs settings type) :
    linksType settings file.type = true := by
  rw [type_of_mem_linkedInputs h]
  rw [linkedInputs] at h
  split at h
  · next hlinks => exact hlinks
  · simp at h

lemma linksType_of_mem_linkedObjects (hproduct : settings.goal.product? = some product)
    (h : file ∈ linkedObjects settings compiles) : linksType settings file.type = true := by
  rcases List.mem_append.1 h with hcompiled | hinput
  · obtain ⟨job, -, hobject⟩ := List.mem_flatMap.1 hcompiled
    have htype : file.type = .object := by simpa using (List.mem_filter.1 hobject).2
    rw [htype, linksType, hproduct]
  · exact linksType_of_mem_linkedInputs hinput

/-- What a link reads besides objects is of a type that it takes from the inputs. -/
lemma linksType_of_mem_linkExtras (hproduct : settings.goal.product? = some product)
    {extracts : List Job}
    (hextracts : extractJobs settings (linkedObjects settings compiles) = .ok extracts)
    (h : file ∈ linkExtras settings product (linkInputs settings compiles extracts)) :
    linksType settings file.type = true := by
  obtain ⟨hstatic, ⟨hfamily, htype⟩ | ⟨hfamily, htype⟩⟩ := family_of_mem_linkExtras hextracts h
  · simp [htype, linksType, hproduct, hstatic, Triple.isDarwin, hfamily]
  · simp [htype, linksType, hproduct, hstatic, Triple.needsAutolinkExtract, hfamily]

/-- Every file that a job of the product reads is of a type that is linked, or is the product. -/
lemma linksType_of_mem_productJobs (h : productJobs settings compiles = .ok links)
    (hjob : job ∈ links) (hfile : file ∈ job.inputs) :
    linksType settings file.type = true ∨ file.type = .image := by
  rcases productJobs_eq_ok h with ⟨-, rfl⟩ | ⟨product, hproduct, hlinks⟩
  · simp at hjob
  obtain ⟨extracts, output, link, hextracts, -, hlink, rfl⟩ := linkJobs_eq_ok hlinks
  rcases List.mem_append.1 hjob with hjob | hjob
  · rcases extractJobs_eq_ok hextracts with ⟨-, extract, hextract, rfl⟩ | ⟨-, rfl⟩
    · obtain rfl := List.mem_singleton.1 hjob
      obtain ⟨-, -, -, hreads, -⟩ := autolinkExtractJob_eq_ok hextract
      rw [hreads] at hfile
      exact .inl (linksType_of_mem_linkedObjects hproduct hfile)
    · simp at hjob
  rcases List.mem_cons.1 hjob with rfl | hjob
  · rw [(linkJob_files hlink).2.1] at hfile
    rcases List.mem_append.1 hfile with hobject | hextra
    · exact .inl (linksType_of_mem_linkedObjects hproduct hobject)
    · exact .inl (linksType_of_mem_linkExtras hproduct hextracts hextra)
  · rw [dsymJobs] at hjob
    split at hjob
    · obtain rfl := List.mem_singleton.1 hjob
      obtain rfl := List.mem_singleton.1 hfile
      exact .inr rfl
    · simp at hjob

/-- Apart from the merge, the jobs of a build read sources, files of types that are linked, and the
product. -/
lemma linksType_of_mem_inputs (hcompiles : compileJobs settings = .ok compiles)
    (hmerges : mergeJobs settings compiles = .ok merges)
    (hlinks : productJobs settings compiles = .ok links) (hjob : job ∈ compiles ++ merges ++ links)
    (hkind : job.kind ≠ .mergeModule) (hfile : file ∈ job.inputs) :
    file.type = .swift ∨ linksType settings file.type = true ∨ file.type = .image := by
  rcases List.mem_append.1 hjob with hjob | hjob
  · rcases List.mem_append.1 hjob with hjob | hjob
    · obtain ⟨unit, -, hunit⟩ := exists_unit_of_mem hcompiles hjob
      obtain ⟨-, -, -, -, -, hreads, -⟩ := compileJob_eq_ok hunit
      rw [hreads] at hfile
      exact .inl (by simpa using (List.mem_filter.1 hfile).2)
    · exact absurd (kind_of_mem_mergeJobs hmerges job hjob) hkind
  · exact .inr (linksType_of_mem_productJobs hlinks hjob hfile)

/-! ## What is read -/

/-- A source is read by every compile job, of which there is one at least. -/
lemma exists_compile_of_swift (hcompiles : compileJobs settings = .ok compiles)
    (h : input ∈ swiftInputs settings) :
    ∃ job ∈ compiles, job.kind = .compile ∧ input ∈ job.inputs := by
  have hunits : compileUnits settings ≠ [] := fun hnone => by
    simp [compileUnits_eq_nil_iff.1 hnone] at h
  obtain ⟨unit, hunit⟩ := List.exists_mem_of_ne_nil _ hunits
  obtain ⟨job, hjob, hmade⟩ := eq_ok_of_mem_mapM hcompiles hunit
  obtain ⟨-, -, -, -, hkind, hreads, -⟩ := compileJob_eq_ok hmade
  exact ⟨job, hjob, hkind, by rwa [hreads]⟩

lemma mem_linkExtras_of_linksType (hproduct : settings.goal.product? = some product)
    {extracts : List Job} (h : input ∈ settings.inputs) (hobject : input.type ≠ .object)
    (hlinks : linksType settings input.type = true) :
    input ∈ linkExtras settings product (linkInputs settings compiles extracts) := by
  have hlinked : input ∈ linkedInputs settings input.type := by
    rw [linkedInputs, if_pos hlinks]
    exact List.mem_filter.2 ⟨h, beq_self_eq_true _⟩
  rw [linksType, hproduct] at hlinks
  dsimp only at hlinks
  split at hlinks
  · next htype => exact absurd htype hobject
  · next htype =>
    obtain ⟨hstatic, hdarwin⟩ : product ≠ .staticLibrary ∧ settings.target.family = .darwin := by
      simpa [Triple.isDarwin] using hlinks
    rw [htype] at hlinked
    rw [linkExtras, if_neg hstatic, hdarwin]
    exact List.mem_append_right _ hlinked
  · next htype =>
    obtain ⟨hstatic, helf⟩ : product ≠ .staticLibrary ∧ settings.target.family = .elf := by
      simpa [Triple.needsAutolinkExtract] using hlinks
    rw [htype] at hlinked
    rw [linkExtras, if_neg hstatic, helf]
    exact List.mem_append_right _ hlinked
  · simp at hlinks

/-- An input of a type that is linked is read by the link. -/
lemma exists_link_of_linksType (hproducts : productJobs settings compiles = .ok links)
    (h : input ∈ settings.inputs) (hlinks : linksType settings input.type = true) :
    ∃ job ∈ links, job.kind = .link ∧ input ∈ job.inputs := by
  rcases productJobs_eq_ok hproducts with ⟨hnone, -⟩ | ⟨product, hproduct, hjobs⟩
  · simp [linksType, hnone] at hlinks
  obtain ⟨extracts, output, link, -, -, hlink, rfl⟩ := linkJobs_eq_ok hjobs
  obtain ⟨hkind, hreads, -⟩ := linkJob_files hlink
  refine ⟨link, by simp, hkind, ?_⟩
  rw [hreads]
  by_cases hobject : input.type = .object
  · refine List.mem_append_left _ (List.mem_append_right _ ?_)
    rw [linkedInputs_object hproduct]
    exact List.mem_filter.2 ⟨h, by simp [hobject]⟩
  · exact List.mem_append_right _ (mem_linkExtras_of_linksType hproduct h hobject hlinks)

/-- An input of a build is taken by a job exactly if the planner counts it as used. -/
lemma isTaken_iff (hresolved : settings.Resolved surroundings arguments)
    (hbuild : buildJobs settings = .ok jobs) (h : input ∈ settings.inputs) :
    isTaken jobs input = true ↔ input.type = .swift ∨ linksType settings input.type = true := by
  obtain ⟨compiles, merges, links, hcompiles, hmerges, hlinks, rfl⟩ := buildJobs_eq_ok hbuild
  rw [isTaken_eq_true]
  constructor
  · rintro ⟨job, hjob, hkind, hreads⟩
    rcases linksType_of_mem_inputs hcompiles hmerges hlinks hjob hkind hreads with
      hswift | hlinked | himage
    · exact .inl hswift
    · exact .inr hlinked
    · exact absurd himage (type_ne_image hresolved h)
  · rintro (hswift | hlinked)
    · have hsource : input ∈ swiftInputs settings := List.mem_filter.2 ⟨h, by simp [hswift]⟩
      obtain ⟨job, hjob, hkind, hreads⟩ := exists_compile_of_swift hcompiles hsource
      exact ⟨job, by simp [hjob], by simp [hkind], hreads⟩
    · obtain ⟨job, hjob, hkind, hreads⟩ := exists_link_of_linksType hlinks h hlinked
      exact ⟨job, by simp [hjob], by simp [hkind], hreads⟩

/-! ## What the merge reads -/

/-- A part of the module is in the scratch directory unless the output-file map places it. -/
lemma mapped_of_mem_moduleParts (hcompiles : compileJobs settings = .ok compiles)
    (hpartial : writesPartialModules settings = true) (h : file ∈ moduleParts compiles) :
    file.path.isTemporary = true ∨
      ∃ unit ∈ compileUnits settings, unit.mapped? settings .swiftModule = some file.path := by
  obtain ⟨job, hjob, hpart⟩ := List.mem_flatMap.1 h
  obtain ⟨unit, hunit, hmade⟩ := exists_unit_of_mem hcompiles hjob
  obtain ⟨modules, hmodules, hsplit⟩ := outputsOf_swiftModule_eq hmade
  rcases moduleFiles_eq_ok hmodules with
    ⟨-, rfl⟩ | ⟨files, -, ⟨-, module, documentation, hmodule, -, rfl⟩ | ⟨hwhole, -⟩⟩
  · simp [hsplit] at hpart
  · obtain rfl : file = ⟨module, .swiftModule⟩ := by
      simpa [hsplit, CompileOutput.type, CompileFile.output] using hpart
    rw [CompileUnit.mappedOr] at hmodule
    split at hmodule
    · next path hmapped =>
      obtain rfl : path = module := Except.ok.inj hmodule
      exact .inr ⟨unit, hunit, hmapped⟩
    · rw [CompileUnit.scratchFile] at hmodule
      exact .inl (by rw [VirtualPath.temporary_eq_scratch hmodule]; rfl)
  · simp [hpartial] at hwhole

/-- If a job reads an input that is not taken, it is the merge, and the input lies where the
output-file map places a part of the module. -/
lemma exists_mapped_of_not_isTaken (hresolved : settings.Resolved surroundings arguments)
    (hbuild : buildJobs settings = .ok jobs) (h : input ∈ settings.inputs)
    (htaken : isTaken jobs input = false) (hjob : job ∈ jobs) (hreads : input ∈ job.inputs) :
    job.kind = .mergeModule ∧
      ∃ unit ∈ compileUnits settings, unit.mapped? settings .swiftModule = some input.path := by
  have hkind : job.kind = .mergeModule := by
    by_contra hother
    have htakes := isTaken_eq_true.2 ⟨job, hjob, hother, hreads⟩
    simp [htaken] at htakes
  refine ⟨hkind, ?_⟩
  obtain ⟨compiles, merges, links, hcompiles, hmerges, hlinks, rfl⟩ := buildJobs_eq_ok hbuild
  rcases List.mem_append.1 hjob with hjob | hjob
  · rcases List.mem_append.1 hjob with hjob | hjob
    · simp [kind_of_mem_compileJobs hcompiles job hjob] at hkind
    · rcases mergeJobs_eq_ok hmerges with ⟨hpartial, files, merge, -, hmerge, rfl⟩ | ⟨-, rfl⟩
      · obtain rfl := List.mem_singleton.1 hjob
        obtain ⟨-, -, -, hparts, -⟩ := mergeJob_eq_ok hmerge
        rw [hparts] at hreads
        rcases mapped_of_mem_moduleParts hcompiles hpartial hreads with htemporary | hmapped
        · simp [isTemporary_of_mem_inputs hresolved h] at htemporary
        · exact hmapped
      · simp at hjob
  · exact absurd hkind (kind_of_mem_productJobs hlinks job hjob).2

/-! ## Notices -/

/-- The paths of the inputs that are noted as unused, in order. -/
def unusedPaths (notices : List Notice) : List VirtualPath :=
  notices.filterMap (·.unusedInput?)

lemma mem_unusedPaths {notices : List Notice} {path : VirtualPath} :
    path ∈ unusedPaths notices ↔ .unusedInput path ∈ notices := by
  rw [unusedPaths, List.mem_filterMap]
  constructor
  · rintro ⟨notice, hnotice, hpath⟩
    cases notice <;> simp_all [Notice.unusedInput?]
  · exact fun h => ⟨_, h, rfl⟩

lemma unusedPaths_ofSettings (hmode : settings.mode = .standard ∨ settings.mode = .single)
    (hinputs : settings.inputs ≠ []) :
    unusedPaths (ofSettings settings).notices = (unusedInputs settings).map (·.path) := by
  have hnotices : (ofSettings settings).notices =
      (unusedInputs settings).map (fun input => .unusedInput input.path) ++ [] := by
    rcases hmode with hmode | hmode <;>
      simp only [ofSettings, hmode, List.isEmpty_iff, hinputs, if_false] <;> rfl
  rw [hnotices, List.append_nil, unusedPaths, List.filterMap_map]
  exact congrFun (List.filterMap_eq_map) _

lemma unusedPaths_immediate (hmode : settings.mode = .immediate) :
    unusedPaths (ofSettings settings).notices = [] := by
  simp only [ofSettings, hmode]
  cases interpretJob settings <;> rfl

lemma unusedPaths_repl (hmode : settings.mode = .repl) :
    unusedPaths (ofSettings settings).notices = [] := by
  simp only [ofSettings, hmode]
  cases replJob settings <;> rfl

/-- The inputs of a build are accounted for by its jobs and notices. -/
structure Accounted (settings : Settings) (jobs : List Job) (notices : List Notice) : Prop where
  /-- Every input is read by a job or noted. -/
  covered : ∀ input ∈ settings.inputs,
    (∃ job ∈ jobs, input ∈ job.inputs) ∨ .unusedInput input.path ∈ notices
  /-- There is one notice for each input that is not taken, in order. -/
  noted : unusedPaths notices =
    (settings.inputs.filter fun input => !isTaken jobs input).map (·.path)
  /-- Everything is taken if the inputs are run, and otherwise sources and what is linked. -/
  taken : ∀ input ∈ settings.inputs, isTaken jobs input = true ↔
    settings.mode = .immediate ∨ input.type = .swift ∨ linksType settings input.type = true
  /-- An input that is not taken is read by no job but the merge, and only if the output-file map
  makes a compile job write there. -/
  merged : ∀ input ∈ settings.inputs, isTaken jobs input = false → ∀ job ∈ jobs,
    input ∈ job.inputs → job.kind = .mergeModule ∧
      ∃ unit ∈ compileUnits settings, unit.mapped? settings .swiftModule = some input.path

/-- An input is read if it is taken, and noted if it is not. -/
lemma read_or_noted {notices : List Notice}
    (hnoted : unusedPaths notices =
      (settings.inputs.filter fun input => !isTaken jobs input).map (·.path))
    (h : input ∈ settings.inputs) :
    (∃ job ∈ jobs, input ∈ job.inputs) ∨ .unusedInput input.path ∈ notices := by
  by_cases htaken : isTaken jobs input = true
  · obtain ⟨job, hjob, -, hreads⟩ := isTaken_eq_true.1 htaken
    exact .inl ⟨job, hjob, hreads⟩
  · rw [← mem_unusedPaths, hnoted]
    exact .inr (List.mem_map_of_mem (List.mem_filter.2 ⟨h, by simpa using htaken⟩))

/-- Where there are no inputs, there is nothing to account for. -/
lemma accounted_of_inputs_eq_nil {notices : List Notice} (hnone : settings.inputs = [])
    (hpaths : unusedPaths notices = []) : Accounted settings jobs notices where
  covered := by simp [hnone]
  noted := by simp [hnone, hpaths]
  taken := by simp [hnone]
  merged := by simp [hnone]

/-- The job that runs the inputs takes them all. -/
lemma accounted_immediate (hmode : settings.mode = .immediate)
    (h : (ofSettings settings).outcome = .ok jobs) :
    Accounted settings jobs (ofSettings settings).notices := by
  obtain ⟨interpret, hinterpret, rfl⟩ := (ofSettings_immediate_eq_ok hmode).1 h
  obtain ⟨hkind, hreads, -⟩ := interpretJob_eq_ok hinterpret
  have htaken : ∀ input ∈ settings.inputs, isTaken [interpret] input = true :=
    fun input hinput =>
      isTaken_eq_true.2 ⟨interpret, by simp, by simp [hkind], by rwa [hreads]⟩
  have huntaken : settings.inputs.filter (fun input => !isTaken [interpret] input) = [] :=
    List.filter_eq_nil_iff.2 fun input hinput => by simp [htaken input hinput]
  have hnoted : unusedPaths (ofSettings settings).notices =
      (settings.inputs.filter fun input => !isTaken [interpret] input).map (·.path) := by
    rw [unusedPaths_immediate hmode, huntaken, List.map_nil]
  exact
    { covered := fun input hinput => read_or_noted hnoted hinput
      noted := hnoted
      taken := fun input hinput => by simp [htaken input hinput, hmode]
      merged := fun input hinput hnot => by simp [htaken input hinput] at hnot }

lemma accounted_buildJobs (hresolved : settings.Resolved surroundings arguments)
    (hmode : settings.mode = .standard ∨ settings.mode = .single) (hinputs : settings.inputs ≠ [])
    (hbuild : buildJobs settings = .ok jobs) :
    Accounted settings jobs (ofSettings settings).notices := by
  have hnoted : unusedPaths (ofSettings settings).notices =
      (settings.inputs.filter fun input => !isTaken jobs input).map (·.path) := by
    rw [unusedPaths_ofSettings hmode hinputs, unusedInputs]
    refine congrArg _ (List.filter_congr fun input hinput => ?_)
    rw [Bool.eq_iff_iff, Bool.not_eq_true', ← Bool.not_eq_true,
      isTaken_iff hresolved hbuild hinput]
    simp
  exact
    { covered := fun input hinput => read_or_noted hnoted hinput
      noted := hnoted
      taken := fun input hinput => by
        have hcompiles : settings.mode ≠ .immediate := by rcases hmode with h | h <;> simp [h]
        simpa [hcompiles] using isTaken_iff hresolved hbuild hinput
      merged := fun input hinput htaken job hjob hreads =>
        exists_mapped_of_not_isTaken hresolved hbuild hinput htaken hjob hreads }

lemma accounted_ofSettings (hresolved : settings.Resolved surroundings arguments)
    (hmode : settings.mode = .repl → settings.inputs = [])
    (h : (ofSettings settings).outcome = .ok jobs) :
    Accounted settings jobs (ofSettings settings).notices := by
  cases hcase : settings.mode with
  | repl => exact accounted_of_inputs_eq_nil (hmode hcase) (unusedPaths_repl hcase)
  | immediate => exact accounted_immediate hcase h
  | standard | single =>
    have hcompiles : settings.mode = .standard ∨ settings.mode = .single := by simp [hcase]
    rcases (ofSettings_eq_ok hcompiles).1 h with ⟨hnone, rfl⟩ | ⟨hinputs, hbuild⟩
    · refine accounted_of_inputs_eq_nil hnone ?_
      simp only [ofSettings, hcase, hnone]
      rfl
    · exact accounted_buildJobs hresolved hcompiles hinputs hbuild

lemma Accounted.map_equip {notices : List Notice} (h : Accounted settings jobs notices)
    (toolchain : Toolchain) : Accounted settings (jobs.map (·.equip toolchain)) notices where
  covered input hinput := (h.covered input hinput).imp_left fun ⟨job, hjob, hreads⟩ =>
    ⟨_, List.mem_map_of_mem hjob, hreads⟩
  noted := by
    simp only [isTaken_map_equip]
    exact h.noted
  taken := by
    simp only [isTaken_map_equip]
    exact h.taken
  merged input hinput htaken job hjob hreads := by
    rw [isTaken_map_equip] at htaken
    obtain ⟨plain, hplain, rfl⟩ := List.mem_map.1 hjob
    exact h.merged input hinput htaken plain hplain hreads

/-! ## Requests -/

variable {environment : Environment} {driver : Driver}

/-- **No input is lost.**  Unless commands are read, every input of a build is read by a job or
noted as unused, and an input is noted once for each time that it is given and not taken by a
job. -/
theorem accounted_plan
    (hdriver : (Driver.ofArguments surroundings environment arguments).outcome = .ok driver)
    (hrequest : driver.request = .build settings)
    (hmode : settings.mode = .repl → settings.inputs = [])
    (hplan : driver.plan.outcome = .ok jobs) : Accounted settings jobs driver.plan.notices := by
  have hresolved := Driver.resolved_of_ofArguments hdriver hrequest
  obtain ⟨plain, hplain, rfl⟩ := (Driver.plan_eq_ok hrequest).1 hplan
  rw [Driver.notices_plan hrequest]
  exact (accounted_ofSettings hresolved hmode hplain).map_equip driver.toolchain

/-- An executable for Linux, which takes no modules: the one that is given twice is noted twice. -/
theorem accounted_plan_of_repeated_module :
    let arguments := ["swiftc", "m.swiftmodule", "a.swift", "b.o", "m.swiftmodule"]
    ∃ driver settings jobs,
      (Driver.ofArguments .bare [] arguments).outcome = .ok driver ∧
        driver.request = .build settings ∧ settings.mode = .standard ∧
        driver.plan.outcome = .ok jobs ∧ Accounted settings jobs driver.plan.notices ∧
        unusedPaths driver.plan.notices =
          [⟨.relative, "m.swiftmodule"⟩, ⟨.relative, "m.swiftmodule"⟩] := by
  intro arguments
  have hany : (Driver.built? (Driver.ofPlainArguments .bare [] arguments)).any
      (fun built => built.1.mode == .standard &&
        (built.1.inputs.filter fun input => !isTaken built.2 input).map (·.path) ==
          [⟨.relative, "m.swiftmodule"⟩, ⟨.relative, "m.swiftmodule"⟩]) = true := by
    decide +kernel
  obtain ⟨driver, settings, jobs, hdriver, hrequest, hplan, hproperty⟩ :=
    Driver.exists_of_any_built (by decide +kernel) hany
  simp only [Bool.and_eq_true, beq_iff_eq] at hproperty
  obtain ⟨hmode, huntaken⟩ := hproperty
  have haccounted : Accounted settings jobs driver.plan.notices :=
    accounted_plan hdriver hrequest (by simp [hmode]) hplan
  exact ⟨driver, settings, jobs, hdriver, hrequest, hmode, hplan, haccounted,
    haccounted.noted.trans huntaken⟩

lemma unusedPaths_plan (hrequest : driver.request = .build settings)
    (hmode : settings.mode = .standard) (hinputs : settings.inputs ≠ []) :
    unusedPaths driver.plan.notices = (unusedInputs settings).map (·.path) := by
  rw [Driver.notices_plan hrequest, unusedPaths_ofSettings (.inl hmode) hinputs]

/-- A machine with an output-file map that sends the module of one source to a file beside it. -/
def withMap : Surroundings :=
  ⟨.ofFiles "/work"
    [("m.json",
      "\x7b\"a.swift\": \x7b\"swiftmodule\": \"a.swiftmodule\"\x7d\x7d".toUTF8)],
    ⟨"Linux", "x86_64", ""⟩⟩

/-- An input may be noted although a job reads it: the output-file map may send a part of the module
to the place of an unused one.  And a path may be noted once although it was given twice: the
directory and the file in it, which have the same path here, are of different types.  Where commands
are read, an input is neither read nor noted. -/
theorem exists_input_noted_and_read :
    (∃ driver settings jobs,
      (Driver.ofArguments withMap [] ["swiftc", "-emit-module", "a.swift", "b.swift",
          "a.swiftmodule", "-output-file-map", "m.json"]).outcome = .ok driver ∧
        driver.request = .build settings ∧ settings.mode = .standard ∧
        driver.plan.outcome = .ok jobs ∧
        ∃ input ∈ settings.inputs, (∃ job ∈ jobs, input ∈ job.inputs) ∧
          .unusedInput input.path ∈ driver.plan.notices) ∧
      (∃ driver settings jobs,
        (Driver.ofArguments .bare [] ["swiftc", "-c", "-working-directory", "/x.swift", ".",
            "/x.swift"]).outcome = .ok driver ∧
          driver.request = .build settings ∧ settings.mode = .standard ∧
          driver.plan.outcome = .ok jobs ∧
          settings.inputs.map (·.path) = [⟨.absolute, "/x.swift"⟩, ⟨.absolute, "/x.swift"⟩] ∧
          unusedPaths driver.plan.notices = [⟨.absolute, "/x.swift"⟩]) ∧
      ∃ driver settings jobs,
        (Driver.ofArguments .bare [] ["swiftc", "-repl", "a.swift"]).outcome = .ok driver ∧
          driver.request = .build settings ∧ settings.mode = .repl ∧
          driver.plan.outcome = .ok jobs ∧
          ∃ input ∈ settings.inputs, (∀ job ∈ jobs, input ∉ job.inputs) ∧
            .unusedInput input.path ∉ driver.plan.notices := by
  refine ⟨?_, ?_, ?_⟩
  · have hany : (Driver.built? (Driver.ofPlainArguments withMap [] ["swiftc", "-emit-module",
        "a.swift", "b.swift", "a.swiftmodule", "-output-file-map", "m.json"])).any
        (fun built => built.1.mode == .standard && (unusedInputs built.1).any fun input =>
          built.2.any fun job => job.inputs.contains input) = true := by
      decide +kernel
    obtain ⟨driver, settings, jobs, hdriver, hrequest, hplan, hproperty⟩ :=
      Driver.exists_of_any_built (by decide +kernel) hany
    simp only [Bool.and_eq_true, beq_iff_eq, List.any_eq_true, List.contains_eq_mem,
      decide_eq_true_eq] at hproperty
    obtain ⟨hmode, input, hunused, hread⟩ := hproperty
    have hinput : input ∈ settings.inputs := (List.mem_filter.1 hunused).1
    refine ⟨driver, settings, jobs, hdriver, hrequest, hmode, hplan, input, hinput, hread, ?_⟩
    rw [← mem_unusedPaths, unusedPaths_plan hrequest hmode (List.ne_nil_of_mem hinput)]
    exact List.mem_map_of_mem hunused
  · have hany : (Driver.built? (Driver.ofPlainArguments .bare [] ["swiftc", "-c",
        "-working-directory", "/x.swift", ".", "/x.swift"])).any
        (fun built => built.1.mode == .standard &&
          built.1.inputs.map (·.path) == [⟨.absolute, "/x.swift"⟩, ⟨.absolute, "/x.swift"⟩] &&
          (unusedInputs built.1).map (·.path) == [⟨.absolute, "/x.swift"⟩]) = true := by
      decide +kernel
    obtain ⟨driver, settings, jobs, hdriver, hrequest, hplan, hproperty⟩ :=
      Driver.exists_of_any_built (by decide +kernel) hany
    simp only [Bool.and_eq_true, beq_iff_eq] at hproperty
    obtain ⟨⟨hmode, hpaths⟩, hunused⟩ := hproperty
    have hinputs : settings.inputs ≠ [] := by
      intro hnone
      simp [hnone] at hpaths
    exact ⟨driver, settings, jobs, hdriver, hrequest, hmode, hplan, hpaths,
      (unusedPaths_plan hrequest hmode hinputs).trans hunused⟩
  · have hany : (Driver.built? (Driver.ofPlainArguments .bare [] ["swiftc", "-repl",
        "a.swift"])).any
        (fun built => built.1.mode == .repl && !built.1.inputs.isEmpty &&
          built.2.all fun job => job.inputs.isEmpty) = true := by
      decide +kernel
    obtain ⟨driver, settings, jobs, hdriver, hrequest, hplan, hproperty⟩ :=
      Driver.exists_of_any_built (by decide +kernel) hany
    simp only [Bool.and_eq_true, beq_iff_eq, Bool.not_eq_true', List.all_eq_true,
      List.isEmpty_iff] at hproperty
    obtain ⟨⟨hmode, hinputs⟩, hreads⟩ := hproperty
    obtain ⟨input, hinput⟩ := List.exists_mem_of_ne_nil settings.inputs (by simpa using hinputs)
    have hnotices : driver.plan.notices = [] := by
      rw [Driver.notices_plan hrequest, ofSettings, hmode]
      cases replJob settings <;> rfl
    refine ⟨driver, settings, jobs, hdriver, hrequest, hmode, hplan, input, hinput,
      fun job hjob => ?_, by simp [hnotices]⟩
    simp [hreads job hjob]

end Plan

end SwiftPlan
