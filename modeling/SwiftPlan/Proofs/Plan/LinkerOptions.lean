import SwiftPlan.Proofs.Plan.Reworded
import SwiftPlan.Proofs.Plan.Success

/-!
# Options for the linker

Some options are for the linker alone, and nobody else looks at them.  So if two command lines
differ in nothing but these options, then their builds differ in nothing but the links, and the
links in nothing but what is handed on (`relinks_of_sameBut`).  An archiver is handed nothing on,
so that a build that links no image does not change at all.

A link puts what is handed on in one place of its command line.  What stands around it, and
everything else about the job, does not depend on the options (`framed_linkJob`).

The two builds are compared step by step.  None of the steps fails in one of them alone: the one
thing that can be wrong with an option for the linker is an empty search path.
-/

namespace SwiftPlan

/-- The options that are for the linker alone. -/
def linkerOptionNames : List String :=
  ["-L", "-l", "-Xlinker"]

namespace ParsedOptions

variable {names : List String} {first second parsed : ParsedOptions}

/-- The command lines are the same but for options with these names, which may be inserted, taken
away and put elsewhere. -/
structure SameBut (names : List String) (first second : ParsedOptions) : Prop where
  options : first.options.filter (!·.isOneOf names) = second.options.filter (!·.isOneOf names)
  tail : first.tail = second.tail

instance (names : List String) : DecidableRel (SameBut names) := fun first second =>
  decidable_of_iff (first.options.filter (!·.isOneOf names) =
      second.options.filter (!·.isOneOf names) ∧ first.tail = second.tail)
    ⟨fun h => ⟨h.1, h.2⟩, fun h => ⟨h.options, h.tail⟩⟩

lemma inputs_eq_filter (names : List String) :
    parsed.inputs =
      ((parsed.options.filter (!·.isOneOf names)).filter (·.isInput)).map (·.value) := by
  rw [inputs, List.filter_filter]
  congr 1
  refine List.filter_congr fun element _ => ?_
  cases element with
  | input text => rfl
  | option spec value => rfl

/-- Of an option that is ignored nothing is seen. -/
lemma seen_eq_filter (hpath : "-I=" ∉ names) :
    parsed.seen names =
      (parsed.options.filter (!·.isOneOf names)).filterMap (·.seen? names) := by
  rw [seen, List.filterMap_filter]
  refine List.filterMap_congr fun element _ => ?_
  cases hone : element.isOneOf names with
  | false => rfl
  | true =>
    obtain ⟨identity, hidentity, hname⟩ := (Option.any_eq_true _ _).1 hone
    cases element with
    | input text => simp [ParsedOption.identity?, ParsedOption.spec?] at hidentity
    | option spec value =>
      obtain rfl : spec.identity = identity := Option.some.inj hidentity
      have hmem : spec.identity ∈ names := by simpa using hname
      have hne : spec.identity ≠ "-I=" := by
        intro hsame
        rw [hsame] at hmem
        exact hpath hmem
      have hrole : spec.role = spec.identity := if_neg hne
      show (if spec.role ∈ names then none else some (spec.role, value.joined)) = none
      rw [hrole, if_pos hmem]

lemma SameBut.agree (h : SameBut names first second) (hpath : "-I=" ∉ names) :
    Agree names first second where
  inputs := by rw [inputs_eq_filter names, h.options, ← inputs_eq_filter]
  seen := by rw [seen_eq_filter hpath, h.options, ← seen_eq_filter hpath]
  tail := h.tail

end ParsedOptions

namespace Plan

/-- The jobs are the same, or they are links that differ in one stretch of their command lines,
where the one is told `told` and the other one `told'`. -/
inductive Relinked (told told' : List Argument) : Job → Job → Prop where
  | other {job : Job} (hkind : job.kind ≠ .link) : Relinked told told' job job
  | link {job : Job} (hkind : job.kind = .link) (front back : List Argument) :
      Relinked told told' { job with commandLine := front ++ told ++ back }
        { job with commandLine := front ++ told' ++ back }

/-- The build links an image.  Archives are put together without a linker. -/
def LinksImage (settings : Settings) : Prop :=
  ∃ product, settings.goal.product? = some product ∧ product ≠ .staticLibrary

variable {settings : Settings} {options : ParsedOptions} {product : LinkProduct}
  {told told' : List Argument} {compiles : List Job}

/-! ## Links -/

/-- However the command line is worded, this is the same link, except for one stretch of its command
line, which is made up of the options for the linker. -/
def Framed (settings : Settings) (link : Settings → Except PathError Job) : Prop :=
  ∃ job : Job, job.kind = .link ∧ ∃ front back, ∀ options told,
    linkerOptions (settings.reworded options) = .ok told →
      link (settings.reworded options) = .ok { job with commandLine := front ++ told ++ back }

lemma framed_darwinLinkJob (inputs : LinkInputs) (output : VirtualPath) :
    Framed settings (darwinLinkJob · product inputs output) := by
  let front := (if product = .dynamicLibrary then [.flag "-dylib"] else [])
    ++ fileArguments inputs.objects
    ++ (linkedModules settings inputs).flatMap fun module =>
      Argument.option "-add_ast_path" module.path
  let back := deploymentFlags settings.target ++ Argument.option "-o" output
  let job : Job :=
    { kind := .link
      tool := .plain (Tool.linkerName .darwin)
      commandLine := []
      inputs := inputs.objects ++ linkedModules settings inputs
      outputs := [⟨output, .image⟩] }
  refine ⟨job, rfl, front, back, ?_⟩
  intro options told htold
  dsimp only
  rw [darwinLinkJob, htold, ← List.append_assoc]
  rfl

lemma framed_elfLinkJob (inputs : LinkInputs) (output : VirtualPath) :
    Framed settings (elfLinkJob · product inputs output) := by
  let front := fileArguments inputs.objects
    ++ inputs.autolinks.map (fun file => .path file.path "@")
    ++ (if product = .dynamicLibrary then [.flag "-shared"] else [])
    ++ targetFlags settings
  let job : Job :=
    { kind := .link
      tool := .plain (Tool.linkerName .elf)
      commandLine := []
      inputs := inputs.objects ++ inputs.autolinks
      outputs := [⟨output, .image⟩] }
  refine ⟨job, rfl, front, Argument.option "-o" output, ?_⟩
  intro options told htold
  dsimp only
  rw [elfLinkJob, htold]
  rfl

/-- What is not an archive is linked in the way of its platform. -/
lemma linkJob_of_ne_staticLibrary (himage : product ≠ .staticLibrary) (settings : Settings)
    (inputs : LinkInputs) (output : VirtualPath) :
    linkJob settings product inputs output =
      match settings.target.family with
      | .darwin => darwinLinkJob settings product inputs output
      | .elf => elfLinkJob settings product inputs output := by
  cases product with
  | staticLibrary => exact absurd rfl himage
  | executable | dynamicLibrary =>
    cases hfamily : settings.target.family <;> simp only [linkJob, hfamily]

lemma framed_linkJob (himage : product ≠ .staticLibrary) (inputs : LinkInputs)
    (output : VirtualPath) : Framed settings (linkJob · product inputs output) := by
  have hlink (options : ParsedOptions) := linkJob_of_ne_staticLibrary himage
    (settings.reworded options) inputs output
  have hsame (options : ParsedOptions) :
      (settings.reworded options).target.family = settings.target.family := rfl
  simp only [Framed, hlink, hsame]
  cases settings.target.family with
  | darwin => exact framed_darwinLinkJob inputs output
  | elf => exact framed_elfLinkJob inputs output

/-- An archiver is told nothing of the options for the linker. -/
lemma linkJob_reworded_of_not_linksImage (h : ¬ LinksImage settings)
    (hproduct : settings.goal.product? = some product) (inputs : LinkInputs)
    (output : VirtualPath) :
    linkJob (settings.reworded options) product inputs output =
      linkJob settings product inputs output := by
  have hstatic : product = .staticLibrary := by
    by_contra himage
    exact h ⟨product, hproduct, himage⟩
  subst hstatic
  rfl

lemma linkJob_relinked (htold : linkerOptions settings = .ok told)
    (htold' : linkerOptions (settings.reworded options) = .ok told')
    (himage : product ≠ .staticLibrary) (inputs : LinkInputs) (output : VirtualPath) :
    Parallel (Relinked told told') (linkJob settings product inputs output)
      (linkJob (settings.reworded options) product inputs output) := by
  obtain ⟨job, hkind, front, back, hframe⟩ := framed_linkJob himage inputs output
  have hfirst : linkJob settings product inputs output =
      .ok { job with commandLine := front ++ told ++ back } :=
    hframe settings.options told htold
  have hsecond : linkJob (settings.reworded options) product inputs output =
      .ok { job with commandLine := front ++ told' ++ back } :=
    hframe options told' htold'
  rw [hfirst, hsecond]
  exact .ok (.link hkind front back)

/-! ## Plans -/

/-- Jobs that are no links stay as they are. -/
lemma relinked_of_forall {jobs : List Job} (h : ∀ job ∈ jobs, job.kind ≠ .link) :
    List.Forall₂ (Relinked told told') jobs jobs := by
  apply List.forall₂_same.2
  intro job hjob
  exact .other (h job hjob)

section

variable (hrewords : Rewords settings options)
  (htold : linkerOptions settings = .ok told)
  (htold' : linkerOptions (settings.reworded options) = .ok told')

include hrewords htold htold'

lemma linkJobs_relinked (hproduct : settings.goal.product? = some product)
    (himage : product ≠ .staticLibrary) :
    Parallel (List.Forall₂ (Relinked told told')) (linkJobs settings product compiles)
      (linkJobs (settings.reworded options) product compiles) := by
  unfold linkJobs
  rw [hrewords.product product hproduct]
  refine Parallel.bind_same fun extracts hextracts => ?_
  have hextracts' : List.Forall₂ (Relinked told told') extracts extracts :=
    relinked_of_forall fun job hjob => by simp [kind_of_mem_extractJobs hextracts job hjob]
  refine Parallel.bind_same fun output _ => ?_
  refine (linkJob_relinked htold htold' himage _ _).bind fun link link' hlink => .ok ?_
  refine List.rel_append hextracts' (.cons hlink (relinked_of_forall ?_))
  intro job hjob
  have hkind : job.kind = .generateDSYM := kind_of_mem_dsymJobs job hjob
  simp [hkind]

lemma buildJobs_relinked (himage : LinksImage settings) :
    Parallel (List.Forall₂ (Relinked told told')) (buildJobs settings)
      (buildJobs (settings.reworded options)) := by
  obtain ⟨product, hproduct, hne⟩ := himage
  have hlinks (compiles : List Job) :
      Parallel (List.Forall₂ (Relinked told told')) (productJobs settings compiles)
        (productJobs (settings.reworded options) compiles) := by
    have hproduct' : (settings.reworded options).goal.product? = some product := hproduct
    simp only [productJobs, hproduct, hproduct']
    exact linkJobs_relinked hrewords htold htold' hproduct hne
  unfold buildJobs
  rw [compileJobs_reworded hrewords]
  refine Parallel.bind_same fun compiles hcompiles => ?_
  rw [mergeJobs_reworded hrewords.agree]
  refine Parallel.bind_same fun merges hmerges => ?_
  refine (hlinks compiles).bind fun links links' hrelinked => .ok ?_
  refine List.rel_append (relinked_of_forall (List.forall_mem_append.2 ⟨?_, ?_⟩)) hrelinked
  · intro job hjob
    simp [kind_of_mem_compileJobs hcompiles job hjob]
  · intro job hjob
    simp [kind_of_mem_mergeJobs hmerges job hjob]

lemma ofSettings_relinked (himage : LinksImage settings) :
    (ofSettings settings).notices = (ofSettings (settings.reworded options)).notices ∧
      Parallel (List.Forall₂ (Relinked told told')) (ofSettings settings).outcome
        (ofSettings (settings.reworded options)).outcome := by
  have hmode' : (settings.reworded options).mode = settings.mode := rfl
  cases hmode : settings.mode with
  | repl =>
    have hsame : ofSettings (settings.reworded options) = ofSettings settings := by
      simp only [ofSettings, hmode', hmode, replJob_reworded hrewords.agree]
    rw [hsame]
    refine ⟨rfl, .self fun jobs hjobs => relinked_of_forall ?_⟩
    obtain ⟨repl, hrepl, rfl⟩ := (ofSettings_repl_eq_ok hmode).1 hjobs
    simp [(replJob_eq_ok hrepl).1]
  | immediate =>
    have hsame : ofSettings (settings.reworded options) = ofSettings settings := by
      simp only [ofSettings, hmode', hmode, interpretJob_reworded hrewords.agree]
    rw [hsame]
    refine ⟨rfl, .self fun jobs hjobs => relinked_of_forall ?_⟩
    obtain ⟨interpret, hinterpret, rfl⟩ := (ofSettings_immediate_eq_ok hmode).1 hjobs
    simp [(interpretJob_eq_ok hinterpret).1]
  | standard | single =>
    have hinputs' : (settings.reworded options).inputs = settings.inputs := rfl
    simp only [ofSettings, hmode', hmode, hinputs']
    split
    · exact ⟨rfl, .ok .nil⟩
    · exact ⟨rfl, (buildJobs_relinked hrewords htold htold' himage).mapError⟩

end

end Plan

/-! ## Requests -/

namespace Driver

open Plan

variable {surroundings : Surroundings} {environment : Environment} {kind : BuildKind}
  {first second : List String} {settings : Settings} {options options' : ParsedOptions}
  {before before' : List Notice} {told told' : List Argument}

/-- The second driver does what the first one does, whose settings are `settings`, but for what it
tells the linker.  The settings differ in the wording of the command line only. -/
structure Relinks (settings : Settings) (options' : ParsedOptions) (driver driver' : Driver) :
    Prop where
  request : driver.request = .build settings
  request' : driver'.request = .build (settings.reworded options')
  toolchain : driver.toolchain = driver'.toolchain
  unlinked : ¬ LinksImage settings → driver.plan = driver'.plan
  notices : driver.plan.notices = driver'.plan.notices
  linked : LinksImage settings → ∃ told told', linkerOptions settings = .ok told ∧
    linkerOptions (settings.reworded options') = .ok told' ∧
    Parallel (List.Forall₂ (Relinked told told')) driver.plan.outcome driver'.plan.outcome

lemma relinked_equip {job job' : Job} (toolchain : Toolchain) (h : Relinked told told' job job') :
    Relinked told told' (job.equip toolchain) (job'.equip toolchain) := by
  cases h with
  | other hkind => exact .other hkind
  | @link job hkind front back =>
    have hlink : (job.equip toolchain).kind = .link := hkind
    exact .link hlink front back

lemma relinks_ofSettings {arguments own arguments' own' : List String}
    (hagree : ParsedOptions.Agree lateOptions settings.options options')
    (htold : linkerOptions settings = .ok told)
    (htold' : linkerOptions (settings.reworded options') = .ok told') :
    Relinks settings options' (ofSettings environment arguments own settings)
      (ofSettings environment arguments' own' (settings.reworded options')) := by
  have hrewords : Rewords settings options' := rewords_of_agree hagree
  have hplan (himage : LinksImage settings) := ofSettings_relinked hrewords htold htold' himage
  have hsame (himage : ¬ LinksImage settings) :
      (ofSettings environment arguments own settings).plan =
        (ofSettings environment arguments' own' (settings.reworded options')).plan := by
    have hjobs : Plan.ofSettings (settings.reworded options') = Plan.ofSettings settings :=
      ofSettings_reworded hrewords fun product hproduct inputs output =>
        linkJob_reworded_of_not_linksImage himage hproduct inputs output
    show (do return (← Plan.ofSettings settings).map _) =
      (do return (← Plan.ofSettings (settings.reworded options')).map _)
    rw [hjobs]
    rfl
  refine ⟨rfl, rfl, rfl, hsame, ?_, fun himage => ⟨told, told', htold, htold', ?_⟩⟩
  · by_cases himage : LinksImage settings
    · rw [notices_plan rfl, notices_plan rfl]
      exact (hplan himage).1
    · rw [hsame himage]
  · rw [plan, plan, Diagnosed.outcome_bind, Diagnosed.outcome_bind]
    refine (hplan himage).2.bind fun jobs jobs' hjobs => .ok ?_
    rw [List.forall₂_map_left_iff, List.forall₂_map_right_iff]
    exact hjobs.imp fun job job' hjob => relinked_equip _ hjob

/-- **Options for the linker touch links only.**  If the command lines of two requests differ in
options for the linker only, and none of these gives an empty search path, then they fail in the
same way, or they come to settings that differ in the wording of the command line only, and to plans
that differ in what their links of images are told. -/
theorem relinks_of_sameBut (hfirst : Reads surroundings first kind options before)
    (hsecond : Reads surroundings second kind options' before')
    (hsame : ParsedOptions.SameBut linkerOptionNames options options')
    (hpaths : ∀ parsed ∈ options.options, parsed.identity? = some "-L" → parsed.value ≠ "")
    (hpaths' : ∀ parsed ∈ options'.options, parsed.identity? = some "-L" → parsed.value ≠ "")
    (environment : Environment) :
    ∃ rest,
      (ofArguments surroundings environment first).notices = before ++ rest ∧
        (ofArguments surroundings environment second).notices = before' ++ rest ∧
        Parallel (fun driver driver' => ∃ settings, Relinks settings options' driver driver')
          (ofArguments surroundings environment first).outcome
          (ofArguments surroundings environment second).outcome := by
  have hagree : ParsedOptions.Agree linkerOptionNames options options' := hsame.agree (by decide)
  have hlate : ParsedOptions.Agree lateOptions options options' := hagree.mono (by decide)
  obtain ⟨expanded, own, hparse, hdriver⟩ := hfirst.ofArguments_eq environment
  obtain ⟨expanded', own', -, hdriver'⟩ := hsecond.ofArguments_eq environment
  have hresolve : Settings.resolveOptions surroundings kind options' =
      (·.reworded options') <$> Settings.resolveOptions surroundings kind options :=
    Settings.resolveOptions_eq_map hlate hfirst.known hsecond.known (hagree.lastValue? (by decide))
  rw [hdriver, hdriver', hresolve, map_eq_pure_bind, bind_assoc]
  cases hsettings : Settings.resolveOptions surroundings kind options with
  | mk notices outcome =>
    refine ⟨notices, ?_⟩
    cases outcome with
    | error failure => exact ⟨rfl, rfl, .error failure⟩
    | ok settings =>
      have hoptions : settings.options = options :=
        Settings.options_of_resolveOptions (congrArg Diagnosed.outcome hsettings)
      have hresolved : settings.Resolved surroundings own := by
        have hown : (Settings.resolve surroundings kind own).outcome = .ok settings := by
          rw [Settings.resolve_of_parse hparse, hsettings]
        exact (resolve_eq_ok.1 hown).2
      subst hoptions
      obtain ⟨told, htold⟩ := succeeds_linkerOptions hresolved.isAnchor hpaths
      obtain ⟨told', htold'⟩ : Succeeds (linkerOptions (settings.reworded options')) := by
        apply succeeds_linkerOptions
        · exact hresolved.isAnchor
        · exact hpaths'
      have hnotices (notes : List Notice) : notes ++ (notices ++ []) = notes ++ notices :=
        congrArg (notes ++ ·) (List.append_nil notices)
      refine ⟨hnotices before, hnotices before', .ok ⟨settings, ?_⟩⟩
      exact relinks_ofSettings hlate htold htold'

/-- The linker is told other search paths, other libraries and other arguments, at other places
between the inputs. -/
theorem relinks_of_sameBut_of_libraries :
    let first := ["swiftc", "-target", "x86_64-apple-macosx10.15", "-Llib", "a.swift", "-lz",
      "b.swift", "-Xlinker", "-s"]
    let second := ["swiftc", "-Xlinker", "-map", "-target", "x86_64-apple-macosx10.15", "a.swift",
      "b.swift", "-L", "/usr/lib"]
    ∃ options options', Reads .bare first .batch options [] ∧
      Reads .bare second .batch options' [] ∧
      ParsedOptions.SameBut linkerOptionNames options options' ∧
      (∀ parsed ∈ options.options, parsed.identity? = some "-L" → parsed.value ≠ "") ∧
      (∀ parsed ∈ options'.options, parsed.identity? = some "-L" → parsed.value ≠ "") ∧
      ∃ driver driver' settings, (ofArguments .bare [] first).outcome = .ok driver ∧
        (ofArguments .bare [] second).outcome = .ok driver' ∧
        Relinks settings options' driver driver' := by
  intro first second
  obtain ⟨options, options', hfirst, hsecond, hsame, hpaths, hpaths'⟩ :
      ∃ options options', Reads .bare first .batch options [] ∧
        Reads .bare second .batch options' [] ∧
        ParsedOptions.SameBut linkerOptionNames options options' ∧
        (∀ parsed ∈ options.options, parsed.identity? = some "-L" → parsed.value ≠ "") ∧
        ∀ parsed ∈ options'.options, parsed.identity? = some "-L" → parsed.value ≠ "" :=
    exists_reads_of_any (by decide +kernel) (by decide +kernel) (by decide +kernel)
      (by decide +kernel) (by decide +kernel)
  have hbuilt : ((built? (ofPlainArguments .bare [] first)).any fun _ => true) = true := by
    decide +kernel
  obtain ⟨driver, -, -, hdriver, -⟩ := exists_of_any_built (by decide +kernel) hbuilt
  obtain ⟨rest, -, -, hparallel⟩ := relinks_of_sameBut hfirst hsecond hsame hpaths hpaths' []
  rw [hdriver] at hparallel
  generalize (ofArguments .bare [] second).outcome = outcome at hparallel ⊢
  cases hparallel with
  | ok hrelinks =>
    obtain ⟨settings, hrelinks⟩ := hrelinks
    exact ⟨options, options', hfirst, hsecond, hsame, hpaths, hpaths', driver, _, settings, hdriver,
      rfl, hrelinks⟩

end Driver

end SwiftPlan
