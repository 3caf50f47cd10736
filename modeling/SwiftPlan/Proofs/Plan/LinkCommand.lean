import SwiftPlan.Proofs.Plan.LinkerOptions
import SwiftPlan.Proofs.Plan.Shape

/-!
# Commands of links

A plan puts together what is linked from three places: outputs of jobs before the link, inputs of
the build that need no compilation, and options that are handed on.  Which of them a link is told,
and in which order, depends on its product and on the platform.  There are four cases
(`LinkCommand`), and each link of a plan is one of them, with nothing left out and nothing added
(`linkCommand_of_plan`).

The options are handed on one by one in the order of the command line (`Renders`).  Darwin linkers
are called directly and take arguments as they are.  Elsewhere a compiler links, and each argument
that it is to hand on to its linker has a mark in front.
-/

namespace SwiftPlan

/-- The three numbers of a version are shown with dots between them. -/
lemma Version.display_eq (version : Version) :
    version.display = toString version.major ++ "." ++ toString version.minor ++ "." ++
      toString version.patch :=
  rfl

/-- Each system of the Darwin family has an option for the deployment version. -/
lemma Triple.exists_minimumVersionFlag {target : Triple} (h : target.family = .darwin) :
    ∃ flag, target.minimumVersionFlag? = some flag := by
  rw [Triple.family] at h
  rw [Triple.minimumVersionFlag?]
  cases hsystem : target.system <;> simp [hsystem, OperatingSystem.family] at h ⊢

namespace Plan

/-- What an option for the linker is handed on as. -/
inductive Renders (settings : Settings) (parsed : ParsedOption) : List Argument → Prop where
  | searchPath {path : VirtualPath} (hidentity : parsed.identity? = some "-L")
      (hpath : settings.path parsed.value = .ok path) :
      Renders settings parsed [.flag "-L", .file path]
  | library (hidentity : parsed.identity? = some "-l") :
      Renders settings parsed [.flag ("-l" ++ parsed.value)]
  | bare (hidentity : parsed.identity? = some "-Xlinker")
      (hfamily : settings.target.family = .darwin) :
      Renders settings parsed [.flag parsed.value]
  | wrapped (hidentity : parsed.identity? = some "-Xlinker")
      (hfamily : settings.target.family = .elf) :
      Renders settings parsed [.flag "-Xlinker", .flag parsed.value]

/-- The arguments are all options for the linker, each one rendered, in order. -/
def RendersAll (settings : Settings) (arguments : List Argument) : Prop :=
  ∃ parts, List.Forall₂ (Renders settings) (settings.options.allOf linkerOptionNames) parts ∧
    arguments = parts.flatten

/-- The objects that are linked: those of the compile jobs, and those among the inputs. -/
def objectsToLink (settings : Settings) (jobs : List Job) : List TypedPath :=
  (ofKind .compile jobs).flatMap (·.outputsOf .object) ++
    settings.inputs.filter (·.type == .object)

/-- The modules that a Darwin linker is told: that of the build if debug information is full, and
those among the inputs. -/
def modulesToLink (settings : Settings) : List TypedPath :=
  (if settings.debug.level = some .astTypes then (moduleOf settings).toList else []) ++
    settings.inputs.filter (·.type == .swiftModule)

/-- The command of a link that makes a product at `output`: the name of the tool, and what it is
told. -/
inductive LinkCommand (settings : Settings) (jobs : List Job) (output : VirtualPath) :
    LinkProduct → String → List Argument → Prop where
  | darwinImage {product : LinkProduct} {handed : List Argument} {versionFlag : String}
      {version : Version} (hfamily : settings.target.family = .darwin)
      (himage : product ≠ .staticLibrary) (hhanded : RendersAll settings handed)
      (hflag : settings.target.minimumVersionFlag? = some versionFlag)
      (hversion : settings.target.version = version) :
      LinkCommand settings jobs output product "ld"
        ((if product = .dynamicLibrary then [.flag "-dylib"] else [])
          ++ fileArguments (objectsToLink settings jobs)
          ++ (modulesToLink settings).flatMap
            (fun module => [.flag "-add_ast_path", .file module.path])
          ++ handed
          ++ [.flag "-arch", .flag settings.target.arch]
          ++ [.flag versionFlag, .flag (toString version.major ++ "." ++ toString version.minor
            ++ "." ++ toString version.patch)]
          ++ [.flag "-o", .file output])
  | elfImage {product : LinkProduct} {handed : List Argument} {extract : Job}
      {extracted : TypedPath} (hfamily : settings.target.family = .elf)
      (himage : product ≠ .staticLibrary) (hhanded : RendersAll settings handed)
      (hextract : ofKind .autolinkExtract jobs = [extract])
      (hextracted : extract.outputs = [extracted]) :
      LinkCommand settings jobs output product "clang"
        (fileArguments (objectsToLink settings jobs)
          ++ (extracted :: settings.inputs.filter (·.type == .autolink)).map
            (fun file => .path file.path "@")
          ++ (if product = .dynamicLibrary then [.flag "-shared"] else [])
          ++ [.flag "-target", .flag settings.target.text]
          ++ handed
          ++ [.flag "-o", .file output])
  | darwinArchive (hfamily : settings.target.family = .darwin) :
      LinkCommand settings jobs output .staticLibrary "libtool"
        ([.flag "-static"] ++ fileArguments (objectsToLink settings jobs)
          ++ [.flag "-o", .file output])
  | elfArchive (hfamily : settings.target.family = .elf) :
      LinkCommand settings jobs output .staticLibrary "ar"
        ([.flag "crs", .file output] ++ fileArguments (objectsToLink settings jobs))

variable {settings : Settings} {product : LinkProduct} {output : VirtualPath} {link : Job}
  {compiles merges extracts jobs : List Job}

/-! ## Options that are handed on -/

lemma renders_of_linkerArguments {parsed : ParsedOption} {arguments : List Argument}
    (h : linkerArguments settings parsed = .ok arguments) :
    parsed.isOneOf linkerOptionNames = true ∧ Renders settings parsed arguments ∨
      parsed.isOneOf linkerOptionNames = false ∧ arguments = [] := by
  rw [linkerArguments] at h
  split at h
  · next hidentity =>
    exact .inr ⟨by simp [ParsedOption.isOneOf, hidentity], (pure_eq_ok.1 h).symm⟩
  · next identity hidentity =>
    have hone : parsed.isOneOf linkerOptionNames = linkerOptionNames.contains identity := by
      rw [ParsedOption.isOneOf, hidentity, Option.any_some]
    rw [hone]
    split_ifs at h with hsearch hlibrary hlinker
    · subst hsearch
      obtain ⟨path, hpath, harguments⟩ := bind_eq_ok.1 h
      obtain rfl := pure_eq_ok.1 harguments
      exact .inl ⟨rfl, .searchPath hidentity hpath⟩
    · subst hlibrary
      obtain rfl := pure_eq_ok.1 h
      exact .inl ⟨rfl, .library hidentity⟩
    · subst hlinker
      refine .inl ⟨rfl, ?_⟩
      cases hfamily : settings.target.family with
      | darwin =>
        rw [hfamily] at h
        obtain rfl := pure_eq_ok.1 h
        exact .bare hidentity hfamily
      | elf =>
        rw [hfamily] at h
        obtain rfl := pure_eq_ok.1 h
        exact .wrapped hidentity hfamily
    · exact .inr ⟨by simp [linkerOptionNames, hsearch, hlibrary, hlinker], (pure_eq_ok.1 h).symm⟩

/-- What is not for the linker leaves no trace. -/
lemma forall₂_renders {elements : List ParsedOption} {results : List (List Argument)}
    (h : elements.mapM (linkerArguments settings) = .ok results) :
    ∃ parts, List.Forall₂ (Renders settings) (elements.filter (·.isOneOf linkerOptionNames)) parts ∧
      results.flatten = parts.flatten := by
  induction mapM_eq_ok.1 h with
  | nil => exact ⟨[], .nil, rfl⟩
  | @cons element arguments elements results helement hrest ih =>
    obtain ⟨parts, hrenders, hflatten⟩ := ih (mapM_eq_ok.2 hrest)
    rw [List.flatten_cons, hflatten]
    rcases renders_of_linkerArguments helement with ⟨hone, hrender⟩ | ⟨hone, rfl⟩
    · simp only [List.filter_cons, hone, if_true]
      exact ⟨arguments :: parts, .cons hrender hrenders, rfl⟩
    · rw [List.filter_cons_of_neg (by simp [hone])]
      exact ⟨parts, hrenders, rfl⟩

lemma rendersAll_linkerOptions {options : List Argument}
    (h : linkerOptions settings = .ok options) : RendersAll settings options := by
  obtain ⟨results, hresults, hoptions⟩ := bind_eq_ok.1 h
  obtain rfl := pure_eq_ok.1 hoptions
  exact forall₂_renders hresults

/-! ## The link of a build -/

lemma linkedInputs_swiftModule (hproduct : settings.goal.product? = some product)
    (himage : product ≠ .staticLibrary) (hfamily : settings.target.family = .darwin) :
    linkedInputs settings .swiftModule = settings.inputs.filter (·.type == .swiftModule) := by
  simp [linkedInputs, linksType, hproduct, himage, Triple.isDarwin, hfamily]

lemma linkedInputs_autolink (hproduct : settings.goal.product? = some product)
    (himage : product ≠ .staticLibrary) (hfamily : settings.target.family = .elf) :
    linkedInputs settings .autolink = settings.inputs.filter (·.type == .autolink) := by
  simp [linkedInputs, linksType, hproduct, himage, Triple.needsAutolinkExtract, hfamily]

lemma linkedModules_linkInputs (hproduct : settings.goal.product? = some product)
    (himage : product ≠ .staticLibrary) (hfamily : settings.target.family = .darwin) :
    linkedModules settings (linkInputs settings compiles extracts) = modulesToLink settings := by
  rw [linkedModules, linkInputs, linkedInputs_swiftModule hproduct himage hfamily]
  rfl

/-- The jobs before a link provide its inputs by their kinds. -/
lemma linkCommand_of_linkJob (hproduct : settings.goal.product? = some product)
    (hcompile : ofKind .compile jobs = compiles)
    (hextract : ofKind .autolinkExtract jobs = extracts)
    (hextracts : extractJobs settings (linkedObjects settings compiles) = .ok extracts)
    (hlink : linkJob settings product (linkInputs settings compiles extracts) output = .ok link) :
    ∃ tool, link.tool = .plain tool ∧
      LinkCommand settings jobs output product tool link.commandLine := by
  have hobjects : (linkInputs settings compiles extracts).objects =
      objectsToLink settings jobs := by
    rw [objectsToLink, hcompile, ← linkedInputs_object hproduct]
    rfl
  rcases linkJob_eq_ok hlink with ⟨rfl, rfl⟩ | ⟨himage, hfamily, hjob⟩ | ⟨himage, hfamily, hjob⟩
  · cases hfamily : settings.target.family with
    | darwin =>
      refine ⟨"libtool", by rw [archiveJob, hfamily]; rfl, ?_⟩
      rw [archiveJob, hobjects, hfamily]
      exact .darwinArchive hfamily
    | elf =>
      refine ⟨"ar", by rw [archiveJob, hfamily]; rfl, ?_⟩
      rw [archiveJob, hobjects, hfamily]
      exact .elfArchive hfamily
  · obtain ⟨options, hoptions, hlinked⟩ := bind_eq_ok.1 hjob
    obtain rfl := pure_eq_ok.1 hlinked
    obtain ⟨flag, hflag⟩ := Triple.exists_minimumVersionFlag hfamily
    refine ⟨"ld", rfl, ?_⟩
    have hdeployment : deploymentFlags settings.target =
        [.flag "-arch", .flag settings.target.arch] ++
          [.flag flag, .flag settings.target.version.display] := by
      rw [deploymentFlags, hflag]
    dsimp only
    rw [hobjects, linkedModules_linkInputs hproduct himage hfamily, hdeployment,
      Version.display_eq, ← List.append_assoc _ [_, _] [_, _]]
    exact .darwinImage hfamily himage (rendersAll_linkerOptions hoptions) hflag rfl
  · obtain ⟨options, hoptions, hlinked⟩ := bind_eq_ok.1 hjob
    obtain rfl := pure_eq_ok.1 hlinked
    refine ⟨"clang", rfl, ?_⟩
    rcases extractJobs_eq_ok hextracts with ⟨-, job, hextracted, rfl⟩ | ⟨hneeds, -⟩
    · obtain ⟨file, -, -, -, houtputs, -⟩ := autolinkExtractJob_eq_ok hextracted
      have hautolinks : (linkInputs settings compiles [job]).autolinks =
          ⟨file, .autolink⟩ :: settings.inputs.filter (·.type == .autolink) := by
        rw [linkInputs, List.flatMap_singleton, houtputs,
          linkedInputs_autolink hproduct himage hfamily]
        rfl
      dsimp only
      rw [hobjects, hautolinks]
      exact .elfImage hfamily himage (rendersAll_linkerOptions hoptions) hextract houtputs
    · simp [Triple.needsAutolinkExtract, hfamily] at hneeds

/-- A build has at most one link, whose command follows from the other jobs. -/
lemma linkCommand_of_buildJobs (h : buildJobs settings = .ok jobs) (hlink : link ∈ jobs)
    (hkind : link.kind = .link) :
    ∃ product output tool, settings.goal.product? = some product ∧
      productPath settings product = .ok output ∧ link.outputs = [⟨output, .image⟩] ∧
      link.tool = .plain tool ∧
      LinkCommand settings jobs output product tool link.commandLine := by
  obtain ⟨compiles, merges, links, hcompiles, hmerges, hlinks, rfl⟩ := buildJobs_eq_ok h
  obtain ⟨hcompile, -, -, hother⟩ := ofKind_of_buildJobs hcompiles hmerges hlinks
  have hmem : link ∈ ofKind .link (compiles ++ merges ++ links) :=
    List.mem_filter.2 ⟨hlink, by simp [hkind]⟩
  rw [hother .link (by simp) (by simp)] at hmem
  rcases productJobs_eq_ok hlinks with ⟨-, rfl⟩ | ⟨product, hproduct, hjobs⟩
  · simp [ofKind] at hmem
  obtain ⟨extracts, output, link', hextracts, houtput, hlinked, rfl⟩ := linkJobs_eq_ok hjobs
  obtain ⟨hextract, hlinkers, -⟩ := ofKind_of_linkJobs hextracts hlinked
  obtain rfl : link = link' := by simpa [hlinkers] using hmem
  rw [← hother .autolinkExtract (by simp) (by simp)] at hextract
  obtain ⟨tool, htool, hcommand⟩ := linkCommand_of_linkJob hproduct hcompile hextract hextracts
    hlinked
  exact ⟨product, output, tool, hproduct, houtput, (linkJob_files hlinked).2.2, htool, hcommand⟩

/-! ## The link of a plan -/

/-- Jobs that run inputs or read commands link nothing. -/
lemma buildJobs_of_link (h : (ofSettings settings).outcome = .ok jobs) (hlink : link ∈ jobs)
    (hkind : link.kind = .link) : buildJobs settings = .ok jobs := by
  by_cases hmode : settings.mode = .standard ∨ settings.mode = .single
  · rcases (ofSettings_eq_ok hmode).1 h with ⟨-, rfl⟩ | ⟨-, hbuild⟩
    · simp at hlink
    · exact hbuild
  · cases hother : settings.mode with
    | standard => exact absurd (.inl hother) hmode
    | single => exact absurd (.inr hother) hmode
    | repl =>
      obtain ⟨repl, hrepl, rfl⟩ := (ofSettings_repl_eq_ok hother).1 h
      obtain rfl := List.mem_singleton.1 hlink
      simp [(replJob_eq_ok hrepl).1] at hkind
    | immediate =>
      obtain ⟨interpret, hinterpret, rfl⟩ := (ofSettings_immediate_eq_ok hother).1 h
      obtain rfl := List.mem_singleton.1 hlink
      simp [(interpretJob_eq_ok hinterpret).1] at hkind

lemma objectsToLink_map_equip (settings : Settings) (jobs : List Job) (toolchain : Toolchain) :
    objectsToLink settings (jobs.map (·.equip toolchain)) = objectsToLink settings jobs := by
  rw [objectsToLink, ofKind_map_equip, List.flatMap_map]
  rfl

/-- Which executables run does not change what they are told. -/
lemma LinkCommand.map_equip {tool : String} {arguments : List Argument}
    (h : LinkCommand settings jobs output product tool arguments) (toolchain : Toolchain) :
    LinkCommand settings (jobs.map (·.equip toolchain)) output product tool arguments := by
  have hobjects := objectsToLink_map_equip settings jobs toolchain
  cases h with
  | darwinImage hfamily himage hhanded hflag hversion =>
    rw [← hobjects]
    exact .darwinImage hfamily himage hhanded hflag hversion
  | @elfImage _ _ extract _ hfamily himage hhanded hextract hextracted =>
    have hequipped : ofKind .autolinkExtract (jobs.map (·.equip toolchain)) =
        [extract.equip toolchain] := by
      rw [ofKind_map_equip, hextract, List.map_singleton]
    rw [← hobjects]
    exact .elfImage hfamily himage hhanded hequipped hextracted
  | darwinArchive hfamily =>
    rw [← hobjects]
    exact .darwinArchive hfamily
  | elfArchive hfamily =>
    rw [← hobjects]
    exact .elfArchive hfamily

variable {driver : Driver}

/-- **The command of a link.**  Each link of a plan makes the product that is asked for where it is
to go, with the tool for this kind of product on its platform, and is told the objects of the plan
and what else the tool needs, in this order and nothing besides. -/
theorem linkCommand_of_plan (hrequest : driver.request = .build settings)
    (hplan : driver.plan.outcome = .ok jobs) (hlink : link ∈ jobs) (hkind : link.kind = .link) :
    ∃ product output tool, settings.goal.product? = some product ∧
      productPath settings product = .ok output ∧ link.outputs = [⟨output, .image⟩] ∧
      link.tool = driver.toolchain.tool tool ∧
      LinkCommand settings jobs output product tool link.commandLine := by
  obtain ⟨plain, hplain, rfl⟩ := (Driver.plan_eq_ok hrequest).1 hplan
  obtain ⟨link, hmem, rfl⟩ := List.mem_map.1 hlink
  have hbuild := buildJobs_of_link hplain hmem hkind
  obtain ⟨product, output, tool, hproduct, houtput, houtputs, htool, hcommand⟩ :=
    linkCommand_of_buildJobs hbuild hmem hkind
  refine ⟨product, output, tool, hproduct, houtput, houtputs, ?_,
    hcommand.map_equip driver.toolchain⟩
  rw [Job.equip, htool]
  rfl

/-- A library for Linux.  Options for the linker stand between others, one of them twice, and what
the objects want linked comes before what an input says. -/
theorem linkCommand_of_plan_of_library :
    let arguments := ["swiftc", "-emit-library", "-target", "x86_64-unknown-linux-gnu", "-lm",
      "a.swift", "-Xlinker", "-s", "-g", "b.o", "-L", "deps", "-lm", "c.autolink"]
    ∃ driver settings jobs link product output tool,
      (Driver.ofArguments .bare [] arguments).outcome = .ok driver ∧
        driver.request = .build settings ∧ driver.plan.outcome = .ok jobs ∧ link ∈ jobs ∧
        link.kind = .link ∧
        link.arguments none = ["a.o", "b.o", "@main.autolink", "@c.autolink", "-shared", "-target",
          "x86_64-unknown-linux-gnu", "-lm", "-Xlinker", "-s", "-L", "deps", "-lm", "-o",
          "libmain.so"] ∧
        link.tool = driver.toolchain.tool tool ∧
        LinkCommand settings jobs output product tool link.commandLine := by
  intro arguments
  have hany : (Driver.built? (Driver.ofPlainArguments .bare [] arguments)).any
      (fun built => (ofKind .link built.2).map (·.arguments none) ==
        [["a.o", "b.o", "@main.autolink", "@c.autolink", "-shared", "-target",
          "x86_64-unknown-linux-gnu", "-lm", "-Xlinker", "-s", "-L", "deps", "-lm", "-o",
          "libmain.so"]]) = true := by
    decide +kernel
  obtain ⟨driver, settings, jobs, hdriver, hrequest, hplan, hproperty⟩ :=
    Driver.exists_of_any_built (by decide +kernel) hany
  obtain ⟨link, hlinks, harguments⟩ := List.map_eq_singleton_iff.1 (beq_iff_eq.1 hproperty)
  have hmem : link ∈ ofKind .link jobs := hlinks ▸ List.mem_singleton_self link
  have hlink : link ∈ jobs := (List.mem_filter.1 hmem).1
  have hkind : link.kind = .link := by simpa using (List.mem_filter.1 hmem).2
  obtain ⟨product, output, tool, -, -, -, htool, hcommand⟩ :=
    linkCommand_of_plan hrequest hplan hlink hkind
  exact ⟨driver, settings, jobs, link, product, output, tool, hdriver, hrequest, hplan, hlink,
    hkind, harguments, htool, hcommand⟩

end Plan

end SwiftPlan
