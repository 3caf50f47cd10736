import SwiftPlan.Proofs.Plan.Jobs
import SwiftPlan.Proofs.ResponseFile.Reference
import SwiftPlan.Proofs.Settings.Reworded

/-!
# Plans of command lines that look alike

The planner asks the command line again, for what is handed on and for where outputs go.  Again the
answers depend on what is seen of the command line only.  So the jobs of a build stay the same if
its command line is written in another way.

Where outputs go is asked in two places.  A command line may even give the output in another way, or
leave it out, as long as the objects and the product go to the same places (`Rewords`).
-/

namespace SwiftPlan.Plan

variable {settings : Settings} {options : ParsedOptions} {unit : CompileUnit}
  {product : LinkProduct} {compiles : List Job} {element : ParsedOption}

/-! ## What is handed on -/

/-- What the compiler is told of an option depends on its identity and its value. -/
lemma forwarded_eq_plain {identity : String} (h : element.identity? = some identity) :
    forwarded settings element = forwarded settings (.plain (identity, element.value)) := by
  unfold forwarded
  rw [h]
  rfl

lemma frontendOptions_eq_bind :
    frontendOptions settings = (do
      let handedOn ← ParsedOptions.collect (forwarded settings) settings.options.options
      let header ← headerOption settings
      return targetFlags settings
        ++ colorFlags settings.options
        ++ handedOn
        ++ debugFlags settings
        ++ header
        ++ (if isLibraryCode settings then [.flag "-parse-as-library"] else [])
        ++ (if settings.options.contains "-parse-stdlib" then [.flag "-parse-stdlib"] else [])
        ++ moduleNameFlags settings
        ++ (settings.options.allOf ["-Xfrontend"]).map fun parsed => .flag parsed.value) := by
  simp only [frontendOptions, ParsedOptions.collect, bind_assoc, pure_bind]

lemma forwarded_of_seen?_eq_none (h : element.seen? rareOptions = none) :
    forwarded settings element = pure [] := by
  cases hidentity : element.identity? with
  | none =>
    unfold forwarded
    rw [hidentity]
  | some identity =>
    have hrare : identity ∈ rareOptions :=
      ParsedOptions.mem_of_seen?_eq_none (by decide) h identity hidentity
    rw [forwarded_eq_plain hidentity]
    simp only [rareOptions, lateOptions, List.mem_cons, List.not_mem_nil, or_false] at hrare
    rcases hrare with rfl | rfl | rfl | rfl | rfl <;> rfl

lemma forwarded_of_seen?_eq_some {ignored : List String} {seen : String × String}
    (h : element.seen? ignored = some seen) :
    forwarded settings element = forwarded settings (.plain seen) := by
  obtain ⟨hvalue, hidentity | ⟨hidentity, hpath⟩⟩ := ParsedOptions.of_seen?_eq_some h
  · rw [forwarded_eq_plain hidentity, hvalue]
  · obtain ⟨name, value⟩ := seen
    obtain rfl : name = "-I" := hpath
    obtain rfl : element.value = value := hvalue
    rw [forwarded_eq_plain hidentity]
    rfl

/-- What the linker is told of an option depends on its identity and its value. -/
lemma linkerArguments_eq_plain {identity : String} (h : element.identity? = some identity) :
    linkerArguments settings element =
      linkerArguments settings (.plain (identity, element.value)) := by
  unfold linkerArguments
  rw [h]
  rfl

section

variable (h : ParsedOptions.Agree rareOptions settings.options options)

include h

/-! ## Options of the compiler -/

lemma collect_forwarded :
    ParsedOptions.collect (forwarded settings) options.options =
      ParsedOptions.collect (forwarded settings) settings.options.options :=
  h.symm.collect (fun _ hnone => forwarded_of_seen?_eq_none hnone)
    fun _ _ hseen => forwarded_of_seen?_eq_some hseen

lemma headerOption_reworded : headerOption (settings.reworded options) = headerOption settings := by
  have hheader : options.lastValue? ["-import-objc-header"] =
      settings.options.lastValue? ["-import-objc-header"] :=
    h.symm.lastValue? (by decide)
  unfold headerOption
  rw [Settings.reworded, hheader]
  rfl

lemma colorFlags_reworded : colorFlags options = colorFlags settings.options := by
  rw [colorFlags, colorFlags, h.hasAny (by decide), h.lastWins (by decide) (by decide)]

lemma debugFlags_reworded : debugFlags (settings.reworded options) = debugFlags settings := by
  unfold debugFlags
  rw [Settings.reworded, ParsedOptions.contains, ParsedOptions.contains, h.hasAny (by decide)]

lemma isLibraryCode_reworded :
    isLibraryCode (settings.reworded options) = isLibraryCode settings := by
  rw [isLibraryCode, isLibraryCode, ParsedOptions.contains, ParsedOptions.contains,
    h.hasAny (by decide)]
  rfl

lemma frontendOptions_reworded :
    frontendOptions (settings.reworded options) = frontendOptions settings := by
  have hstdlib : options.contains "-parse-stdlib" = settings.options.contains "-parse-stdlib" :=
    h.symm.hasAny (by decide)
  have hpassed : (options.allOf ["-Xfrontend"]).map (fun parsed => Argument.flag parsed.value) =
      (settings.options.allOf ["-Xfrontend"]).map fun parsed => Argument.flag parsed.value := by
    have hvalues : (options.allOf ["-Xfrontend"]).map (·.value) =
        (settings.options.allOf ["-Xfrontend"]).map (·.value) :=
      h.symm.map_value (by decide)
    have hflags := congrArg (List.map Argument.flag) hvalues
    rwa [List.map_map, List.map_map] at hflags
  have hforwarded : forwarded (settings.reworded options) = forwarded settings := rfl
  have hoptions : (settings.reworded options).options = options := rfl
  rw [frontendOptions_eq_bind, frontendOptions_eq_bind, hoptions, hforwarded, collect_forwarded h,
    headerOption_reworded h, colorFlags_reworded h, debugFlags_reworded h,
    isLibraryCode_reworded h, hstdlib, hpassed]
  rfl

/-! ## Jobs without an output of the build -/

lemma dependencyFiles_reworded {others : List CompileFile} :
    unit.dependencyFiles (settings.reworded options) others =
      unit.dependencyFiles settings others := by
  have hasked : options.contains "-emit-dependencies" =
      settings.options.contains "-emit-dependencies" :=
    h.symm.hasAny (by decide)
  unfold CompileUnit.dependencyFiles
  rw [Settings.reworded, hasked]
  rfl

lemma mergeJobs_reworded :
    mergeJobs (settings.reworded options) compiles = mergeJobs settings compiles := by
  have hjob (files : ModuleFiles) (parts : List TypedPath) :
      mergeJob (settings.reworded options) files parts = mergeJob settings files parts := by
    rw [mergeJob, mergeJob, headerOption_reworded h]
    rfl
  unfold mergeJobs
  simp only [hjob]
  rfl

lemma interpretJob_reworded :
    interpretJob (settings.reworded options) = interpretJob settings := by
  unfold interpretJob
  rw [frontendOptions_reworded h, Settings.reworded, ← h.tail]

lemma replJob_reworded : replJob (settings.reworded options) = replJob settings := by
  rw [replJob, replJob, frontendOptions_reworded h]

end

/-! ## Where outputs go -/

/-- The command line may be written as `options`: nothing else is seen of it, the rare options
apart, and the objects and the product of the build go to the same places. -/
structure Rewords (settings : Settings) (options : ParsedOptions) : Prop where
  agree : ParsedOptions.Agree rareOptions settings.options options
  object : ∀ unit : CompileUnit,
    unit.objectPath (settings.reworded options) = unit.objectPath settings
  product : ∀ product, settings.goal.product? = some product →
    productPath (settings.reworded options) product = productPath settings product

/-- With the same output outputs go to the same places. -/
lemma rewords_of_agree (h : ParsedOptions.Agree lateOptions settings.options options) :
    Rewords settings options := by
  have houtput : options.lastValue? ["-o"] = settings.options.lastValue? ["-o"] :=
    h.symm.lastValue? (by decide)
  refine ⟨h.mono (by decide), fun unit => ?_, fun product _ => ?_⟩
  · unfold CompileUnit.objectPath
    rw [Settings.reworded, houtput]
    rfl
  · unfold productPath
    rw [Settings.reworded, houtput]
    rfl

section

variable (h : Rewords settings options)

include h

/-! ## Plans -/

lemma compileJob_reworded :
    compileJob (settings.reworded options) unit = compileJob settings unit := by
  have hobjects : unit.objectFiles (settings.reworded options) = unit.objectFiles settings := by
    unfold CompileUnit.objectFiles
    rw [h.object]
    rfl
  have hfiles : unit.files (settings.reworded options) = unit.files settings := by
    unfold CompileUnit.files
    simp only [hobjects, dependencyFiles_reworded h.agree]
    rfl
  unfold compileJob
  rw [hfiles, frontendOptions_reworded h.agree]
  rfl

lemma compileJobs_reworded :
    compileJobs (settings.reworded options) = compileJobs settings := by
  have hjob : compileJob (settings.reworded options) = compileJob settings :=
    funext fun unit => compileJob_reworded h
  rw [compileJobs, compileJobs, hjob]
  rfl

/-- The product is made in the same way if it is linked in the same way. -/
lemma productJobs_reworded
    (hlink : ∀ product, settings.goal.product? = some product → ∀ inputs output,
      linkJob (settings.reworded options) product inputs output =
        linkJob settings product inputs output) :
    productJobs (settings.reworded options) compiles = productJobs settings compiles := by
  have hgoal : (settings.reworded options).goal = settings.goal := rfl
  unfold productJobs
  rw [hgoal]
  cases hproduct : settings.goal.product? with
  | none => rfl
  | some product =>
    show linkJobs (settings.reworded options) product compiles = linkJobs settings product compiles
    unfold linkJobs
    simp only [hlink product hproduct, h.product product hproduct]
    rfl

lemma buildJobs_reworded
    (hlink : ∀ product, settings.goal.product? = some product → ∀ inputs output,
      linkJob (settings.reworded options) product inputs output =
        linkJob settings product inputs output) :
    buildJobs (settings.reworded options) = buildJobs settings := by
  unfold buildJobs
  simp only [compileJobs_reworded h, mergeJobs_reworded h.agree, productJobs_reworded h hlink]

lemma ofSettings_reworded
    (hlink : ∀ product, settings.goal.product? = some product → ∀ inputs output,
      linkJob (settings.reworded options) product inputs output =
        linkJob settings product inputs output) :
    ofSettings (settings.reworded options) = ofSettings settings := by
  have hmode : (settings.reworded options).mode = settings.mode := rfl
  have hinputs : (settings.reworded options).inputs = settings.inputs := rfl
  have hunused : unusedInputs (settings.reworded options) = unusedInputs settings := rfl
  unfold ofSettings
  simp only [replJob_reworded h.agree, interpretJob_reworded h.agree, buildJobs_reworded h hlink,
    hmode, hinputs, hunused]

end

/-- A link is the same if the linker is told the same. -/
lemma linkJob_reworded {inputs : LinkInputs} {output : VirtualPath}
    (hlinker : linkerOptions (settings.reworded options) = linkerOptions settings) :
    linkJob (settings.reworded options) product inputs output =
      linkJob settings product inputs output := by
  unfold linkJob darwinLinkJob elfLinkJob
  rw [hlinker]
  rfl

/-- The linker is told neither where its output goes nor the name of the module by what is handed
on. -/
lemma linkerOptions_reworded
    (h : ParsedOptions.Agree ["-o", "-module-name"] settings.options options) :
    linkerOptions (settings.reworded options) = linkerOptions settings := by
  have hnone (element : ParsedOption) (hseen : element.seen? ["-o", "-module-name"] = none) :
      linkerArguments settings element = pure [] := by
    cases hidentity : element.identity? with
    | none =>
      unfold linkerArguments
      rw [hidentity]
    | some identity =>
      have hmem := ParsedOptions.mem_of_seen?_eq_none (by decide) hseen identity hidentity
      rw [linkerArguments_eq_plain hidentity]
      simp only [List.mem_cons, List.not_mem_nil, or_false] at hmem
      rcases hmem with rfl | rfl <;> rfl
  have hsome (element : ParsedOption) (seen : String × String)
      (hseen : element.seen? ["-o", "-module-name"] = some seen) :
      linkerArguments settings element = linkerArguments settings (.plain seen) := by
    obtain ⟨hvalue, hidentity | ⟨hidentity, hpath⟩⟩ := ParsedOptions.of_seen?_eq_some hseen
    · rw [linkerArguments_eq_plain hidentity, hvalue]
    · obtain ⟨name, value⟩ := seen
      obtain rfl : name = "-I" := hpath
      rw [linkerArguments_eq_plain hidentity]
      rfl
  exact h.symm.collect hnone hsome

end SwiftPlan.Plan

/-! ## Requests -/

namespace SwiftPlan.Driver

variable {surroundings : Surroundings} {kind : BuildKind} {first second : List String}
  {options options' : ParsedOptions} {before before' : List Notice}

/-- The drivers do the same, although the command line of the second one is written in another way:
the settings differ in nothing else, and the plans do not differ. -/
structure Alike (driver driver' : Driver) (options' : ParsedOptions) : Prop where
  settings : ∃ settings, driver.request = .build settings ∧
    driver'.request = .build (settings.reworded options')
  toolchain : driver.toolchain = driver'.toolchain
  plan : driver.plan = driver'.plan

variable {environment : Environment} {arguments own arguments' own' : List String}
  {settings : Settings}

/-- The drivers do the same if outputs go to the same places and the linker is told the same. -/
lemma alike_of_rewords (h : Plan.Rewords settings options')
    (hlinker : Plan.linkerOptions (settings.reworded options') = Plan.linkerOptions settings) :
    Alike (ofSettings environment arguments own settings)
      (ofSettings environment arguments' own' (settings.reworded options')) options' := by
  have hjobs : Plan.ofSettings (settings.reworded options') = Plan.ofSettings settings :=
    Plan.ofSettings_reworded h fun _ _ _ _ => Plan.linkJob_reworded hlinker
  refine ⟨⟨settings, rfl, rfl⟩, rfl, ?_⟩
  simp only [plan, plainJobs, ofSettings, hjobs]
  rfl

lemma alike_ofSettings (h : ParsedOptions.Agree [] settings.options options') :
    Alike (ofSettings environment arguments own settings)
      (ofSettings environment arguments' own' (settings.reworded options')) options' :=
  alike_of_rewords (Plan.rewords_of_agree (h.mono (List.nil_subset _)))
    (Plan.linkerOptions_reworded (h.mono (List.nil_subset _)))

/-- **Spelling and order do not matter.**  Requests whose command lines look alike fail in the same
way, or come to settings that differ in the wording of the command line only, and to the same plan.
The notices are the same behind those that are made in expanding response files. -/
theorem alike_of_agree (hfirst : Reads surroundings first kind options before)
    (hsecond : Reads surroundings second kind options' before')
    (hagree : ParsedOptions.Agree [] options options') (environment : Environment) :
    ∃ rest,
      (ofArguments surroundings environment first).notices = before ++ rest ∧
        (ofArguments surroundings environment second).notices = before' ++ rest ∧
        ((∃ failure, (ofArguments surroundings environment first).outcome = .error failure ∧
            (ofArguments surroundings environment second).outcome = .error failure) ∨
          ∃ driver driver', (ofArguments surroundings environment first).outcome = .ok driver ∧
            (ofArguments surroundings environment second).outcome = .ok driver' ∧
            Alike driver driver' options') := by
  obtain ⟨expanded, own, -, hdriver⟩ := hfirst.ofArguments_eq environment
  obtain ⟨expanded', own', -, hdriver'⟩ := hsecond.ofArguments_eq environment
  have hlate : ParsedOptions.Agree lateOptions options options' := hagree.mono (List.nil_subset _)
  have hresolve : Settings.resolveOptions surroundings kind options' =
      (·.reworded options') <$> Settings.resolveOptions surroundings kind options :=
    Settings.resolveOptions_eq_map hlate hfirst.known hsecond.known (hagree.lastValue? (by decide))
  rw [hdriver, hdriver', hresolve, map_eq_pure_bind, bind_assoc]
  cases hsettings : Settings.resolveOptions surroundings kind options with
  | mk notices outcome =>
    refine ⟨notices, ?_⟩
    cases outcome with
    | error failure => exact ⟨rfl, rfl, .inl ⟨failure, rfl, rfl⟩⟩
    | ok settings =>
      have hoptions : settings.options = options :=
        Settings.options_of_resolveOptions (congrArg Diagnosed.outcome hsettings)
      have hsame : ParsedOptions.Agree [] settings.options options' := hoptions ▸ hagree
      have hnotices (notes : List Notice) : notes ++ (notices ++ []) = notes ++ notices :=
        congrArg (notes ++ ·) (List.append_nil notices)
      exact ⟨hnotices before, hnotices before', .inr ⟨_, _, rfl, rfl, alike_ofSettings hsame⟩⟩

/-- Other spellings of all options, and the inputs at other places. -/
theorem alike_of_agree_of_spellings :
    let first := ["swiftc", "-c", "-wmo", "-Iinclude", "a.swift", "b.swift", "-ox.o"]
    let second := ["swiftc", "a.swift", "-emit-object", "-whole-module-optimization", "b.swift",
      "-I=include", "-o", "x.o"]
    ∃ options options', Reads .bare first .batch options [] ∧
      Reads .bare second .batch options' [] ∧ ParsedOptions.Agree [] options options' ∧
      ∃ driver driver', (ofArguments .bare [] first).outcome = .ok driver ∧
        (ofArguments .bare [] second).outcome = .ok driver' ∧ Alike driver driver' options' := by
  intro first second
  obtain ⟨options, options', hfirst, hsecond, hagree⟩ :
      ∃ options options', Reads .bare first .batch options [] ∧
        Reads .bare second .batch options' [] ∧ ParsedOptions.Agree [] options options' :=
    exists_reads_of_any (by decide +kernel) (by decide +kernel) (by decide +kernel)
      (by decide +kernel) (by decide +kernel)
  have hbuilt : ((built? (ofPlainArguments .bare [] first)).any fun _ => true) = true := by
    decide +kernel
  obtain ⟨driver, -, -, hdriver, -⟩ := exists_of_any_built (by decide +kernel) hbuilt
  obtain ⟨rest, -, -, ⟨failure, hfailure, -⟩ | hdrivers⟩ :=
    alike_of_agree hfirst hsecond hagree []
  · simp [hdriver] at hfailure
  · exact ⟨options, options', hfirst, hsecond, hagree, hdrivers⟩

/-- Two response files that name themselves, and a file whose only byte begins no character. -/
def withSelfReferences : Surroundings :=
  ⟨.ofMachine "/work" [("x", "a.swift @x".toUTF8), ("y", "-g @y".toUTF8), ("m", ⟨#[0xff]⟩)],
    ⟨"Linux", "x86_64", ""⟩⟩

/-- A file that names itself behind a word is noted, and the word is left. -/
lemma expand_selfReference {fs : FileSystem} {reference name word : String}
    {text : List Char} (hname : Text.after? "@" reference = some name)
    (hread : fs.readText? name = some text)
    (hwords : ResponseFile.tokens text = .ok [word, reference])
    (hword : Text.after? "@" word = none) (rest : List String) :
    ResponseFile.expand fs (reference :: rest) = (do
      Diagnosed.note (.responseFileCycle name)
      return word :: (← ResponseFile.expand fs rest)) := by
  have hinner : ResponseFile.expandIn fs [fs.locate name] [word, reference] = (do
      Diagnosed.note (.responseFileCycle name)
      return [word]) := by
    rw [ResponseFile.expandIn_word hword,
      ResponseFile.expandIn_active hname (FileSystem.isName_of_readText? hread)
        (List.mem_singleton_self _),
      ResponseFile.expandIn_nil]
    rfl
  rw [ResponseFile.expand, ResponseFile.expandIn_splittable hname List.not_mem_nil hread hwords,
    hinner, ResponseFile.expand]
  simp only [bind_assoc, pure_bind, List.cons_append, List.nil_append]

/-- The notices on response files depend on where these are named, and on nothing that is seen of
the command line. -/
lemma exists_agree_expansions_differ :
    ∃ options options' before before',
      Reads withSelfReferences ["swiftc", "@x", "@y"] .batch options before ∧
        Reads withSelfReferences ["swiftc", "@y", "@x"] .batch options' before' ∧
        ParsedOptions.Agree [] options options' ∧
        (ofArguments withSelfReferences [] ["swiftc", "@x", "@y"]).notices ≠
          (ofArguments withSelfReferences [] ["swiftc", "@y", "@x"]).notices := by
  have hreadx : withSelfReferences.fileSystem.readText? "x" = some "a.swift @x".toList := by
    decide +kernel
  have hready : withSelfReferences.fileSystem.readText? "y" = some "-g @y".toList := by
    decide +kernel
  have hwordsx : ResponseFile.tokens "a.swift @x".toList = .ok ["a.swift", "@x"] := by
    decide +kernel
  have hwordsy : ResponseFile.tokens "-g @y".toList = .ok ["-g", "@y"] := by decide +kernel
  have hx := expand_selfReference (by decide +kernel) hreadx hwordsx (by decide +kernel)
  have hy := expand_selfReference (by decide +kernel) hready hwordsy (by decide +kernel)
  have hname (rest : List String) :
      ResponseFile.expand withSelfReferences.fileSystem ("swiftc" :: rest) =
        ("swiftc" :: ·) <$> ResponseFile.expand withSelfReferences.fileSystem rest :=
    ResponseFile.expandIn_word (by decide +kernel)
  have hend : ResponseFile.expand withSelfReferences.fileSystem [] = pure [] :=
    ResponseFile.expandIn_nil
  have hxy : ResponseFile.expand withSelfReferences.fileSystem ["swiftc", "@x", "@y"] =
      ⟨[.responseFileCycle "x", .responseFileCycle "y"], .ok ["swiftc", "a.swift", "-g"]⟩ := by
    rw [hname, hx, hy, hend]
    rfl
  have hyx : ResponseFile.expand withSelfReferences.fileSystem ["swiftc", "@y", "@x"] =
      ⟨[.responseFileCycle "y", .responseFileCycle "x"], .ok ["swiftc", "-g", "a.swift"]⟩ := by
    rw [hname, hy, hx, hend]
    rfl
  have hany : ((OptionTable.standard.parse ["a.swift", "-g"]).toOption.any fun options =>
      (OptionTable.standard.parse ["-g", "a.swift"]).toOption.any fun options' =>
        decide (ParsedOptions.Agree [] options options')) = true := by
    decide +kernel
  obtain ⟨options, hparse, hany⟩ := (Option.any_eq_true _ _).1 hany
  obtain ⟨options', hparse', hsame⟩ := (Option.any_eq_true _ _).1 hany
  have hfirst : Reads withSelfReferences ["swiftc", "@x", "@y"] .batch options _ :=
    ⟨_, _, hxy, by decide +kernel, toOption_eq_some.1 hparse⟩
  have hsecond : Reads withSelfReferences ["swiftc", "@y", "@x"] .batch options' _ :=
    ⟨_, _, hyx, by decide +kernel, toOption_eq_some.1 hparse'⟩
  refine ⟨options, options', _, _, hfirst, hsecond, of_decide_eq_true hsame, ?_⟩
  obtain ⟨expanded, own, -, hdriver⟩ := hfirst.ofArguments_eq []
  obtain ⟨expanded', own', -, hdriver'⟩ := hsecond.ofArguments_eq []
  rw [hdriver, hdriver']
  intro hnotices
  have hhead := congrArg List.head? hnotices
  simp [Diagnosed.noteAll] at hhead

/-- Command lines that look alike need not be noted alike, if they name response files, and what
they fail with need not be an error of the driver. -/
theorem exists_agree_notices_differ :
    (∃ options options' before before',
      Reads withSelfReferences ["swiftc", "@x", "@y"] .batch options before ∧
        Reads withSelfReferences ["swiftc", "@y", "@x"] .batch options' before' ∧
        ParsedOptions.Agree [] options options' ∧
        (ofArguments withSelfReferences [] ["swiftc", "@x", "@y"]).notices ≠
          (ofArguments withSelfReferences [] ["swiftc", "@y", "@x"]).notices) ∧
      let first := ["swiftc", "a.swift", "-output-file-map", "m"]
      let second := ["swiftc", "-output-file-map", "m", "a.swift"]
      ∃ options options' failure, Reads withSelfReferences first .batch options [] ∧
        Reads withSelfReferences second .batch options' [] ∧
        ParsedOptions.Agree [] options options' ∧
        (ofArguments withSelfReferences [] first).outcome = .error failure ∧
        (ofArguments withSelfReferences [] second).outcome = .error failure ∧
        ∀ error, failure ≠ .driver error := by
  refine ⟨exists_agree_expansions_differ, ?_⟩
  intro first second
  have hplain : ResponseFile.Plain first := by decide +kernel
  have hplain' : ResponseFile.Plain second := by decide +kernel
  obtain ⟨options, options', hfirst, hsecond, hagree⟩ :
      ∃ options options', Reads withSelfReferences first .batch options [] ∧
        Reads withSelfReferences second .batch options' [] ∧
        ParsedOptions.Agree [] options options' :=
    exists_reads_of_any hplain hplain' (by decide +kernel) (by decide +kernel) (by decide +kernel)
  refine ⟨options, options', .notText, hfirst, hsecond, hagree, ?_, ?_, fun error hsame => ?_⟩
  · rw [ofArguments_of_plain hplain]
    decide +kernel
  · rw [ofArguments_of_plain hplain']
    decide +kernel
  · cases hsame

end SwiftPlan.Driver
