import SwiftPlan.Proofs.Plan.Canonical
import SwiftPlan.Proofs.Plan.LinkerOptions
import SwiftPlan.Proofs.Settings.Appended

/-!
# Naming the default output

A link that is not told where its output goes names it after the module, and a build that is not
told the name of its module names it after the output.  The two are inverse.  If the name of the
module is an identifier, then the file of its default product has the name of the module between
`lib` and an extension, or nothing around it, and is taken apart accordingly
(`suggested_defaultProductName`).

So a command line that names the default output changes nothing.  Three places ask for the output,
and each of them finds what it would have made up: the product goes to the same file, the module
goes beside it and thereby into the same directory, even if that is the root, and the name that the
output suggests is the one that the module has.
-/

namespace SwiftPlan

open LexicalPath

variable {settings : Settings} {options : ParsedOptions} {product : LinkProduct}

/-! ## Taking the name apart -/

lemma LexicalPath.stem_of_dot_notMem {text : String} (h : '.' ∉ text.toList) :
    LexicalPath.stem text = text := by
  rw [LexicalPath.stem,
    splitExtensionChars_fst_of_none (splitExtensionChars_snd_of_dot_notMem h),
    String.ofList_toList]

lemma ModuleName.ofLibrary_append {name : String} (h : name ≠ "") :
    ofLibrary ("lib" ++ name) = name := by
  rw [ofLibrary, Text.after?_append]
  simp [h]

lemma BuildGoal.eq_link {goal : BuildGoal} (h : goal.product? = some product) :
    goal = .link product := by
  cases goal with
  | link other => exact congrArg link (Option.some.inj h)
  | objects | module | noFiles => cases h

/-- The name of what is linked comes from the output, unless there is one input. -/
lemma ModuleName.suggested_link {inputs : List TypedPath} (hinputs : inputs.length ≠ 1) :
    suggested options (.link product) inputs =
      match options.lastValue? ["-o"] with
      | some output => do
        let stem := (← VirtualPath.ofText output).stem
        return if product.isLibrary then ofLibrary stem else stem
      | none => .ok fallback := by
  unfold suggested
  generalize options.lastValue? ["-o"] = output
  match inputs, output with
  | [input], _ => exact absurd rfl hinputs
  | [], some _ | [], none | _ :: _ :: _, some _ | _ :: _ :: _, none => rfl

/-- A module that is not given a name has the one that is suggested for it. -/
lemma ModuleName.outcome_resolve_of_suggested {mode : CompilerMode} {goal : BuildGoal}
    {inputs : List TypedPath} {name : String} (hmode : mode ≠ .repl)
    (hnone : options.lastValue? ["-module-name"] = none)
    (h : suggested options goal inputs = .ok name) :
    (resolve options (some mode) goal inputs).outcome = .ok (orFallback name) := by
  rw [resolve, hnone]
  dsimp only
  rw [if_neg (by simpa using hmode), h]
  rfl

lemma VirtualPath.stem_of_isEnding {kind : PathKind} {file : String} (h : IsEnding file.toList)
    (hstream : kind.isStream = false) :
    VirtualPath.stem ⟨kind, file⟩ = LexicalPath.stem file := by
  have hbase : LexicalPath.base file = file := by
    rw [LexicalPath.base, baseChars, splitAtLast?_eq_none h.1, String.ofList_toList]
  simp [VirtualPath.stem, VirtualPath.base, isStream, hstream, hbase]

lemma VirtualPath.relative_of_isEnding {file : String} (h : IsEnding file.toList) :
    relative file = .ok ⟨.relative, file⟩ := by
  have hnormal : LexicalPath.normalize file = file := by
    apply normalize_eq_self_iff.2
    exact normalizeChars_of_isFileName (h.isFileName List.not_mem_nil)
  rw [relative, if_pos (isUnrooted_of_isEnding h), hnormal]

lemma VirtualPath.ofText_of_isEnding {file : String} (h : IsEnding file.toList)
    (hdash : file ≠ "-") : ofText file = .ok ⟨.relative, file⟩ := by
  have hrooted : isRooted file = false := isRooted_of_isUnrooted (isUnrooted_of_isEnding h)
  rw [ofText, if_neg hdash, if_neg (by simp [hrooted]), relative_of_isEnding h]

namespace Plan

section

variable (hname : Text.isIdentifier settings.moduleName = true)

include hname

/-- The default product begins like an identifier. -/
lemma exists_head_defaultProductName (product : LinkProduct) :
    ∃ c rest, (defaultProductName settings product).toList = c :: rest ∧
      Text.isIdentifierContinue c = true := by
  rcases defaultProductName_eq settings product with ⟨-, ext, -, hfile⟩ | ⟨-, hfile⟩
  · refine ⟨'l', ('i' :: 'b' :: settings.moduleName.toList) ++ '.' :: ext.toList, ?_, by decide⟩
    rw [hfile]
    simp
  · obtain ⟨hne, hall⟩ := Text.isIdentifierChars_all hname
    obtain ⟨c, rest, hchars⟩ := List.exists_cons_of_ne_nil hne
    refine ⟨c, rest, by rw [hfile, hchars], hall c ?_⟩
    rw [hchars]
    exact List.mem_cons_self

/-- So it is neither a dash nor a response file. -/
lemma defaultProductName_ne_append {lead : Char} (hlead : Text.isIdentifierContinue lead = false)
    (rest : String) : defaultProductName settings product ≠ String.singleton lead ++ rest := by
  intro hsame
  obtain ⟨c, others, hchars, hc⟩ := exists_head_defaultProductName hname product
  rw [hsame, String.toList_append, String.toList_singleton] at hchars
  obtain rfl : lead = c := (List.cons.inj hchars).1
  simp [hlead] at hc

lemma defaultProductName_ne_dash (product : LinkProduct) :
    defaultProductName settings product ≠ "-" := by
  have hdash : Text.isIdentifierContinue '-' = false := by decide
  exact defaultProductName_ne_append hname hdash ""

lemma plain_defaultProductName (product : LinkProduct) :
    ResponseFile.Plain ["-o", defaultProductName settings product] := by
  have hmark : Text.isIdentifierContinue '@' = false := by decide
  have hfile : Text.after? "@" (defaultProductName settings product) = none := by
    rw [Option.eq_none_iff_forall_not_mem]
    intro rest hrest
    exact defaultProductName_ne_append hname hmark rest (Text.after?_eq_some_iff.1 hrest)
  intro argument hargument
  rcases List.mem_pair.1 hargument with rfl | rfl
  · decide
  · exact hfile

/-- The name of the module is read off the default product in the way that fits the product. -/
lemma stem_defaultProductName (product : LinkProduct) :
    let stem := VirtualPath.stem ⟨.relative, defaultProductName settings product⟩
    (if product.isLibrary then ModuleName.ofLibrary stem else stem) = settings.moduleName := by
  intro stem
  have hstem : stem = LexicalPath.stem (defaultProductName settings product) :=
    VirtualPath.stem_of_isEnding (isEnding_defaultProductName hname product) rfl
  rcases defaultProductName_eq settings product with ⟨hlibrary, ext, hext, hfile⟩ | ⟨rfl, hfile⟩
  · have hbare : LexicalPath.stem ("" ++ ("lib" ++ settings.moduleName ++ "." ++ ext)) =
        "" ++ ("lib" ++ settings.moduleName) :=
      stem_append_of_isEnding (isEnding_library hname)
        (isExtension_of_mem_libraryExtensions ext hext)
    have hne : settings.moduleName ≠ "" := by
      intro hempty
      exact (Text.isEnding_of_isIdentifier hname).ne_nil (by simp [hempty])
    rw [String.empty_append, String.empty_append] at hbare
    -- the extension comes off first and one `lib` after it, so that a module may be called `libA`
    rw [if_pos hlibrary, hstem, hfile, hbare]
    exact ModuleName.ofLibrary_append hne
  · rw [if_neg (by decide), hstem, hfile]
    exact LexicalPath.stem_of_dot_notMem (Text.dot_notMem_of_isIdentifier hname)

/-- The default product suggests the name of the module, if more than one input or none leaves that
to it. -/
lemma suggested_defaultProductName (hgoal : settings.goal = .link product)
    (hinputs : settings.inputs.length ≠ 1)
    (houtput : options.lastValue? ["-o"] = some (defaultProductName settings product)) :
    ModuleName.suggested options settings.goal settings.inputs = .ok settings.moduleName := by
  have hpath : VirtualPath.ofText (defaultProductName settings product) =
      .ok ⟨.relative, defaultProductName settings product⟩ :=
    VirtualPath.ofText_of_isEnding (isEnding_defaultProductName hname product)
      (defaultProductName_ne_dash hname product)
  have hstem := stem_defaultProductName hname product
  rw [hgoal, ModuleName.suggested_link hinputs, houtput]
  simp only [hpath]
  exact congrArg Except.ok hstem

end

/-! ## Giving the name -/

/-- The command line gives the product of a build the name that it has by default.  Nothing else is
seen of it, but for the name of the module. -/
structure NamesProduct (settings : Settings) (product : LinkProduct) (options : ParsedOptions) :
    Prop where
  goal : settings.goal = .link product
  identifier : Text.isIdentifier settings.moduleName = true
  unnamed : settings.options.lastValue? ["-o"] = none
  named : options.lastValue? ["-o"] = some (defaultProductName settings product)
  agree : ParsedOptions.Agree ["-o", "-module-name"] settings.options options

namespace NamesProduct

variable (h : NamesProduct settings product options)

include h

/-- The product goes to the same file, and objects are temporary. -/
lemma rewords : Rewords settings options := by
  have hpath : VirtualPath.ofText (defaultProductName settings product) =
      VirtualPath.relative (defaultProductName settings product) := by
    have hending := isEnding_defaultProductName h.identifier product
    rw [VirtualPath.ofText_of_isEnding hending (defaultProductName_ne_dash h.identifier product),
      VirtualPath.relative_of_isEnding hending]
  refine ⟨h.agree.mono (by decide), fun unit => ?_, fun other hother => ?_⟩
  · have hscratch (options : ParsedOptions) : unit.objectPath (settings.reworded options) =
        unit.scratchFile settings .object := by
      have hlinked : (settings.reworded options).goal.product?.isSome = true := by
        rw [Settings.reworded, h.goal]
        rfl
      rw [CompileUnit.objectPath, if_pos hlinked]
      rfl
    exact (hscratch options).trans (hscratch settings.options).symm
  · rw [h.goal] at hother
    obtain rfl : product = other := Option.some.inj hother
    rw [productPath, productPath, h.unnamed, Settings.reworded, h.named]
    dsimp only
    rw [if_neg (defaultProductName_ne_dash h.identifier product), Settings.path, resolvePath, hpath]

/-- Without one input the name of the module is that of the product, if a module can have it. -/
lemma moduleName_of_unnamed (hmode : settings.mode ≠ .repl) (hinputs : settings.inputs.length ≠ 1)
    (hother : settings.moduleName ≠ ModuleName.standardLibrary)
    (hnone : options.lastValue? ["-module-name"] = none) :
    (ModuleName.resolve options (some settings.mode) settings.goal settings.inputs).outcome =
      .ok settings.moduleName := by
  have hsuggested := suggested_defaultProductName h.identifier h.goal hinputs h.named
  have hkept : ModuleName.orFallback settings.moduleName = settings.moduleName :=
    if_pos ⟨h.identifier, hother⟩
  rw [ModuleName.outcome_resolve_of_suggested hmode hnone hsuggested, hkept]

variable {surroundings : Surroundings} {arguments : List String}
  (hresolved : settings.Resolved surroundings arguments)

include hresolved

/-- The module goes into the directory of the product, which is the working directory, and without
an output it goes into the working directory. -/
lemma besideOutput_eq :
    ModuleOutput.besideOutput options settings.moduleName settings.goal
        settings.workingDirectory =
      ModuleOutput.besideOutput settings.options settings.moduleName settings.goal
        settings.workingDirectory := by
  have hfile := isEnding_defaultProductName h.identifier product
  have hmodule := isEnding_fileName h.identifier
  have hdash := defaultProductName_ne_dash h.identifier product
  have hpath : resolvePath settings.workingDirectory (defaultProductName settings product) =
      .ok (.anchored settings.workingDirectory (defaultProductName settings product)) := by
    rw [← VirtualPath.anchored_of_isEnding hresolved.isAnchor hfile, resolvePath,
      VirtualPath.ofText_of_isEnding hfile hdash, VirtualPath.relative_of_isEnding hfile]
  have hgoal : settings.goal ≠ .module := by simp [h.goal]
  rw [ModuleOutput.besideOutput, ModuleOutput.besideOutput, h.unnamed, h.named,
    Option.filter_some, if_pos (by simpa using hdash)]
  dsimp only [Option.filter_none]
  rw [hpath, VirtualPath.anchored_of_isEnding hresolved.isAnchor hmodule]
  -- the module would take the place of the output only if it were all that is built
  show (if settings.goal = .module then _ else _) = _
  rw [if_neg hgoal]
  exact VirtualPath.sibling_anchored hresolved.isAnchor
    (fun _ => canonical_workingDirectory hresolved) (hfile.isFileName List.not_mem_nil)
    (hmodule.isFileName List.not_mem_nil)

/-- A name that is given is taken, one input gives the name in any case, and where there was nothing
to give it the module is called `main`. -/
lemma moduleName_of_same (hmode : settings.mode ≠ .repl)
    (hsame : options.lastValue? ["-module-name"] = settings.options.lastValue? ["-module-name"]) :
    (ModuleName.resolve options (some settings.mode) settings.goal settings.inputs).outcome =
      .ok settings.moduleName := by
  have hname := hresolved.moduleName
  cases hgiven : settings.options.lastValue? ["-module-name"] with
  | some name =>
    rw [ModuleName.resolve, hgiven] at hname
    rw [ModuleName.resolve, hsame, hgiven]
    exact hname
  | none =>
    rw [hgiven] at hsame
    by_cases hinputs : settings.inputs.length = 1
    · obtain ⟨input, hinput⟩ := List.length_eq_one_iff.1 hinputs
      rw [ModuleName.resolve, hgiven, hinput] at hname
      rw [ModuleName.resolve, hsame, hinput]
      exact hname
    · -- nothing gives the name, and `main` is not that of the standard library
      have hnothing : ModuleName.suggested settings.options settings.goal settings.inputs =
          .ok ModuleName.fallback := by
        rw [h.goal, ModuleName.suggested_link hinputs, h.unnamed]
      have hmain : settings.moduleName = ModuleName.orFallback ModuleName.fallback := by
        rw [ModuleName.outcome_resolve_of_suggested hmode hgiven hnothing] at hname
        exact (Except.ok.inj hname).symm
      refine h.moduleName_of_unnamed hmode hinputs ?_ hsame
      rw [hmain]
      decide +kernel

end NamesProduct

end Plan

/-! ## Requests -/

/-- The option that says where the output goes. -/
def ParsedOption.output (file : String) : ParsedOption :=
  .option { spelling := "-o", shape := .joinedOrSeparate, isPath := true } (.text file)

lemma OptionTable.parse_output (file : String) :
    standard.parse ["-o", file] = .ok ⟨[.output file], none⟩ := by
  have hreadable : Readable standard (.output file) :=
    readable_separated (by decide +kernel) (by decide +kernel) rfl file
  rw [show ["-o", file] = (ParsedOption.output file).tokens ++ [] from rfl, hreadable, parse]
  rfl

namespace ParsedOptions

/-- The command line with an output at its end. -/
def withOutput (options : ParsedOptions) (file : String) : ParsedOptions :=
  options.followedBy ⟨[.output file], none⟩

lemma lastValue?_withOutput (options : ParsedOptions) (file : String) :
    (options.withOutput file).lastValue? ["-o"] = some file := by
  have hall : (options.withOutput file).allOf ["-o"] = options.allOf ["-o"] ++ [.output file] :=
    List.filter_append _ _
  rw [lastValue?, last?, hall, List.getLast?_concat]
  rfl

lemma sameBut_withOutput (htail : options.tail = none) (file : String) :
    SameBut ["-o"] options (options.withOutput file) where
  options := by
    rw [withOutput, followedBy, List.filter_append]
    exact (List.append_nil _).symm
  tail := htail

end ParsedOptions

namespace Driver

variable {surroundings : Surroundings} {environment : Environment}
  {arguments request second : List String} {driver : Driver} {options' : ParsedOptions}
  {before' : List Notice}

/-- The request comes to a driver that does the same. -/
def HasAlike (surroundings : Surroundings) (environment : Environment) (driver : Driver)
    (request : List String) : Prop :=
  ∃ driver' options', (ofArguments surroundings environment request).outcome = .ok driver' ∧
    Alike driver driver' options'

lemma hasAlike_of_namesProduct (h : Plan.NamesProduct settings product options')
    (hresolved : settings.Resolved surroundings arguments)
    (hdriver : driver = ofSettings environment driver.arguments driver.ownArguments settings)
    (hsecond : Reads surroundings second settings.kind options' before')
    (hname : (ModuleName.resolve options' (some settings.mode) settings.goal
      settings.inputs).outcome = .ok settings.moduleName) :
    HasAlike surroundings environment driver second := by
  obtain ⟨expanded, own, hparse, hsecond⟩ := hsecond.ofArguments_eq environment
  have hreworded : (settings.reworded options').Resolved surroundings own :=
    hresolved.reworded hparse h.rewords.agree hname (h.besideOutput_eq hresolved)
  have houtcome : (Settings.resolveOptions surroundings settings.kind options').outcome =
      .ok (settings.reworded options') := by
    rw [← Settings.resolve_of_parse hparse]
    exact resolve_eq_ok.2 ⟨rfl, hreworded⟩
  refine ⟨ofSettings environment expanded own (settings.reworded options'), options', ?_, ?_⟩
  · rw [hsecond]
    simp only [Diagnosed.outcome_bind_eq_ok, Diagnosed.outcome_noteAll, Diagnosed.outcome_pure]
    exact ⟨(), trivial, _, houtcome, rfl⟩
  · rw [hdriver]
    exact alike_of_rewords h.rewords (Plan.linkerOptions_reworded h.agree)

/-- **The default output can be named.**  Take a build that links, in standard or single mode,
without being told where to, and whose module is called by an identifier.  If it is told the default
output at its end, or anywhere, then it comes to the same settings and the same plan.  It does so
even if no name of the module is given any more, if there are several inputs and the module is not
called like the standard library. -/
theorem hasAlike_of_defaultOutput
    (hdriver : (ofArguments surroundings environment request).outcome = .ok driver)
    (hrequest : driver.request = .build settings)
    (hproduct : settings.goal.product? = some product)
    (hmode : settings.mode = .standard ∨ settings.mode = .single)
    (hunnamed : settings.options.lastValue? ["-o"] = none)
    (hname : Text.isIdentifier settings.moduleName = true) :
    let file := Plan.defaultProductName settings product
    (settings.options.tail = none →
      HasAlike surroundings environment driver (request ++ ["-o", file])) ∧
    ∀ second options' before', Reads surroundings second settings.kind options' before' →
      options'.lastValue? ["-o"] = some file →
      (ParsedOptions.SameBut ["-o"] settings.options options' →
        HasAlike surroundings environment driver second) ∧
      (ParsedOptions.SameBut ["-o", "-module-name"] settings.options options' →
        options'.lastValue? ["-module-name"] = none → 2 ≤ settings.inputs.length →
        settings.moduleName ≠ ModuleName.standardLibrary →
        HasAlike surroundings environment driver second) := by
  intro file
  obtain ⟨⟨before, hreads⟩, hsettings⟩ := reads_of_ofArguments hdriver hrequest
  have hresolved : settings.Resolved surroundings driver.ownArguments :=
    resolved_of_ofArguments hdriver hrequest
  have hrepl : settings.mode ≠ .repl := by
    rcases hmode with hmode | hmode <;> simp [hmode]
  have hnames {options' : ParsedOptions} (hnamed : options'.lastValue? ["-o"] = some file)
      (hagree : ParsedOptions.Agree ["-o", "-module-name"] settings.options options') :
      Plan.NamesProduct settings product options' :=
    ⟨BuildGoal.eq_link hproduct, hname, hunnamed, hnamed, hagree⟩
  have htold {second : List String} {options' : ParsedOptions} {before' : List Notice}
      (hsecond : Reads surroundings second settings.kind options' before')
      (hnamed : options'.lastValue? ["-o"] = some file)
      (hsame : ParsedOptions.SameBut ["-o"] settings.options options') :
      HasAlike surroundings environment driver second := by
    have hagree : ParsedOptions.Agree ["-o"] settings.options options' := hsame.agree (by decide)
    have h := hnames hnamed (hagree.mono (by decide))
    exact hasAlike_of_namesProduct h hresolved hsettings hsecond
      (h.moduleName_of_same hresolved hrepl (hagree.symm.lastValue? (by decide)))
  refine ⟨?_, ?_⟩
  · intro htail
    have hordinary : ∀ argument ∈ ["-o", file].head?, Invocation.IsOrdinary argument := by
      intro argument hargument
      obtain rfl := Option.some.inj hargument
      decide
    have hsecond : Reads surroundings (request ++ ["-o", file]) settings.kind
        (settings.options.withOutput file) before :=
      hreads.append htail (Plan.plain_defaultProductName hname product) hordinary
        (OptionTable.parse_output file)
    exact htold hsecond (ParsedOptions.lastValue?_withOutput _ file)
      (ParsedOptions.sameBut_withOutput htail file)
  · intro second options' before' hsecond hnamed
    refine ⟨htold hsecond hnamed, ?_⟩
    intro hsame hnone hinputs hother
    have h := hnames hnamed (hsame.agree (by decide))
    exact hasAlike_of_namesProduct h hresolved hsettings hsecond
      (h.moduleName_of_unnamed hrepl (by omega) hother hnone)

/-- The module of a library is called like a library itself, and everything is built below a root of
two slashes. -/
theorem hasAlike_of_defaultOutput_of_slashes :
    let request := ["swiftc", "-emit-library", "-emit-module", "-working-directory", "//",
      "a.swift", "b.swift"]
    ∃ driver, (ofArguments .bare [] (request ++ ["-module-name", "libA"])).outcome = .ok driver ∧
      HasAlike .bare [] driver (request ++ ["-module-name", "libA"] ++ ["-o", "liblibA.so"]) ∧
      HasAlike .bare [] driver (request ++ ["-o", "liblibA.so"]) := by
  intro request
  let second := request ++ ["-o", "liblibA.so"]
  have hany : (built? (ofPlainArguments .bare [] (request ++ ["-module-name", "libA"]))).any
      (fun built => decide (built.1.kind = .batch ∧
          built.1.goal.product? = some .dynamicLibrary ∧ built.1.mode = .standard ∧
          built.1.options.lastValue? ["-o"] = none ∧ built.1.options.tail = none ∧
          built.1.moduleName = "libA" ∧ built.1.inputs.length = 2 ∧
          Plan.defaultProductName built.1 .dynamicLibrary = "liblibA.so") &&
        (OptionTable.standard.parse second.tail).toOption.any fun options' =>
          decide (ParsedOptions.SameBut ["-o", "-module-name"] built.1.options options' ∧
            options'.lastValue? ["-o"] = some "liblibA.so" ∧
            options'.lastValue? ["-module-name"] = none)) = true := by
    decide +kernel
  obtain ⟨driver, settings, jobs, hdriver, hrequest, -, hproperty⟩ :=
    exists_of_any_built (by decide +kernel) hany
  simp only [Bool.and_eq_true, decide_eq_true_eq] at hproperty
  obtain ⟨⟨hkind, hproduct, hmode, hunnamed, htail, hmodule, hinputs, hfile⟩, hsecond⟩ := hproperty
  obtain ⟨options', hparse, hoptions⟩ := (Option.any_eq_true _ _).1 hsecond
  obtain ⟨hsame, hnamed, hnone⟩ := of_decide_eq_true hoptions
  have hreads : Reads .bare second settings.kind options' [] :=
    reads_of_plain (by decide +kernel) (by rw [hkind]; decide +kernel) (toOption_eq_some.1 hparse)
  have hname : Text.isIdentifier settings.moduleName = true := by
    rw [hmodule]
    decide +kernel
  obtain ⟨hend, hanywhere⟩ :=
    hasAlike_of_defaultOutput hdriver hrequest hproduct (.inl hmode) hunnamed hname
  rw [hfile] at hend hanywhere
  refine ⟨driver, hdriver, hend htail, ?_⟩
  refine (hanywhere second options' [] hreads hnamed).2 hsame hnone (by omega) ?_
  rw [hmodule]
  decide

end Driver

end SwiftPlan
