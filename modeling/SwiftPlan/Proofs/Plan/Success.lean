import SwiftPlan.Proofs.Plan.Shape
import SwiftPlan.Proofs.Plan.Stems
import SwiftPlan.Proofs.Settings.Paths

/-!
# Plans that succeed

To plan a build means to make paths: from the values of options, from the name of the module and
from the names of the sources.  A path cannot be made from an empty text, and a name that goes into
the scratch directory must not begin at the root.  If the name of the module is an identifier and
the values of the options that are read as paths are not empty (`Settings.Sound`), then none of this
goes wrong (`plan_succeeds`).

Nothing can be written beside a standard stream, so whatever is named after another file must not be
named after a stream.  The file of the module is never one (`isStream_moduleFiles`), and beside a
compiled object that goes to one nothing is written.
-/

namespace SwiftPlan

/-- The options whose values are made into paths when a build is planned. -/
def pathOptions : List String :=
  ["-o", "-I", "-I=", "-F", "-L", "-sdk", "-api-diff-data-file", "-import-objc-header"]

/-- The module has a proper name, and no path is written as an empty text. -/
structure Settings.Sound (settings : Settings) : Prop where
  moduleName : Text.isIdentifier settings.moduleName = true
  paths : ∀ parsed ∈ settings.options.options, ∀ identity ∈ parsed.identity?,
    identity ∈ pathOptions → parsed.value ≠ ""

instance : DecidablePred Settings.Sound := fun settings =>
  decidable_of_iff
    (Text.isIdentifier settings.moduleName = true ∧
      ∀ parsed ∈ settings.options.options, ∀ identity ∈ parsed.identity?,
        identity ∈ pathOptions → parsed.value ≠ "")
    ⟨fun ⟨hname, hpaths⟩ => ⟨hname, hpaths⟩, fun h => ⟨h.moduleName, h.paths⟩⟩

lemma ParsedOptions.exists_of_lastValue? {parsed : ParsedOptions} {name value : String}
    (h : parsed.lastValue? [name] = some value) :
    ∃ element ∈ parsed.options, name ∈ element.identity? ∧ element.value = value := by
  obtain ⟨element, hlast, hvalue⟩ := Option.map_eq_some_iff.1 h
  obtain ⟨hmem, hone⟩ := List.mem_filter.1 (List.mem_of_getLast? hlast)
  obtain ⟨identity, hidentity, hname⟩ := (Option.any_eq_true _ _).1 hone
  obtain rfl : identity = name := by simpa using hname
  exact ⟨element, hmem, hidentity, hvalue⟩

lemma Settings.Sound.lastValue?_ne {settings : Settings} (h : settings.Sound) {name value : String}
    (hname : name ∈ pathOptions) (hvalue : settings.options.lastValue? [name] = some value) :
    value ≠ "" := by
  obtain ⟨element, hmem, hidentity, rfl⟩ := ParsedOptions.exists_of_lastValue? hvalue
  exact h.paths element hmem name hidentity hname

/-! ## Paths -/

section

variable {directory : Option VirtualPath} {path : VirtualPath} {text : String}

/-- Below an absolute directory there is room for every path. -/
lemma succeeds_resolvedIn (hanchor : IsAnchor directory) :
    Succeeds (path.resolvedIn directory) := by
  unfold VirtualPath.resolvedIn
  split
  · next root _ =>
    have hstream : root.isStream = false := by
      simp [VirtualPath.isStream, PathKind.isStream, (hanchor root rfl).1]
    exact ⟨_, VirtualPath.appending_eq_ok.2 ⟨hstream, rfl⟩⟩
  · exact .ok _

lemma succeeds_resolvePath (hanchor : IsAnchor directory) (h : text ≠ "") :
    Succeeds (resolvePath directory text) :=
  (VirtualPath.succeeds_ofText h).bind fun _ _ => succeeds_resolvedIn hanchor

end

namespace Plan

open LexicalPath

variable {surroundings : Surroundings} {arguments : List String} {settings : Settings}
  {unit : CompileUnit} {compiles : List Job} {product : LinkProduct}

/-! ## Options -/

section

variable (hanchor : IsAnchor settings.workingDirectory) (hsound : settings.Sound)

include hanchor hsound

lemma succeeds_path {parsed : ParsedOption} {identity : String}
    (hparsed : parsed ∈ settings.options.options) (hidentity : parsed.identity? = some identity)
    (hpath : identity ∈ pathOptions) : Succeeds (settings.path parsed.value) :=
  succeeds_resolvePath hanchor (hsound.paths parsed hparsed identity hidentity hpath)

lemma succeeds_lastPath {name value : String} (hname : name ∈ pathOptions)
    (hvalue : settings.options.lastValue? [name] = some value) : Succeeds (settings.path value) :=
  succeeds_resolvePath hanchor (hsound.lastValue?_ne hname hvalue)

lemma succeeds_forwarded {parsed : ParsedOption} (hparsed : parsed ∈ settings.options.options) :
    Succeeds (forwarded settings parsed) := by
  rw [forwarded]
  split
  · exact .pure _
  · next identity hidentity =>
    split
    · next flag hflag =>
      have hpath : identity ∈ pathOptions := by
        have hkey := FileSystem.mem_keys_of_lookup hflag
        revert hkey
        simp only [pathOptions, List.map_cons, List.map_nil, List.mem_cons, List.not_mem_nil]
        tauto
      exact (succeeds_path hanchor hsound hparsed hidentity hpath).bind fun _ _ => .pure _
    · split
      · exact .pure _
      · split
        · exact .pure _
        · exact .pure _

lemma succeeds_headerOption : Succeeds (headerOption settings) := by
  rw [headerOption]
  split
  · exact .pure _
  · next value hvalue =>
    exact (succeeds_lastPath hanchor hsound (by decide) hvalue).bind fun _ _ => .pure _

lemma succeeds_frontendOptions : Succeeds (frontendOptions settings) :=
  (Succeeds.mapM fun _ hparsed => succeeds_forwarded hanchor hsound hparsed).bind fun _ _ =>
    (succeeds_headerOption hanchor hsound).bind fun _ _ => .pure _

end

/-- The linker is told the path of a search directory, and everything else as a text. -/
lemma succeeds_linkerArguments {parsed : ParsedOption}
    (hanchor : IsAnchor settings.workingDirectory)
    (hvalue : parsed.identity? = some "-L" → parsed.value ≠ "") :
    Succeeds (linkerArguments settings parsed) := by
  rw [linkerArguments]
  split
  · exact .pure _
  · next identity hidentity =>
    split
    · next hsearch =>
      subst hsearch
      exact (succeeds_resolvePath hanchor (hvalue hidentity)).bind fun _ _ => .pure _
    · split
      · exact .pure _
      · split
        · split <;> exact .pure _
        · exact .pure _

lemma succeeds_linkerOptions (hanchor : IsAnchor settings.workingDirectory)
    (hvalues : ∀ parsed ∈ settings.options.options, parsed.identity? = some "-L" →
      parsed.value ≠ "") : Succeeds (linkerOptions settings) := by
  apply Succeeds.bind
  · exact Succeeds.mapM fun parsed hparsed =>
      succeeds_linkerArguments hanchor (hvalues parsed hparsed)
  · exact fun _ _ => .pure _

/-! ## Compile jobs -/

lemma succeeds_mappedOr {type : FileType} {other : Except PathError VirtualPath}
    (h : Succeeds other) : Succeeds (unit.mappedOr settings type other) := by
  rw [CompileUnit.mappedOr]
  split
  · exact .ok _
  · exact h

section

variable (hresolved : settings.Resolved surroundings arguments) (hsound : settings.Sound)

include hresolved hsound

lemma succeeds_scratchFile (hunit : unit ∈ compileUnits settings) {type : FileType}
    (htype : type ≠ .image) : Succeeds (unit.scratchFile settings type) := by
  have hstem := isEnding_stem hresolved hsound.moduleName hunit
  exact ⟨_, VirtualPath.temporary_of_isEnding
    (hstem.append_extension (FileType.isExtension_extension htype))⟩

lemma succeeds_objectPath (hunit : unit ∈ compileUnits settings) :
    Succeeds (unit.objectPath settings) := by
  rw [CompileUnit.objectPath]
  split
  · exact succeeds_scratchFile hresolved hsound hunit (by decide)
  · split
    · next output houtput =>
      obtain ⟨hvalue, -⟩ := Option.filter_eq_some_iff.1 houtput
      split
      · exact .ok _
      · exact succeeds_lastPath hresolved.isAnchor hsound (by decide) hvalue
    · have hstem := isEnding_stem hresolved hsound.moduleName hunit
      exact ⟨_, VirtualPath.anchored_of_isEnding hresolved.isAnchor
        (hstem.append_extension (by decide))⟩

lemma succeeds_objectFiles (hunit : unit ∈ compileUnits settings) :
    Succeeds (unit.objectFiles settings) := by
  rw [CompileUnit.objectFiles]
  split
  · have hpath := succeeds_objectPath hresolved hsound hunit
    exact (succeeds_mappedOr hpath).bind fun _ _ => .pure _
  · exact .pure _

lemma succeeds_moduleFiles (hunit : unit ∈ compileUnits settings) :
    Succeeds (unit.moduleFiles settings) := by
  rw [CompileUnit.moduleFiles]
  split
  · exact .pure _
  · split
    · have hpart {type : FileType} (htype : type ≠ .image) :
          Succeeds (unit.mappedOr settings type (unit.scratchFile settings type)) :=
        succeeds_mappedOr (succeeds_scratchFile hresolved hsound hunit htype)
      exact (hpart (by decide)).bind fun _ _ => (hpart (by decide)).bind fun _ _ => .pure _
    · exact .pure _

/-- Dependencies are listed beside the first other file only if that is no stream. -/
lemma succeeds_dependencyFiles (hunit : unit ∈ compileUnits settings) (others : List CompileFile) :
    Succeeds (unit.dependencyFiles settings others) := by
  have hpath : Succeeds (dependencyPath settings unit others) := by
    rw [dependencyPath]
    split
    · next output path hbeside =>
      obtain ⟨-, hstream⟩ := Option.filter_eq_some_iff.1 hbeside
      exact ⟨_, (VirtualPath.withExtension_eq_ok (by decide)).2 ⟨by simpa using hstream, rfl⟩⟩
    · exact succeeds_scratchFile hresolved hsound hunit (by decide)
  rw [CompileUnit.dependencyFiles]
  split
  · exact (succeeds_mappedOr hpath).bind fun _ _ => .pure _
  · exact .pure _

lemma succeeds_compileJob (hunit : unit ∈ compileUnits settings) :
    Succeeds (compileJob settings unit) := by
  have hfiles : Succeeds (unit.files settings) :=
    (succeeds_objectFiles hresolved hsound hunit).bind fun objects _ =>
      (succeeds_moduleFiles hresolved hsound hunit).bind fun modules _ =>
        (succeeds_dependencyFiles hresolved hsound hunit (objects ++ modules)).bind fun _ _ =>
          .pure _
  exact hfiles.bind fun _ _ =>
    (succeeds_frontendOptions hresolved.isAnchor hsound).bind fun _ _ => .pure _

lemma succeeds_compileJobs : Succeeds (compileJobs settings) :=
  .mapM fun _ hunit => succeeds_compileJob hresolved hsound hunit

/-! ## The product -/

lemma succeeds_mergeJobs : Succeeds (mergeJobs settings compiles) := by
  rw [mergeJobs]
  split
  · exact .pure _
  · next files hfiles =>
    split
    · have hmerge : Succeeds (mergeJob settings files (moduleParts compiles)) :=
        (succeeds_headerOption hresolved.isAnchor hsound).bind fun _ _ => .pure _
      exact hmerge.bind fun _ _ => .pure _
    · exact .pure _

lemma succeeds_productPath : Succeeds (productPath settings product) := by
  rw [productPath]
  split
  · next output houtput =>
    split
    · exact .ok _
    · exact succeeds_lastPath hresolved.isAnchor hsound (by decide) houtput
  · have hname := Text.isEnding_of_isIdentifier hsound.moduleName
    have hlibrary : IsEnding ("lib" ++ settings.moduleName).toList := by
      rw [String.toList_append]
      exact IsEnding.append ⟨by decide, 'l', by decide, by decide⟩ hname
    have hdefault : IsEnding (defaultProductName settings product).toList := by
      cases product with
      | executable => exact hname
      | dynamicLibrary =>
        refine hlibrary.append_extension ?_
        rw [Triple.dynamicLibraryExtension]
        split <;> decide
      | staticLibrary =>
        have hext : IsExtension "a" := by decide
        exact hlibrary.append_extension hext
    exact ⟨_, VirtualPath.anchored_of_isEnding hresolved.isAnchor hdefault⟩

omit hresolved in
lemma succeeds_extractJobs {objects : List TypedPath} :
    Succeeds (extractJobs settings objects) := by
  have hname := Text.isEnding_of_isIdentifier hsound.moduleName
  have hext : IsExtension FileType.autolink.extension := by decide
  have houtput := VirtualPath.temporary_of_isEnding (hname.append_extension hext)
  have hextract : Succeeds (autolinkExtractJob settings objects) :=
    Succeeds.bind ⟨_, houtput⟩ fun _ _ => .pure _
  rw [extractJobs]
  split
  · exact hextract.bind fun _ _ => .pure _
  · exact .pure _

lemma succeeds_linkJob {inputs : LinkInputs} {output : VirtualPath} :
    Succeeds (linkJob settings product inputs output) := by
  have hoptions := succeeds_linkerOptions hresolved.isAnchor fun parsed hparsed hidentity =>
    hsound.paths parsed hparsed "-L" hidentity (by decide)
  unfold linkJob
  split
  · exact .pure _
  · exact hoptions.bind fun _ _ => .pure _
  · exact hoptions.bind fun _ _ => .pure _

lemma succeeds_productJobs : Succeeds (productJobs settings compiles) := by
  rw [productJobs]
  split
  · exact .pure _
  · exact (succeeds_extractJobs hsound).bind fun _ _ =>
      (succeeds_productPath hresolved hsound).bind fun _ _ =>
        (succeeds_linkJob hresolved hsound).bind fun _ _ => .pure _

/-! ## Plans -/

lemma succeeds_buildJobs : Succeeds (buildJobs settings) :=
  (succeeds_compileJobs hresolved hsound).bind fun _ _ =>
    (succeeds_mergeJobs hresolved hsound).bind fun _ _ =>
      (succeeds_productJobs hresolved hsound).bind fun _ _ => .pure _

lemma succeeds_ofSettings : Succeeds (ofSettings settings).outcome := by
  have hoptions := succeeds_frontendOptions hresolved.isAnchor hsound
  cases hmode : settings.mode with
  | repl =>
    have hrepl : Succeeds (replJob settings) := hoptions.bind fun _ _ => .pure _
    obtain ⟨repl, hrepl⟩ := hrepl
    exact ⟨[repl], (ofSettings_repl_eq_ok hmode).2 ⟨repl, hrepl, rfl⟩⟩
  | immediate =>
    have hinterpret : Succeeds (interpretJob settings) := hoptions.bind fun _ _ => .pure _
    obtain ⟨interpret, hinterpret⟩ := hinterpret
    exact ⟨[interpret], (ofSettings_immediate_eq_ok hmode).2 ⟨interpret, hinterpret, rfl⟩⟩
  | standard | single =>
    have hcompiles : settings.mode = .standard ∨ settings.mode = .single := by simp [hmode]
    obtain ⟨jobs, hjobs⟩ := succeeds_buildJobs hresolved hsound
    by_cases hinputs : settings.inputs = []
    · exact ⟨[], (ofSettings_eq_ok hcompiles).2 (.inl ⟨hinputs, rfl⟩)⟩
    · exact ⟨jobs, (ofSettings_eq_ok hcompiles).2 (.inr ⟨hinputs, hjobs⟩)⟩

end

/-- Something is linked only if the build has a product, and the link writes it where it goes. -/
lemma exists_product_of_link {jobs : List Job} {job : Job}
    (h : (ofSettings settings).outcome = .ok jobs) (hjob : job ∈ jobs) (hlink : job.kind = .link) :
    ∃ product output, settings.goal.product? = some product ∧
      productPath settings product = .ok output ∧ job.outputs = [⟨output, .image⟩] := by
  cases hmode : settings.mode with
  | repl =>
    obtain ⟨repl, hrepl, rfl⟩ := (ofSettings_repl_eq_ok hmode).1 h
    obtain rfl := List.mem_singleton.1 hjob
    simp [(replJob_eq_ok hrepl).1] at hlink
  | immediate =>
    obtain ⟨interpret, hinterpret, rfl⟩ := (ofSettings_immediate_eq_ok hmode).1 h
    obtain rfl := List.mem_singleton.1 hjob
    simp [(interpretJob_eq_ok hinterpret).1] at hlink
  | standard | single =>
    have hcompiles : settings.mode = .standard ∨ settings.mode = .single := by simp [hmode]
    rcases (ofSettings_eq_ok hcompiles).1 h with ⟨-, rfl⟩ | ⟨-, hbuild⟩
    · simp at hjob
    obtain ⟨compiles, merges, links, hcompiled, hmerged, hlinked, rfl⟩ := buildJobs_eq_ok hbuild
    rcases List.mem_append.1 hjob with hjob | hjob
    · rcases List.mem_append.1 hjob with hjob | hjob
      · simp [kind_of_mem_compileJobs hcompiled job hjob] at hlink
      · simp [kind_of_mem_mergeJobs hmerged job hjob] at hlink
    rcases productJobs_eq_ok hlinked with ⟨-, rfl⟩ | ⟨product, hproduct, hjobs⟩
    · simp at hjob
    obtain ⟨extracts, output, link, hextracts, houtput, hmade, rfl⟩ := linkJobs_eq_ok hjobs
    rcases List.mem_append.1 hjob with hjob | hjob
    · simp [kind_of_mem_extractJobs hextracts job hjob] at hlink
    rcases List.mem_cons.1 hjob with rfl | hjob
    · exact ⟨product, output, hproduct, houtput, (linkJob_files hmade).2.2⟩
    · simp [kind_of_mem_dsymJobs job hjob] at hlink

/-! ## Requests -/

variable {environment : Environment} {driver : Driver}

/-- **Planning does not fail.**  Every request that could be read is planned, if it is not a build
or if the name of the module is an identifier and no path is written as an empty text.  Neither the
module of a build nor its documentation goes to a stream, and what is linked is a product that the
build has. -/
theorem plan_succeeds
    (hdriver : (Driver.ofArguments surroundings environment arguments).outcome = .ok driver)
    (hsound : ∀ settings, driver.request = .build settings → settings.Sound) :
    ∃ jobs, driver.plan.outcome = .ok jobs ∧
      ∀ settings, driver.request = .build settings →
        (∀ files, settings.moduleFiles = some files →
          files.output.path.isStream = false ∧ files.documentation.isStream = false) ∧
        ∀ job ∈ jobs, job.kind = .link →
          ∃ product output, settings.goal.product? = some product ∧
            productPath settings product = .ok output ∧ job.outputs = [⟨output, .image⟩] := by
  cases hrequest : driver.request with
  | passthrough tool =>
    refine ⟨[(passthroughJob tool driver.ownArguments).equip driver.toolchain], ?_, ?_⟩
    · simp [Driver.plan, Driver.plainJobs, hrequest]
    · simp
  | build settings =>
    have hresolved := Driver.resolved_of_ofArguments hdriver hrequest
    obtain ⟨plain, hplain⟩ := succeeds_ofSettings hresolved (hsound settings hrequest)
    refine ⟨_, (Driver.plan_eq_ok hrequest).2 ⟨plain, hplain, rfl⟩, fun other hother => ?_⟩
    obtain rfl := Request.build.inj hother
    refine ⟨fun files hfiles => hresolved.isStream_moduleFiles hfiles, fun job hjob hlink => ?_⟩
    obtain ⟨made, hmade, rfl⟩ := List.mem_map.1 hjob
    have hkind : made.kind = .link := hlink
    obtain ⟨product, output, hproduct, houtput, hwritten⟩ :=
      exists_product_of_link hplain hmade hkind
    exact ⟨product, output, hproduct, houtput, hwritten⟩

/-- A library made from the standard input and a file, with paths of several kinds. -/
theorem plan_succeeds_of_library :
    let arguments := ["swiftc", "-emit-library", "-g", "-emit-module", "-emit-dependencies", "-I",
      "include", "-L", "/lib", "-o", "out/libA.dylib", "-working-directory", "/src", "-target",
      "x86_64-apple-macosx10.15", "-", "b.swift"]
    ∃ driver settings,
      (Driver.ofArguments .bare [] arguments).outcome = .ok driver ∧
        driver.request = .build settings ∧ settings.Sound ∧
        ∃ jobs, driver.plan.outcome = .ok jobs ∧
          ∀ job ∈ jobs, job.kind = .link →
            ∃ product output, settings.goal.product? = some product ∧
              productPath settings product = .ok output ∧ job.outputs = [⟨output, .image⟩] := by
  intro arguments
  have hany : (Driver.built? (Driver.ofPlainArguments .bare [] arguments)).any
      (fun built => decide built.1.Sound) = true := by
    decide +kernel
  obtain ⟨driver, settings, jobs, hdriver, hrequest, -, hproperty⟩ :=
    Driver.exists_of_any_built (by decide +kernel) hany
  have hsound : settings.Sound := by simpa using hproperty
  obtain ⟨jobs, hjobs, hbuild⟩ := plan_succeeds hdriver fun other hother => by
    obtain rfl : settings = other := by simpa [hrequest] using hother
    exact hsound
  exact ⟨driver, settings, hdriver, hrequest, hsound, jobs, hjobs, (hbuild settings hrequest).2⟩

end Plan

end SwiftPlan
