import SwiftPlan.Proofs.CanonicalPath
import SwiftPlan.Proofs.Plan.Provenance
import SwiftPlan.Proofs.Plan.Stems

/-!
# Canonical plans

All paths of a build are canonical: those that its settings hold, and those that its jobs mention
(`canonical_plan`).  Where a name is chosen by the planner this takes a proper name of the module,
since the files of a unit without a source are named after it.  Temporary paths lead to files
directly in the scratch directory, wherever that is put.
-/

namespace SwiftPlan

open LexicalPath

variable {surroundings : Surroundings} {environment : Environment} {arguments : List String}
  {settings : Settings} {path : VirtualPath}

/-! ## Settings -/

lemma isEnding_fileName {moduleName : String} (h : Text.isIdentifier moduleName = true) :
    IsEnding (ModuleOutput.fileName moduleName).toList :=
  (Text.isEnding_of_isIdentifier h).append_extension (by decide)

lemma ModulePath.canonical {moduleName : String} {directory : Option VirtualPath}
    (hanchor : IsAnchor directory) (hname : Text.isIdentifier moduleName = true)
    (h : ModulePath moduleName directory path) : path.Canonical := by
  induction h with
  | written _ hpath => exact VirtualPath.canonical_resolvePath hanchor hpath
  | beside hdash hplace hpath =>
    have hcanonical := VirtualPath.canonical_resolvePath hanchor hplace
    have hplaced : ModulePath moduleName directory _ := .written hdash hplace
    exact hcanonical.sibling (hplaced.isStream hanchor) (isEnding_fileName hname) hpath
  | named hpath => exact VirtualPath.canonical_relative_resolvedIn hanchor hpath
  | scratch hpath => exact VirtualPath.canonical_temporary (isEnding_fileName hname) hpath
  | documentation _ hpath ih => exact ih.withExtension (by decide) hpath

lemma canonical_of_mem_inputs (hresolved : settings.Resolved surroundings arguments)
    {input : TypedPath} (h : input ∈ settings.inputs) : input.path.Canonical := by
  obtain ⟨text, -, hinput⟩ := exists_of_mem_mapM hresolved.inputs h
  obtain ⟨written, hwritten, hrest⟩ := bind_eq_ok.1 hinput
  have hcanonical : written.Canonical := VirtualPath.canonical_ofText hwritten
  split at hrest
  · obtain rfl := pure_eq_ok.1 hrest
    exact hcanonical
  · obtain ⟨place, hplace, hmade⟩ := bind_eq_ok.1 hrest
    obtain rfl := pure_eq_ok.1 hmade
    exact VirtualPath.canonical_resolvedIn hresolved.isAnchor hcanonical hplace

lemma canonical_workingDirectory (hresolved : settings.Resolved surroundings arguments)
    (h : settings.workingDirectory = some path) : path.Canonical := by
  have hdirectory := hresolved.workingDirectory
  rw [h, Settings.workingDirectoryOf] at hdirectory
  split at hdirectory
  · cases hdirectory
  · obtain ⟨written, hwritten, hrest⟩ := bind_eq_ok.1 hdirectory
    split at hrest
    · obtain rfl := Option.some.inj (pure_eq_ok.1 hrest)
      exact VirtualPath.canonical_ofText hwritten
    · obtain ⟨joined, hjoined, hsame⟩ := bind_eq_ok.1 hrest
      obtain rfl := Option.some.inj (pure_eq_ok.1 hsame)
      obtain ⟨hrooted, rfl⟩ := VirtualPath.absolute_eq_ok.1 hjoined
      exact VirtualPath.canonical_absolute hrooted

section

variable (hresolved : settings.Resolved surroundings arguments)
  (hname : Text.isIdentifier settings.moduleName = true)

include hresolved hname

lemma canonical_of_holds (h : settings.Holds path) : path.Canonical := by
  cases h with
  | workingDirectory h => exact canonical_workingDirectory hresolved h
  | input h => exact canonical_of_mem_inputs hresolved h
  | destination hmap hentry h =>
    obtain ⟨text, htext⟩ := hresolved.exists_text_of_destination hmap _ hentry _ h
    exact VirtualPath.canonical_ofText htext
  | module h => exact (hresolved.modulePath h).1.canonical hresolved.isAnchor hname
  | documentation h => exact (hresolved.modulePath h).2.canonical hresolved.isAnchor hname

/-! ## Plans -/

namespace Plan

lemma canonical_scratchFile {unit : CompileUnit} {type : FileType}
    (hunit : unit ∈ compileUnits settings) (htype : type ≠ .image)
    (h : unit.scratchFile settings type = .ok path) : path.Canonical := by
  have hstem : IsEnding (unit.stem settings).toList := isEnding_stem hresolved hname hunit
  have hextension : IsExtension type.extension := FileType.isExtension_extension htype
  exact VirtualPath.canonical_temporary (hstem.append_extension hextension) h

omit hname in
lemma OutputPath.canonical (h : OutputPath settings path) : path.Canonical := by
  cases h with
  | dash => exact VirtualPath.canonical_stream rfl
  | written _ hpath => exact VirtualPath.canonical_resolvePath hresolved.isAnchor hpath
  | named hpath => exact VirtualPath.canonical_relative_resolvedIn hresolved.isAnchor hpath

/-- Each way to make a path makes a canonical one. -/
lemma canonical_of_made (h : Made settings path) : path.Canonical := by
  induction h with
  | mapped hunit htype hmapped =>
    obtain ⟨map, hmap, entry, hentry, hdestination⟩ := exists_entry_of_mapped? hmapped
    exact canonical_of_holds hresolved hname (.destination hmap hentry hdestination)
  | scratch hunit htype hpath => exact canonical_scratchFile hresolved hname hunit htype hpath
  | output houtput => exact houtput.canonical hresolved
  | module hfiles => exact canonical_of_holds hresolved hname (.module hfiles)
  | documentation hfiles => exact canonical_of_holds hresolved hname (.documentation hfiles)
  | dependencies _ hpath ih => exact ih.withExtension (by decide) hpath
  | autolink hpath =>
    have hmodule : IsEnding settings.moduleName.toList := Text.isEnding_of_isIdentifier hname
    exact VirtualPath.canonical_temporary (hmodule.append_extension (by decide)) hpath
  | bundle _ hstream ih => exact ih.addExtension hstream (by decide)

lemma canonical_of_occurs (h : Occurs settings path) : path.Canonical := by
  cases h with
  | input hinput => exact canonical_of_mem_inputs hresolved hinput
  | made hmade => exact canonical_of_made hresolved hname hmade
  | told htext => exact VirtualPath.canonical_resolvePath hresolved.isAnchor htext

end Plan

end

/-! ## Requests -/

namespace Driver

variable {driver : Driver} {jobs : List Job}

/-- **Planned paths are canonical.**  If the module has a proper name, then all paths that the
settings of a build hold and all that its jobs mention are canonical, and the temporary ones among
them lead to files directly in the scratch directory, whatever that is. -/
theorem canonical_plan
    (hdriver : (ofArguments surroundings environment arguments).outcome = .ok driver)
    (hrequest : driver.request = .build settings)
    (hname : Text.isIdentifier settings.moduleName = true)
    (hplan : driver.plan.outcome = .ok jobs) :
    ∀ path, (settings.Holds path ∨ ∃ job ∈ jobs, job.Mentions path) →
      path.Canonical ∧ (path.isTemporary = true →
        ∀ scratch, IsChildOf scratch (path.render (some scratch))) := by
  have hresolved := resolved_of_ofArguments hdriver hrequest
  intro path hpath
  have hcanonical : path.Canonical := by
    rcases hpath with hholds | ⟨job, hjob, hmentions⟩
    · exact canonical_of_holds hresolved hname hholds
    · have hoccurs : Plan.Occurs settings path :=
        occurs_of_mentions hrequest hplan hjob hmentions
      exact Plan.canonical_of_occurs hresolved hname hoccurs
  exact ⟨hcanonical, hcanonical.isChildOf_render⟩

/-- The source is a hidden file below two slashes, and the image a hidden one without an
extension. -/
theorem canonical_plan_of_hidden_files :
    ∃ driver settings jobs,
      (ofArguments .bare [] ["swiftc", "-gline-tables-only", "-target",
          "x86_64-apple-macosx10.15", "-o", "..//out/./.app", "//b/../.c.swift"]).outcome =
          .ok driver ∧
        driver.request = .build settings ∧ Text.isIdentifier settings.moduleName = true ∧
        driver.plan.outcome = .ok jobs ∧
        settings.inputs.map (·.path) = [⟨.absolute, "//.c.swift"⟩] ∧
        (jobs.flatMap (·.outputs)).map (·.path) =
          [⟨.temporary, ".c.o"⟩, ⟨.relative, "../out/.app"⟩, ⟨.relative, "../out/.app.dSYM"⟩] ∧
        ∀ path, (settings.Holds path ∨ ∃ job ∈ jobs, job.Mentions path) →
          path.Canonical ∧ (path.isTemporary = true →
            ∀ scratch, IsChildOf scratch (path.render (some scratch))) := by
  have hany : (built? (ofPlainArguments .bare [] ["swiftc", "-gline-tables-only", "-target",
      "x86_64-apple-macosx10.15", "-o", "..//out/./.app", "//b/../.c.swift"])).any
      (fun built => Text.isIdentifier built.1.moduleName &&
        built.1.inputs.map (·.path) == [⟨.absolute, "//.c.swift"⟩] &&
        (built.2.flatMap (·.outputs)).map (·.path) ==
          [⟨.temporary, ".c.o"⟩, ⟨.relative, "../out/.app"⟩, ⟨.relative, "../out/.app.dSYM"⟩]) =
        true := by
    decide +kernel
  obtain ⟨driver, settings, jobs, hdriver, hrequest, hplan, hproperty⟩ :=
    exists_of_any_built (by decide +kernel) hany
  simp only [Bool.and_eq_true, beq_iff_eq] at hproperty
  obtain ⟨⟨hname, hinputs⟩, houtputs⟩ := hproperty
  exact ⟨driver, settings, jobs, hdriver, hrequest, hname, hplan, hinputs, houtputs,
    canonical_plan hdriver hrequest hname hplan⟩

end Driver

end SwiftPlan
