import SwiftPlan.Plan.Link
import SwiftPlan.Proofs.VirtualPath

/-!
# Builds that do not say where outputs go

If neither an option nor an output-file map gives a place for an output, the planner makes up all
names.  What is kept goes into the working directory and what is not into the scratch directory: the
module and the product are named after the module, and objects after what is compiled.
-/

namespace SwiftPlan

lemma ParsedOptions.hasAny_eq_false_of_subset {parsed : ParsedOptions} {names more : List String}
    (h : parsed.hasAny more = false) (hsubset : ∀ name ∈ names, name ∈ more) :
    parsed.hasAny names = false := by
  rw [hasAny, List.any_eq_false] at h ⊢
  intro element helement hone
  refine h element helement ?_
  rw [ParsedOption.isOneOf] at hone ⊢
  cases hidentity : element.identity? with
  | none => simp [hidentity] at hone
  | some name =>
    have hname : name ∈ names := by simpa [hidentity] using hone
    simpa using hsubset name hname

lemma ParsedOptions.lastValue?_eq_none {parsed : ParsedOptions} {names : List String}
    (h : parsed.hasAny names = false) : parsed.lastValue? names = none := by
  have hnone : parsed.allOf names = [] := by
    rw [allOf, List.filter_eq_nil_iff]
    exact List.any_eq_false.1 h
  rw [lastValue?, last?, hnone]
  rfl

namespace Settings

/-- The options that say where outputs go. -/
def outputOptions : List String :=
  ["-o", "-emit-module-path", "-emit-module-doc-path", "-output-file-map"]

variable {surroundings : Surroundings} {arguments : List String} {settings : Settings}

lemma lastValue?_outputOption (h : settings.options.hasAny outputOptions = false) {name : String}
    (hname : name ∈ outputOptions) : settings.options.lastValue? [name] = none :=
  ParsedOptions.lastValue?_eq_none (ParsedOptions.hasAny_eq_false_of_subset h (by simpa))

lemma fileValue?_outputOption (h : settings.options.hasAny outputOptions = false) {name : String}
    (hname : name ∈ outputOptions) {value : Option String} :
    (fileValue? settings.options name).outcome = .ok value ↔ value = none := by
  rw [fileValue?, lastValue?_outputOption h hname]
  simp [eq_comm]

namespace Resolved

lemma outputFileMap_eq_none (h : settings.Resolved surroundings arguments)
    (hunnamed : settings.options.hasAny outputOptions = false) : settings.outputFileMap = none := by
  have hmap := h.outputFileMap
  rw [outputFileMapOf, lastValue?_outputOption hunnamed (by decide)] at hmap
  simpa using hmap.symm

/-- The documentation of a module goes beside the module. -/
lemma documentation_eq_ok (h : settings.Resolved surroundings arguments)
    (hunnamed : settings.options.hasAny outputOptions = false) {files : ModuleFiles}
    (hfiles : settings.moduleFiles = some files) :
    files.output.path.withExtension FileType.swiftDocumentation.extension =
      .ok files.documentation := by
  have hmodule := h.moduleFiles
  rw [hfiles, moduleFilesOf_eq_some] at hmodule
  obtain ⟨-, hdocumentation⟩ := hmodule
  rw [ModuleOutput.documentation, Diagnosed.outcome_bind_eq_ok] at hdocumentation
  obtain ⟨value, hvalue, hpath⟩ := hdocumentation
  obtain rfl := (fileValue?_outputOption hunnamed (by decide)).1 hvalue
  exact Diagnosed.outcome_lift_path.1 hpath

/-- The module goes into the working directory if it is asked for, and into the scratch directory
if only the link of the build needs it. -/
lemma modulePath_eq (h : settings.Resolved surroundings arguments)
    (hunnamed : settings.options.hasAny outputOptions = false) {files : ModuleFiles}
    (hfiles : settings.moduleFiles = some files) :
    settings.options.hasAny BuildGoal.moduleRequests = true ∧
        VirtualPath.isRooted (ModuleOutput.fileName settings.moduleName) = false ∧
        files.output.path =
          .anchored settings.workingDirectory (ModuleOutput.fileName settings.moduleName) ∨
      settings.options.hasAny BuildGoal.moduleRequests = false ∧
        settings.goal.product?.isSome = true ∧
        files.output.path = .scratch (ModuleOutput.fileName settings.moduleName) := by
  have hmodule := h.moduleFiles
  rw [hfiles, moduleFilesOf_eq_some, ModuleOutput.resolve] at hmodule
  obtain ⟨houtput, -⟩ := hmodule
  split at houtput
  · next hasked =>
    rw [Diagnosed.outcome_bind_eq_ok] at houtput
    obtain ⟨value, hvalue, hpath⟩ := houtput
    obtain rfl := (fileValue?_outputOption hunnamed (by decide)).1 hvalue
    simp only [Diagnosed.outcome_bind_eq_ok, Diagnosed.outcome_pure, Except.ok.injEq,
      Option.some.injEq, Diagnosed.outcome_lift_path] at hpath
    obtain ⟨path, hpath, houtput⟩ := hpath
    rw [ModuleOutput.besideOutput, lastValue?_outputOption hunnamed (by decide)] at hpath
    obtain ⟨hrooted, rfl⟩ := VirtualPath.eq_anchored h.isAnchor hpath
    exact .inl ⟨hasked, hrooted, by rw [← houtput]⟩
  · next hasked =>
    split at houtput
    · next hneeded =>
      simp only [Diagnosed.outcome_bind_eq_ok, Diagnosed.outcome_pure, Except.ok.injEq,
        Option.some.injEq, Diagnosed.outcome_lift_path] at houtput
      obtain ⟨path, hpath, houtput⟩ := houtput
      obtain rfl := VirtualPath.temporary_eq_scratch hpath
      exact .inr ⟨by simpa using hasked, hneeded.2, by rw [← houtput]⟩
    · simp at houtput

end Resolved

end Settings

namespace Plan

variable {settings : Settings} {unit : CompileUnit} {path : VirtualPath}

lemma productPath_eq {product : LinkProduct} (hanchor : IsAnchor settings.workingDirectory)
    (hunnamed : settings.options.hasAny Settings.outputOptions = false)
    (h : productPath settings product = .ok path) :
    VirtualPath.isRooted (defaultProductName settings product) = false ∧
      path = .anchored settings.workingDirectory (defaultProductName settings product) := by
  rw [productPath, Settings.lastValue?_outputOption hunnamed (by decide)] at h
  exact VirtualPath.eq_anchored hanchor h

/-- An object that is only linked is temporary. -/
lemma objectPath_eq_scratch (hproduct : settings.goal.product?.isSome = true)
    (h : unit.objectPath settings = .ok path) :
    path = .scratch (unit.stem settings ++ "." ++ FileType.object.extension) := by
  rw [CompileUnit.objectPath, if_pos hproduct] at h
  exact VirtualPath.temporary_eq_scratch h

/-- An object that is all that is built goes into the working directory. -/
lemma objectPath_eq_anchored (hanchor : IsAnchor settings.workingDirectory)
    (hunnamed : settings.options.hasAny Settings.outputOptions = false)
    (hproduct : settings.goal.product? = none) (h : unit.objectPath settings = .ok path) :
    VirtualPath.isRooted (unit.stem settings ++ "." ++ FileType.object.extension) = false ∧
      path = .anchored settings.workingDirectory
        (unit.stem settings ++ "." ++ FileType.object.extension) := by
  rw [CompileUnit.objectPath, if_neg (by simp [hproduct]),
    Settings.lastValue?_outputOption hunnamed (by decide)] at h
  exact VirtualPath.eq_anchored hanchor h

end Plan

end SwiftPlan
