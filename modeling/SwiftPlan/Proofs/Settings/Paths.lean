import SwiftPlan.Proofs.VirtualPath

/-!
# Paths of settings

The settings of a build hold the working directory, the inputs, the destinations of the output-file
map and the files of the module (`Settings.Holds`).  Which paths these can be follows from how they
are made.  A destination is read as a user writes it (`exists_text_of_destination`).  The file of
the module is written by the user, or beside the output, or named after the module, and its
documentation is written or beside it (`ModulePath`).
-/

namespace SwiftPlan

/-- The path is part of the settings. -/
inductive Settings.Holds (settings : Settings) : VirtualPath → Prop where
  | workingDirectory {path : VirtualPath} (h : settings.workingDirectory = some path) :
      Holds settings path
  | input {file : TypedPath} (h : file ∈ settings.inputs) : Holds settings file.path
  | destination {map : OutputFileMap} {entry : String × OutputEntry}
      {destination : FileType × VirtualPath} (hmap : settings.outputFileMap = some map)
      (hentry : entry ∈ map.entries) (h : destination ∈ entry.2) : Holds settings destination.2
  | module {files : ModuleFiles} (h : settings.moduleFiles = some files) :
      Holds settings files.output.path
  | documentation {files : ModuleFiles} (h : settings.moduleFiles = some files) :
      Holds settings files.documentation

/-! ## Destinations -/

namespace OutputFileMap

open Diagnosed

variable {source name : String} {map : OutputFileMap} {entry : OutputEntry}
  {entries : List (String × OutputEntry)} {destination : FileType × VirtualPath}

lemma mem_of_lookup {α β : Type} [BEq α] [LawfulBEq α] {key : α} {value : β}
    {pairs : List (α × β)} (h : pairs.lookup key = some value) : (key, value) ∈ pairs := by
  obtain ⟨front, back, rfl, -⟩ := List.lookup_eq_some_iff.1 h
  simp

/-- What the map gives is one of its destinations. -/
lemma exists_entry_of_find? {input : String} {type : FileType} {path : VirtualPath}
    (h : map.find? input type = some path) : ∃ entry ∈ map.entries, (type, path) ∈ entry.2 := by
  obtain ⟨entry, hentry, hpath⟩ := Option.bind_eq_some_iff.1 h
  exact ⟨(input, entry), mem_of_lookup hentry, mem_of_lookup hpath⟩

lemma exists_text_of_readDestination {kind : String} {document : Json}
    (h : (readDestination source kind document).outcome = .ok (some destination)) :
    ∃ text, VirtualPath.ofText text = .ok destination.2 := by
  unfold readDestination at h
  split at h
  · simp [outcome_bind_eq_ok] at h
  · split at h
    · simp [outcome_bind_eq_ok] at h
    · obtain ⟨path, hpath, hdestination⟩ := outcome_bind_eq_ok.1 h
      obtain rfl := Option.some.inj (Except.ok.inj hdestination)
      exact ⟨_, outcome_lift_path.1 hpath⟩
  · simp [outcome_bind_eq_ok] at h

lemma exists_text_of_readEntry {members : List (String × Json)}
    (h : (readEntry source members).outcome = .ok entry) :
    ∀ destination ∈ entry, ∃ text, VirtualPath.ofText text = .ok destination.2 := by
  induction members generalizing entry with
  | nil =>
    obtain rfl := Except.ok.inj h
    simp
  | cons member rest ih =>
    obtain ⟨first, hfirst, hrest⟩ := outcome_bind_eq_ok.1 h
    obtain ⟨others, hothers, hentry⟩ := outcome_bind_eq_ok.1 hrest
    obtain rfl := Except.ok.inj hentry
    intro destination hdestination
    rcases List.mem_append.1 hdestination with hmem | hmem
    · obtain rfl := Option.mem_toList.1 hmem
      exact exists_text_of_readDestination hfirst
    · exact ih hothers destination hmem

lemma exists_text_of_readEntries {members : List (String × Json)}
    (h : (readEntries source members).outcome = .ok entries) :
    ∀ entry ∈ entries, ∀ destination ∈ entry.2,
      ∃ text, VirtualPath.ofText text = .ok destination.2 := by
  induction members generalizing entries with
  | nil =>
    obtain rfl := Except.ok.inj h
    simp
  | cons member rest ih =>
    obtain ⟨input, document⟩ := member
    cases document with
    | object members =>
      obtain ⟨entry, hentry, hrest⟩ := outcome_bind_eq_ok.1 h
      obtain ⟨others, hothers, hentries⟩ := outcome_bind_eq_ok.1 hrest
      obtain rfl := Except.ok.inj hentries
      exact List.forall_mem_cons.2 ⟨exists_text_of_readEntry hentry, ih hothers⟩
    | _ => cases h

lemma exists_text_of_load {fs : FileSystem} (h : (load fs name).outcome = .ok map) :
    ∀ entry ∈ map.entries, ∀ destination ∈ entry.2,
      ∃ text, VirtualPath.ofText text = .ok destination.2 := by
  rw [load] at h
  split at h
  · obtain ⟨content, -, hrest⟩ := outcome_bind_eq_ok.1 h
    split at hrest
    · cases hrest
    · obtain ⟨document, -, hmap⟩ := outcome_bind_eq_ok.1 hrest
      cases document with
      | object members =>
        obtain ⟨entries, hentries, hmap⟩ := outcome_bind_eq_ok.1 hmap
        obtain rfl := Except.ok.inj hmap
        exact exists_text_of_readEntries hentries
      | _ => cases hmap
  · cases h

end OutputFileMap

/-! ## Module files -/

/-- A path that a file of the module can have. -/
inductive ModulePath (moduleName : String) (directory : Option VirtualPath) :
    VirtualPath → Prop where
  | written {text : String} {path : VirtualPath} (hdash : text ≠ "-")
      (h : resolvePath directory text = .ok path) : ModulePath moduleName directory path
  | beside {text : String} {place path : VirtualPath} (hdash : text ≠ "-")
      (hplace : resolvePath directory text = .ok place)
      (h : place.sibling (ModuleOutput.fileName moduleName) = .ok path) :
      ModulePath moduleName directory path
  | named {path : VirtualPath}
      (h : (do
        (← VirtualPath.relative (ModuleOutput.fileName moduleName)).resolvedIn directory) =
          .ok path) : ModulePath moduleName directory path
  | scratch {path : VirtualPath}
      (h : VirtualPath.temporary (ModuleOutput.fileName moduleName) = .ok path) :
      ModulePath moduleName directory path
  | documentation {module path : VirtualPath} (hmodule : ModulePath moduleName directory module)
      (h : module.withExtension FileType.swiftDocumentation.extension = .ok path) :
      ModulePath moduleName directory path

section

variable {options : ParsedOptions} {moduleName option : String} {goal : BuildGoal}
  {level : Option DebugLevel} {directory : Option VirtualPath} {path : VirtualPath}
  {output : ModuleOutput}

/-- The standard output is no file that a module can go to. -/
lemma fileValue?_ne_dash {value : String}
    (h : (fileValue? options option).outcome = .ok (some value)) : value ≠ "-" := by
  rw [fileValue?] at h
  split at h
  · simp at h
  · split at h
    · simp [Diagnosed.outcome_bind_eq_ok] at h
    · next hdash =>
      obtain rfl : _ = value := by simpa using h
      exact hdash

lemma modulePath_besideOutput
    (h : ModuleOutput.besideOutput options moduleName goal directory = .ok path) :
    ModulePath moduleName directory path := by
  rw [ModuleOutput.besideOutput] at h
  split at h
  · next text htext =>
    obtain ⟨-, hdash⟩ := Option.filter_eq_some_iff.1 htext
    have hdash : text ≠ "-" := by simpa using hdash
    obtain ⟨place, hplace, hrest⟩ := bind_eq_ok.1 h
    split at hrest
    · obtain rfl := pure_eq_ok.1 hrest
      exact .written hdash hplace
    · exact .beside hdash hplace hrest
  · exact .named h

lemma modulePath_resolve
    (h : (ModuleOutput.resolve options moduleName goal level directory).outcome =
      .ok (some output)) : ModulePath moduleName directory output.path := by
  rw [ModuleOutput.resolve] at h
  split at h
  · obtain ⟨value, hvalue, hrest⟩ := Diagnosed.outcome_bind_eq_ok.1 h
    cases value with
    | some value =>
      obtain ⟨path, hpath, houtput⟩ := Diagnosed.outcome_bind_eq_ok.1 hrest
      obtain rfl := Option.some.inj (Except.ok.inj houtput)
      exact .written (fileValue?_ne_dash hvalue) (Diagnosed.outcome_lift_path.1 hpath)
    | none =>
      obtain ⟨path, hpath, houtput⟩ := Diagnosed.outcome_bind_eq_ok.1 hrest
      obtain rfl := Option.some.inj (Except.ok.inj houtput)
      exact modulePath_besideOutput (Diagnosed.outcome_lift_path.1 hpath)
  · split at h
    · obtain ⟨path, hpath, houtput⟩ := Diagnosed.outcome_bind_eq_ok.1 h
      obtain rfl := Option.some.inj (Except.ok.inj houtput)
      exact .scratch (Diagnosed.outcome_lift_path.1 hpath)
    · simp at h

lemma modulePath_documentation (houtput : ModulePath moduleName directory output.path)
    (h : (output.documentation options directory).outcome = .ok path) :
    ModulePath moduleName directory path := by
  obtain ⟨value, hvalue, hrest⟩ := Diagnosed.outcome_bind_eq_ok.1 h
  cases value with
  | some value => exact .written (fileValue?_ne_dash hvalue) (Diagnosed.outcome_lift_path.1 hrest)
  | none => exact .documentation houtput (Diagnosed.outcome_lift_path.1 hrest)

/-- The module is not written to a stream, and neither is anything that is written beside it. -/
lemma ModulePath.isStream (h : ModulePath moduleName directory path)
    (hanchor : IsAnchor directory) : path.isStream = false := by
  have hwritten {text : String} {path : VirtualPath} (hdash : text ≠ "-")
      (hpath : resolvePath directory text = .ok path) : path.isStream = false := by
    rw [← Bool.not_eq_true, isStream_resolvePath hanchor hpath]
    exact hdash
  induction h with
  | written hdash hpath => exact hwritten hdash hpath
  | beside hdash hplace hpath =>
    rw [VirtualPath.isStream_sibling hpath]
    exact hwritten hdash hplace
  | named hpath => exact VirtualPath.isStream_relative_resolvedIn hanchor hpath
  | scratch hpath => exact VirtualPath.isStream_temporary hpath
  | documentation _ hpath _ => exact VirtualPath.isStream_withExtension (by decide) hpath

end

/-! ## Settings of requests -/

namespace Settings.Resolved

variable {surroundings : Surroundings} {arguments : List String} {settings : Settings}
  {files : ModuleFiles}

lemma modulePath (h : settings.Resolved surroundings arguments)
    (hfiles : settings.moduleFiles = some files) :
    ModulePath settings.moduleName settings.workingDirectory files.output.path ∧
      ModulePath settings.moduleName settings.workingDirectory files.documentation := by
  have hmodule := h.moduleFiles
  rw [hfiles, moduleFilesOf_eq_some] at hmodule
  have houtput := modulePath_resolve hmodule.1
  exact ⟨houtput, modulePath_documentation houtput hmodule.2⟩

/-- Neither the module of a build nor its documentation is written to a stream. -/
lemma isStream_moduleFiles (h : settings.Resolved surroundings arguments)
    (hfiles : settings.moduleFiles = some files) :
    files.output.path.isStream = false ∧ files.documentation.isStream = false := by
  obtain ⟨houtput, hdocumentation⟩ := h.modulePath hfiles
  exact ⟨houtput.isStream h.isAnchor, hdocumentation.isStream h.isAnchor⟩

/-- A destination of the output-file map is a path that a user can write. -/
lemma exists_text_of_destination (h : settings.Resolved surroundings arguments)
    {map : OutputFileMap} (hmap : settings.outputFileMap = some map) :
    ∀ entry ∈ map.entries, ∀ destination ∈ entry.2,
      ∃ text, VirtualPath.ofText text = .ok destination.2 := by
  have hload := h.outputFileMap
  rw [hmap, outputFileMapOf] at hload
  split at hload
  · simp at hload
  · obtain ⟨path, -, hrest⟩ := Diagnosed.outcome_bind_eq_ok.1 hload
    obtain ⟨loaded, hloaded, hsame⟩ := Diagnosed.outcome_bind_eq_ok.1 hrest
    obtain rfl := Option.some.inj (Except.ok.inj hsame)
    exact OutputFileMap.exists_text_of_load hloaded

end Settings.Resolved

end SwiftPlan
