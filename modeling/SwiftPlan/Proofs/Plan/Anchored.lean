import SwiftPlan.Proofs.Plan.Provenance

/-!
# Anchored plans

A user may say in which directory relative paths are to be seen.  Anchoring is done wherever a path
is made from a text, one place at a time, and every other step keeps the kind of the path that it
starts from.  So with a working directory no path of a build is relative (`anchored_plan`), with the
one exception of destinations, which stay as the output-file map gives them.
-/

namespace SwiftPlan

variable {surroundings : Surroundings} {environment : Environment} {arguments : List String}
  {settings : Settings} {directory : Option VirtualPath} {path path' : VirtualPath} {text : String}

/-! ## Anchoring -/

lemma ParsedOptions.isSome_lastValue? (parsed : ParsedOptions) (names : List String) :
    (parsed.lastValue? names).isSome = parsed.hasAny names := by
  rw [lastValue?, Option.isSome_map, last?, allOf, hasAny, Bool.eq_iff_iff, List.getLast?_isSome,
    Ne, List.filter_eq_nil_iff, List.any_eq_true]
  push Not
  rfl

/-- A working directory that is asked for is there. -/
lemma Settings.isSome_workingDirectoryOf {current : String} {options : ParsedOptions}
    (h : workingDirectoryOf current options = .ok directory)
    (hasked : options.contains "-working-directory" = true) : directory.isSome = true := by
  have hvalue : (options.lastValue? ["-working-directory"]).isSome = true := by
    rw [ParsedOptions.isSome_lastValue?]
    exact hasked
  obtain ⟨value, hvalue⟩ := Option.isSome_iff_exists.1 hvalue
  rw [workingDirectoryOf, hvalue] at h
  obtain ⟨written, -, hrest⟩ := bind_eq_ok.1 h
  split at hrest
  · obtain rfl := pure_eq_ok.1 hrest
    rfl
  · obtain ⟨joined, -, hsame⟩ := bind_eq_ok.1 hrest
    obtain rfl := pure_eq_ok.1 hsame
    rfl

section

variable (hanchor : IsAnchor directory) (hdirectory : directory.isSome = true)

include hanchor hdirectory

lemma kind_ne_relative_of_resolvedIn (h : path.resolvedIn directory = .ok path') :
    path'.kind ≠ .relative := by
  obtain ⟨root, rfl⟩ := Option.isSome_iff_exists.1 hdirectory
  by_cases hkind : path.kind = .relative
  · have happended : root.appending path.name = .ok path' := by
      simpa [VirtualPath.resolvedIn, hkind] using h
    obtain ⟨-, rfl⟩ := VirtualPath.appending_eq_ok.1 happended
    show root.kind ≠ .relative
    rw [(hanchor root rfl).1]
    decide
  · rcases resolvedIn_eq_ok h with rfl | ⟨hrelative, -⟩
    · exact hkind
    · exact absurd hrelative hkind

lemma kind_ne_relative_of_resolvePath (h : resolvePath directory text = .ok path) :
    path.kind ≠ .relative := by
  obtain ⟨written, -, hresolved⟩ := bind_eq_ok.1 h
  exact kind_ne_relative_of_resolvedIn hanchor hdirectory hresolved

lemma kind_ne_relative_of_relative
    (h : (do (← VirtualPath.relative text).resolvedIn directory) = .ok path) :
    path.kind ≠ .relative := by
  obtain ⟨written, -, hresolved⟩ := bind_eq_ok.1 h
  exact kind_ne_relative_of_resolvedIn hanchor hdirectory hresolved

omit hanchor hdirectory in
lemma kind_ne_relative_of_temporary (h : VirtualPath.temporary text = .ok path) :
    path.kind ≠ .relative := by
  rw [VirtualPath.temporary_eq_scratch h]
  show PathKind.temporary ≠ .relative
  decide

/-! Other steps keep the kind. -/

omit hanchor hdirectory in
lemma kind_sibling {name : String} (h : path.sibling name = .ok path') :
    path'.kind = path.kind := by
  rw [VirtualPath.sibling] at h
  split at h
  · obtain rfl := Except.ok.inj h
    rfl
  · next parent hparent =>
    obtain ⟨-, rfl⟩ := VirtualPath.appending_eq_ok.1 h
    rw [VirtualPath.parent?] at hparent
    split at hparent
    · cases hparent
    · obtain ⟨name, -, rfl⟩ := Option.map_eq_some_iff.1 hparent
      rfl

omit hanchor hdirectory in
lemma kind_withExtension {ext : String} (hne : ext ≠ "") (h : path.withExtension ext = .ok path') :
    path'.kind = path.kind := by
  obtain ⟨-, rfl⟩ := (VirtualPath.withExtension_eq_ok hne).1 h
  rfl

lemma ModulePath.kind_ne_relative {moduleName : String} (h : ModulePath moduleName directory path) :
    path.kind ≠ .relative := by
  induction h with
  | written _ hpath => exact kind_ne_relative_of_resolvePath hanchor hdirectory hpath
  | beside _ hplace hpath =>
    rw [kind_sibling hpath]
    exact kind_ne_relative_of_resolvePath hanchor hdirectory hplace
  | named hpath => exact kind_ne_relative_of_relative hanchor hdirectory hpath
  | scratch hpath => exact kind_ne_relative_of_temporary hpath
  | documentation _ hpath ih =>
    rw [kind_withExtension (by decide) hpath]
    exact ih

end

/-! ## Settings and plans -/

/-- No destination of the output-file map is relative. -/
def Settings.AnchorsMap (settings : Settings) : Prop :=
  ∀ map ∈ settings.outputFileMap, ∀ entry ∈ map.entries, ∀ destination ∈ entry.2,
    destination.2.kind ≠ .relative

instance : DecidablePred Settings.AnchorsMap := fun settings =>
  inferInstanceAs (Decidable (∀ map ∈ settings.outputFileMap, _))

section

variable (hresolved : settings.Resolved surroundings arguments)
  (hdirectory : settings.workingDirectory.isSome = true)

include hresolved hdirectory

lemma kind_ne_relative_of_mem_inputs {input : TypedPath} (h : input ∈ settings.inputs) :
    input.path.kind ≠ .relative := by
  obtain ⟨text, -, hinput⟩ := exists_of_mem_mapM hresolved.inputs h
  rcases inputOf_eq_ok hinput with rfl | ⟨path, -, -, -, -, hplace, -⟩
  · show PathKind.standardInput ≠ .relative
    decide
  · exact kind_ne_relative_of_resolvedIn hresolved.isAnchor hdirectory hplace

variable (hmap : settings.AnchorsMap)

include hmap

lemma kind_ne_relative_of_holds (h : settings.Holds path) : path.kind ≠ .relative := by
  cases h with
  | workingDirectory h =>
    rw [(hresolved.isAnchor path h).1]
    decide
  | input h => exact kind_ne_relative_of_mem_inputs hresolved hdirectory h
  | destination hloaded hentry h => exact hmap _ hloaded _ hentry _ h
  | module h => exact (hresolved.modulePath h).1.kind_ne_relative hresolved.isAnchor hdirectory
  | documentation h =>
    exact (hresolved.modulePath h).2.kind_ne_relative hresolved.isAnchor hdirectory

namespace Plan

omit hmap in
lemma OutputPath.kind_ne_relative (h : OutputPath settings path) : path.kind ≠ .relative := by
  cases h with
  | dash =>
    show PathKind.standardOutput ≠ .relative
    decide
  | written _ hpath => exact kind_ne_relative_of_resolvePath hresolved.isAnchor hdirectory hpath
  | named hpath => exact kind_ne_relative_of_relative hresolved.isAnchor hdirectory hpath

/-- What is made is anchored, or keeps the kind of what it is made from. -/
lemma kind_ne_relative_of_made (h : Made settings path) : path.kind ≠ .relative := by
  induction h with
  | mapped hunit htype hmapped =>
    obtain ⟨map, hloaded, entry, hentry, hdestination⟩ := exists_entry_of_mapped? hmapped
    exact hmap map hloaded entry hentry _ hdestination
  | scratch _ _ hpath => exact kind_ne_relative_of_temporary hpath
  | output houtput => exact houtput.kind_ne_relative hresolved hdirectory
  | module hfiles => exact kind_ne_relative_of_holds hresolved hdirectory hmap (.module hfiles)
  | documentation hfiles =>
    exact kind_ne_relative_of_holds hresolved hdirectory hmap (.documentation hfiles)
  | dependencies _ hpath ih =>
    rw [kind_withExtension (by decide) hpath]
    exact ih
  | autolink hpath => exact kind_ne_relative_of_temporary hpath
  | bundle _ _ ih => exact ih

lemma kind_ne_relative_of_occurs (h : Occurs settings path) : path.kind ≠ .relative := by
  cases h with
  | input hinput => exact kind_ne_relative_of_mem_inputs hresolved hdirectory hinput
  | made hmade => exact kind_ne_relative_of_made hresolved hdirectory hmap hmade
  | told htext => exact kind_ne_relative_of_resolvePath hresolved.isAnchor hdirectory htext

end Plan

end

/-! ## Requests -/

namespace Driver

variable {driver : Driver} {jobs : List Job}

/-- **The working directory anchors everything.**  If a working directory is asked for, and the
output-file map has no relative destination, then no path that the settings of a build hold and none
that its jobs mention is relative. -/
theorem anchored_plan
    (hdriver : (ofArguments surroundings environment arguments).outcome = .ok driver)
    (hrequest : driver.request = .build settings)
    (hasked : settings.options.contains "-working-directory" = true)
    (hmap : settings.AnchorsMap) (hplan : driver.plan.outcome = .ok jobs) :
    ∀ path, (settings.Holds path ∨ ∃ job ∈ jobs, job.Mentions path) → path.kind ≠ .relative := by
  have hresolved := resolved_of_ofArguments hdriver hrequest
  have hdirectory : settings.workingDirectory.isSome = true :=
    Settings.isSome_workingDirectoryOf hresolved.workingDirectory hasked
  intro path hpath
  rcases hpath with hholds | ⟨job, hjob, hmentions⟩
  · exact kind_ne_relative_of_holds hresolved hdirectory hmap hholds
  · have hoccurs : Plan.Occurs settings path := occurs_of_mentions hrequest hplan hjob hmentions
    exact Plan.kind_ne_relative_of_occurs hresolved hdirectory hmap hoccurs

/-- A machine with an output-file map that sends the object file of one source elsewhere. -/
def withObjects : Surroundings :=
  ⟨.ofFiles "/work"
    [("/work/-/m.json",
      "\x7b\"/work/-/a.swift\": \x7b\"object\": \"/objects/a.o\"\x7d\x7d".toUTF8)],
    ⟨"Linux", "x86_64", ""⟩⟩

/-- A dash is a directory like any other here. -/
theorem anchored_plan_of_dash :
    ∃ driver settings jobs,
      (ofArguments withObjects [] ["swiftc", "-c", "-working-directory", "-", "a.swift", "b.swift",
          "-I", "include", "-output-file-map", "m.json"]).outcome = .ok driver ∧
        driver.request = .build settings ∧
        settings.options.contains "-working-directory" = true ∧ settings.AnchorsMap ∧
        driver.plan.outcome = .ok jobs ∧
        settings.inputs.map (·.path) =
          [⟨.absolute, "/work/-/a.swift"⟩, ⟨.absolute, "/work/-/b.swift"⟩] ∧
        (jobs.flatMap (·.outputs)).map (·.path) =
          [⟨.absolute, "/objects/a.o"⟩, ⟨.absolute, "/work/-/b.o"⟩] ∧
        ∀ path, (settings.Holds path ∨ ∃ job ∈ jobs, job.Mentions path) →
          path.kind ≠ .relative := by
  have hany : (built? (ofPlainArguments withObjects [] ["swiftc", "-c", "-working-directory", "-",
      "a.swift", "b.swift", "-I", "include", "-output-file-map", "m.json"])).any
      (fun built => built.1.options.contains "-working-directory" && decide built.1.AnchorsMap &&
        built.1.inputs.map (·.path) ==
          [⟨.absolute, "/work/-/a.swift"⟩, ⟨.absolute, "/work/-/b.swift"⟩] &&
        (built.2.flatMap (·.outputs)).map (·.path) ==
          [⟨.absolute, "/objects/a.o"⟩, ⟨.absolute, "/work/-/b.o"⟩]) = true := by
    decide +kernel
  obtain ⟨driver, settings, jobs, hdriver, hrequest, hplan, hproperty⟩ :=
    exists_of_any_built (by decide +kernel) hany
  simp only [Bool.and_eq_true, beq_iff_eq, decide_eq_true_eq] at hproperty
  obtain ⟨⟨⟨hasked, hmap⟩, hinputs⟩, houtputs⟩ := hproperty
  exact ⟨driver, settings, jobs, hdriver, hrequest, hasked, hmap, hplan, hinputs, houtputs,
    anchored_plan hdriver hrequest hasked hmap hplan⟩

end Driver

end SwiftPlan
