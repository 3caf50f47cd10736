import SwiftPlan.Proofs.Plan.Provenance

/-!
# Outputs and streams

A dash means the standard input where a path is read, and the standard output where a user says
where the product or the only object goes.  The latter is the only way in which the standard output
becomes an output.  The standard input is none, since nothing is written beside a stream, and
options for files of the module refuse a dash.  Only destinations of the output-file map are read
like any path, so that a dash makes the standard input an output there.  A plan has such an output
exactly if a unit looks up such a destination (`streams_plan_iff`,
`exists_output_to_standardInput`).
-/

namespace SwiftPlan

namespace Plan

variable {surroundings : Surroundings} {arguments : List String} {settings : Settings}
  {unit : CompileUnit} {type : FileType} {path : VirtualPath} {job : Job} {jobs : List Job}

/-- A unit that is compiled looks up a destination that is the standard input. -/
def MapsToInput (settings : Settings) : Prop :=
  (settings.mode = .standard ∨ settings.mode = .single) ∧
    ∃ unit ∈ compileUnits settings, ∃ type ∈ consultedTypes settings,
      unit.mapped? settings type = some .standardInput

instance : DecidablePred MapsToInput := fun settings =>
  inferInstanceAs (Decidable (_ ∧ ∃ unit ∈ compileUnits settings, _))

/-! ## Streams that are made -/

/-- The only stream among destinations is the standard input. -/
lemma eq_standardInput_of_mapped? (hresolved : settings.Resolved surroundings arguments)
    (h : unit.mapped? settings type = some path) (hstream : path.isStream = true) :
    path = .standardInput := by
  obtain ⟨map, hmap, entry, hentry, hdestination⟩ := exists_entry_of_mapped? h
  obtain ⟨text, htext⟩ := hresolved.exists_text_of_destination hmap entry hentry _ hdestination
  rcases VirtualPath.ofText_eq_ok htext with ⟨-, hpath⟩ | ⟨-, -, hpath⟩ | ⟨-, -, hpath⟩
  · exact hpath
  · obtain rfl : path = _ := hpath
    cases hstream
  · obtain rfl : path = _ := hpath
    cases hstream

/-- Among the places where a result can go, the only stream is the standard output. -/
lemma OutputPath.eq_standardOutput (hanchor : IsAnchor settings.workingDirectory)
    (h : OutputPath settings path) (hstream : path.isStream = true) :
    path = .standardOutput ∧ settings.options.lastValue? ["-o"] = some "-" := by
  cases h with
  | dash hlast => exact ⟨rfl, hlast⟩
  | written hdash hpath => exact absurd ((isStream_resolvePath hanchor hpath).1 hstream) hdash
  | named hpath => simp [VirtualPath.isStream_relative_resolvedIn hanchor hpath] at hstream

/-- A stream that is made is a destination, or it is the standard output because the user says
so. -/
lemma stream_of_made (hresolved : settings.Resolved surroundings arguments)
    (h : Made settings path) (hstream : path.isStream = true) :
    (path = .standardInput ∧ ∃ unit ∈ compileUnits settings, ∃ type ∈ consultedTypes settings,
        unit.mapped? settings type = some .standardInput) ∨
      path = .standardOutput ∧ settings.options.lastValue? ["-o"] = some "-" := by
  have hanchor := hresolved.isAnchor
  induction h with
  | mapped hunit htype hmapped =>
    obtain rfl := eq_standardInput_of_mapped? hresolved hmapped hstream
    exact .inl ⟨rfl, _, hunit, _, htype, hmapped⟩
  | scratch _ _ hpath => simp [VirtualPath.isStream_temporary hpath] at hstream
  | output houtput => exact .inr (houtput.eq_standardOutput hanchor hstream)
  | module hfiles => simp [(hresolved.isStream_moduleFiles hfiles).1] at hstream
  | documentation hfiles => simp [(hresolved.isStream_moduleFiles hfiles).2] at hstream
  | dependencies _ hpath _ =>
    simp [VirtualPath.isStream_withExtension (by decide) hpath] at hstream
  | autolink hpath => simp [VirtualPath.isStream_temporary hpath] at hstream
  | @bundle image _ himage _ =>
    have hsame : image.isStream = true := hstream
    simp [himage] at hsame

/-! ## Destinations that are looked up -/

lemma mem_consultedTypes :
    type ∈ consultedTypes settings ↔
      type = .object ∧ settings.goal.compilerOutput? = some .object ∨
        (type = .swiftModule ∨ type = .swiftDocumentation) ∧ writesPartialModules settings = true ∨
        type = .dependencies ∧ settings.options.contains "-emit-dependencies" = true ∨
        type = .swiftDependencies := by
  simp only [consultedTypes, List.mem_append, List.mem_ite_nil_right, List.mem_cons,
    List.not_mem_nil, or_false]
  tauto

/-- Where the map gives a destination of a type that is looked up, the file goes there. -/
lemma mem_outputs_of_mapped? (hcompile : compileJob settings unit = .ok job)
    (htype : type ∈ consultedTypes settings) (h : unit.mapped? settings type = some path) :
    ⟨path, type⟩ ∈ job.outputs := by
  obtain ⟨objects, modules, dependencies, hobjects, hmodules, hdependencies, houtputs⟩ :=
    outputs_of_compileJob hcompile
  have hmem {file : CompileFile} (hfile : file ∈ objects ∨ file ∈ modules ∨ file ∈ dependencies ∨
      file ∈ unit.swiftDependencyFiles settings) : CompileFile.output file ∈ job.outputs := by
    rw [houtputs]
    apply List.mem_map_of_mem
    simp only [List.mem_append, or_assoc]
    exact hfile
  rcases mem_consultedTypes.1 htype with ⟨rfl, hgoal⟩ | ⟨hmodule, hpartial⟩ | ⟨rfl, hasked⟩ | rfl
  · rcases objectFiles_eq_ok hobjects with ⟨-, object, hobject, rfl⟩ | ⟨hnone, -⟩
    · obtain rfl := eq_of_mapped? h hobject
      exact hmem (.inl List.mem_cons_self)
    · exact absurd hgoal hnone
  · rcases moduleFiles_eq_ok hmodules with ⟨hnone, -⟩ | ⟨files, -, hparts | ⟨hwhole, -⟩⟩
    · simp [writesPartialModules, hnone] at hpartial
    · obtain ⟨-, module, documentation, hpart, hpart', rfl⟩ := hparts
      rcases hmodule with rfl | rfl
      · obtain rfl := eq_of_mapped? h hpart
        exact hmem (.inr (.inl List.mem_cons_self))
      · obtain rfl := eq_of_mapped? h hpart'
        exact hmem (.inr (.inl (List.mem_cons_of_mem _ List.mem_cons_self)))
    · simp [hwhole] at hpartial
  · rcases dependencyFiles_eq_ok hdependencies with ⟨-, list, hlist, rfl⟩ | ⟨hnone, -⟩
    · obtain rfl := eq_of_mapped? h hlist
      exact hmem (.inr (.inr (.inl List.mem_cons_self)))
    · simp [hnone] at hasked
  · have hfile : (.swiftDependencies, path) ∈ unit.swiftDependencyFiles settings := by
      simp [CompileUnit.swiftDependencyFiles, h]
    exact hmem (.inr (.inr (.inr hfile)))

/-- What runs code at once writes nothing. -/
lemma mode_of_mem_outputs {output : TypedPath} (h : (ofSettings settings).outcome = .ok jobs)
    (hjob : job ∈ jobs) (houtput : output ∈ job.outputs) :
    settings.mode = .standard ∨ settings.mode = .single := by
  by_contra hmode
  have hother : settings.mode = .repl ∨ settings.mode = .immediate := by
    cases hcase : settings.mode <;> simp [hcase] at hmode ⊢
  have hmem : output ∈ jobs.flatMap (·.outputs) := List.mem_flatMap_of_mem hjob houtput
  rw [flatMap_outputs_of_ofSettings hother h] at hmem
  cases hmem

/-- Every unit is compiled, unless the build does not compile at all. -/
lemma exists_output_of_mapsToInput (h : MapsToInput settings)
    (hplan : (ofSettings settings).outcome = .ok jobs) :
    ∃ job ∈ jobs, ∃ output ∈ job.outputs, output.path = .standardInput := by
  obtain ⟨hmode, unit, hunit, type, htype, hmapped⟩ := h
  have hinputs : settings.inputs ≠ [] := by
    intro hnone
    have hunits : compileUnits settings = [] := by
      apply compileUnits_eq_nil_iff.2
      rw [swiftInputs, hnone, List.filter_nil]
    simp [hunits] at hunit
  rcases (ofSettings_eq_ok hmode).1 hplan with ⟨hnone, -⟩ | ⟨-, hbuild⟩
  · exact absurd hnone hinputs
  · obtain ⟨compiles, merges, links, hcompiles, -, -, rfl⟩ := buildJobs_eq_ok hbuild
    obtain ⟨job, hjob, hcompile⟩ := eq_ok_of_mem_mapM hcompiles hunit
    refine ⟨job, ?_, _, mem_outputs_of_mapped? hcompile htype hmapped, rfl⟩
    exact List.mem_append_left _ (List.mem_append_left _ hjob)

end Plan

/-! ## Requests -/

namespace Driver

open Plan

variable {surroundings : Surroundings} {environment : Environment} {arguments : List String}
  {driver : Driver} {settings : Settings} {jobs : List Job}

/-- **Streams among outputs.**  A plan writes to the standard input exactly if a unit looks up such
a destination in the output-file map, and to the standard output only if the last output that is
given is a dash. -/
theorem streams_plan_iff
    (hdriver : (ofArguments surroundings environment arguments).outcome = .ok driver)
    (hrequest : driver.request = .build settings) (hplan : driver.plan.outcome = .ok jobs) :
    ((∃ job ∈ jobs, ∃ output ∈ job.outputs, output.path.kind = .standardInput) ↔
        MapsToInput settings) ∧
      ∀ job ∈ jobs, ∀ output ∈ job.outputs, output.path.kind = .standardOutput →
        settings.options.lastValue? ["-o"] = some "-" := by
  have hresolved := resolved_of_ofArguments hdriver hrequest
  have hstream {job : Job} (hjob : job ∈ jobs) {output : TypedPath} (houtput : output ∈ job.outputs)
      (hkind : output.path.kind.isStream = true) :=
    stream_of_made hresolved (made_of_mem_outputs hrequest hplan hjob houtput) hkind
  refine ⟨⟨?_, fun hmaps => ?_⟩, ?_⟩
  · rintro ⟨job, hjob, output, houtput, hkind⟩
    rcases hstream hjob houtput (by rw [hkind]; rfl) with ⟨-, hmapped⟩ | ⟨hout, -⟩
    · obtain ⟨plain, hplain, rfl⟩ := (plan_eq_ok hrequest).1 hplan
      obtain ⟨made, hmade, rfl⟩ := List.mem_map.1 hjob
      have hwritten : output ∈ made.outputs := houtput
      exact ⟨mode_of_mem_outputs hplain hmade hwritten, hmapped⟩
    · rw [hout] at hkind
      cases hkind
  · obtain ⟨plain, hplain, rfl⟩ := (plan_eq_ok hrequest).1 hplan
    obtain ⟨job, hjob, output, houtput, hpath⟩ := exists_output_of_mapsToInput hmaps hplain
    refine ⟨job.equip driver.toolchain, List.mem_map_of_mem hjob, output, houtput, ?_⟩
    rw [hpath]
    rfl
  · intro job hjob output houtput hkind
    rcases hstream hjob houtput (by rw [hkind]; rfl) with ⟨hin, -⟩ | ⟨-, hlast⟩
    · rw [hin] at hkind
      cases hkind
    · exact hlast

/-- An object file that goes to the standard output. -/
theorem streams_plan_iff_of_dash :
    ∃ driver settings jobs,
      (ofArguments .bare [] ["swiftc", "-c", "a.swift", "-o", "-"]).outcome = .ok driver ∧
        driver.request = .build settings ∧ driver.plan.outcome = .ok jobs ∧
        jobs.flatMap (·.outputs) = [⟨⟨.standardOutput, ""⟩, .object⟩] ∧
        ((∃ job ∈ jobs, ∃ output ∈ job.outputs, output.path.kind = .standardInput) ↔
          MapsToInput settings) ∧
        ∀ job ∈ jobs, ∀ output ∈ job.outputs, output.path.kind = .standardOutput →
          settings.options.lastValue? ["-o"] = some "-" := by
  have hany : (built? (ofPlainArguments .bare [] ["swiftc", "-c", "a.swift", "-o", "-"])).any
      (fun built =>
        built.2.flatMap (·.outputs) == [⟨⟨.standardOutput, ""⟩, .object⟩]) = true := by
    decide +kernel
  obtain ⟨driver, settings, jobs, hdriver, hrequest, hplan, houtputs⟩ :=
    exists_of_any_built (by decide +kernel) hany
  exact ⟨driver, settings, jobs, hdriver, hrequest, hplan, eq_of_beq houtputs,
    streams_plan_iff hdriver hrequest hplan⟩

/-- A machine with an output-file map that sends the object file of one source to a dash. -/
def withDash : Surroundings :=
  ⟨.ofFiles "/work"
    [("m.json", "\x7b\"a.swift\": \x7b\"object\": \"-\"\x7d\x7d".toUTF8)],
    ⟨"Linux", "x86_64", ""⟩⟩

/-- A job may write its object file to the standard input, where no output is given at all. -/
theorem exists_output_to_standardInput :
    ∃ driver settings jobs,
      (ofArguments withDash [] ["swiftc", "a.swift", "-output-file-map", "m.json"]).outcome =
          .ok driver ∧
        driver.request = .build settings ∧ driver.plan.outcome = .ok jobs ∧
        settings.options.lastValue? ["-o"] = none ∧
        ∃ job ∈ jobs, ∃ output ∈ job.outputs, output.path.kind = .standardInput := by
  have hany : (built? (ofPlainArguments withDash [] ["swiftc", "a.swift", "-output-file-map",
      "m.json"])).any
      (fun built => built.1.options.lastValue? ["-o"] == none && built.2.any fun job =>
        job.outputs.any fun output => output.path.kind == .standardInput) = true := by
    decide +kernel
  obtain ⟨driver, settings, jobs, hdriver, hrequest, hplan, hproperty⟩ :=
    exists_of_any_built (by decide +kernel) hany
  simp only [Bool.and_eq_true, beq_iff_eq, List.any_eq_true] at hproperty
  obtain ⟨hlast, hwritten⟩ := hproperty
  exact ⟨driver, settings, jobs, hdriver, hrequest, hplan, hlast, hwritten⟩

end Driver

end SwiftPlan
