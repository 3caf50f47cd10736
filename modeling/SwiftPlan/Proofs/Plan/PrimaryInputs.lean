import SwiftPlan.Proofs.Plan.Shape

/-!
# Primary inputs

Each compile job reads all Swift inputs, and a mark on its command line says which of them it is to
compile.  The mark goes by the place of the input and not by its path, so it stays where it belongs
if one path is given several times.

The main statement gives the command lines of all compile jobs (`commands_of_plan`).  Besides the
mark and the files at the end they are the same in each job, as the options of the compiler depend
on the settings only.  That these options mark no further input needs a look at how they are
written: a path among them stands behind its own option (`Unmarked`), and what a user hands on to
the compiler comes last, with no path directly behind it.
-/

namespace SwiftPlan

/-- The option that marks the input behind it as the one to compile. -/
def primaryMark : String := "-primary-file"

/-- The paths that stand directly behind a mark, where `marks` says whether a mark comes before
all. -/
def Argument.markedAfter (marks : Bool) : List Argument → List VirtualPath
  | [] => []
  | .flag text :: rest => markedAfter (text == primaryMark) rest
  | .path file _ :: rest => (if marks then [file] else []) ++ markedAfter false rest

/-- The inputs that a job is told to compile. -/
def Job.primaryInputs (job : Job) : List VirtualPath :=
  Argument.markedAfter false job.commandLine

namespace Plan

/-- The option that tells the compiler where a file goes, for the types of files that it writes. -/
def outputFlag? : FileType → Option String
  | .object => some "-o"
  | .swiftModule => some "-emit-module-path"
  | .swiftDocumentation => some "-emit-module-doc-path"
  | .dependencies => some "-emit-dependencies-path"
  | .swiftDependencies => some "-emit-reference-dependencies-path"
  | _ => none

/-- The arguments tell the compiler where each of the files goes, one after another. -/
inductive Places : List TypedPath → List Argument → Prop where
  | nil : Places [] []
  | cons {file : TypedPath} {flag : String} {files : List TypedPath} {arguments : List Argument}
      (hflag : outputFlag? file.type = some flag) (hrest : Places files arguments) :
      Places (file :: files) (.flag flag :: .file file.path :: arguments)

/-- The job does `action` on these inputs with these options, and is told where its outputs go. -/
def Commands (action : String) (inputs options : List Argument) (job : Job) : Prop :=
  ∃ outputs, Places job.outputs outputs ∧
    job.commandLine = [.flag "-frontend", .flag action] ++ inputs ++ options ++ outputs

/-- All sources in order, with a mark in front of the one at an index. -/
def markedInputs (sources : List TypedPath) (index : Nat) : List Argument :=
  fileArguments (sources.take index) ++ .flag primaryMark :: fileArguments (sources.drop index)

variable {settings : Settings} {unit : CompileUnit} {job : Job} {compiles jobs : List Job}
  {sources : List TypedPath} {index : Nat} {action : String} {inputs options : List Argument}

/-! ## Inputs -/

/-- Behind the marked source there is no further mark. -/
lemma flatMap_zipIdx_of_lt {start : Nat} (h : index < start) :
    (sources.zipIdx start).flatMap (fun source =>
        (if index == source.2 then [.flag primaryMark] else []) ++ [.file source.1.path]) =
      fileArguments sources := by
  induction sources generalizing start with
  | nil => rfl
  | cons source rest ih =>
    have hne : index ≠ start := by omega
    rw [List.zipIdx_cons, List.flatMap_cons, ih (by omega)]
    simp [hne, fileArguments]

/-- The mark is put in front of the source at the index, wherever counting starts. -/
lemma flatMap_zipIdx_add (start : Nat) (h : index < sources.length) :
    (sources.zipIdx start).flatMap (fun source =>
        (if start + index == source.2 then [.flag primaryMark] else []) ++
          [.file source.1.path]) =
      markedInputs sources index := by
  induction sources generalizing start index with
  | nil => simp at h
  | cons source rest ih =>
    rw [List.zipIdx_cons, List.flatMap_cons]
    cases index with
    | zero =>
      rw [Nat.add_zero, flatMap_zipIdx_of_lt (Nat.lt_succ_self start)]
      simp [markedInputs, fileArguments]
    | succ index =>
      have hrest := ih (start + 1) (Nat.lt_of_succ_lt_succ h)
      have hnext : start + (index + 1) = start + 1 + index := by omega
      have hne : start + 1 + index ≠ start := by omega
      rw [hnext, hrest]
      simp [hne, markedInputs, fileArguments]

lemma inputArguments_primary {source : TypedPath} (h : index < (swiftInputs settings).length) :
    (CompileUnit.primary source index).inputArguments settings =
      markedInputs (swiftInputs settings) index := by
  have hmarked := flatMap_zipIdx_add 0 h
  rw [Nat.zero_add] at hmarked
  rw [← hmarked]
  rfl

lemma inputArguments_whole :
    CompileUnit.whole.inputArguments settings = fileArguments (swiftInputs settings) := by
  have hfiles : fileArguments (swiftInputs settings) =
      (swiftInputs settings).zipIdx.map fun source => .file source.1.path := by
    conv_lhs => rw [← List.zipIdx_map_fst 0 (swiftInputs settings)]
    rw [fileArguments, List.map_map]
    rfl
  rw [hfiles, CompileUnit.inputArguments, ← List.flatMap_pure_eq_map]
  rfl

/-! ## Outputs -/

lemma outputFlag?_type (output : CompileOutput) : outputFlag? output.type = some output.flag := by
  cases output <;> rfl

lemma places_files (files : List CompileFile) :
    Places (files.map CompileFile.output)
      (files.flatMap fun file => Argument.option file.1.flag file.2) := by
  induction files with
  | nil => exact .nil
  | cons file rest ih => exact .cons (outputFlag?_type file.1) ih

/-- The command line of a compile job, in which the unit decides on inputs and outputs only. -/
lemma commands_of_compileJob (h : compileJob settings unit = .ok job)
    (hoptions : frontendOptions settings = .ok options) :
    Commands (compileAction settings.goal) (unit.inputArguments settings) options job := by
  obtain ⟨files, options', -, hoptions', -, -, houtputs, hcommand⟩ := compileJob_eq_ok h
  obtain rfl := Except.ok.inj (hoptions.symm.trans hoptions')
  exact ⟨_, houtputs ▸ places_files files, hcommand⟩

/-! ## Marks -/

/-- Arguments in which each path stands directly behind an option that is not the mark. -/
inductive Unmarked : List Argument → Prop where
  | nil : Unmarked []
  | flag (text : String) {rest : List Argument} (hrest : Unmarked rest) :
      Unmarked (.flag text :: rest)
  | option {spelling : String} (path : VirtualPath) {rest : List Argument}
      (hspelling : spelling ≠ primaryMark) (hrest : Unmarked rest) :
      Unmarked (.flag spelling :: .file path :: rest)

variable {first second : List Argument}

/-- No path stands first, so that it does not matter whether a mark comes before. -/
lemma Unmarked.markedAfter_eq (h : Unmarked first) (marks : Bool) :
    Argument.markedAfter marks first = [] := by
  induction h generalizing marks with
  | nil => rfl
  | flag text hrest ih => exact ih _
  | @option spelling path rest hspelling hrest ih =>
    have hmark : (spelling == primaryMark) = false := beq_eq_false_iff_ne.2 hspelling
    rw [Argument.markedAfter, hmark]
    exact ih false

lemma Unmarked.append (hfirst : Unmarked first) (hsecond : Unmarked second) :
    Unmarked (first ++ second) := by
  induction hfirst with
  | nil => exact hsecond
  | flag text _ ih => exact .flag text ih
  | option path hspelling _ ih => exact .option path hspelling ih

/-- Nothing that is handed on is handed on with a mark in front of a path. -/
lemma compositional_unmarked : Compositional settings Unmarked where
  nil := .nil
  append := .append
  flag text := .flag text .nil
  option hspelling _ := by
    refine .option _ ?_ .nil
    rintro rfl
    simp [pathFlags, primaryMark] at hspelling

lemma Places.unmarked {files : List TypedPath} (h : Places files options) : Unmarked options := by
  induction h with
  | nil => exact .nil
  | cons hflag hrest ih =>
    refine .option _ ?_ ih
    rintro rfl
    rw [outputFlag?.eq_def] at hflag
    split at hflag <;> revert hflag <;> decide

/-- Files alone mark nothing. -/
lemma markedAfter_fileArguments (files : List TypedPath) (rest : List Argument) :
    Argument.markedAfter false (fileArguments files ++ rest) = Argument.markedAfter false rest := by
  induction files with
  | nil => rfl
  | cons file others ih => exact ih

lemma markedAfter_markedInputs {source : TypedPath} (h : sources[index]? = some source)
    {rest : List Argument} (hrest : Unmarked rest) :
    Argument.markedAfter false (markedInputs sources index ++ rest) = [source.path] := by
  obtain ⟨hindex, rfl⟩ := List.getElem?_eq_some_iff.1 h
  have hbehind : fileArguments (sources.drop index) =
      .file sources[index].path :: fileArguments (sources.drop (index + 1)) := by
    rw [List.drop_eq_getElem_cons hindex]
    rfl
  rw [markedInputs, hbehind, List.append_assoc, markedAfter_fileArguments, List.cons_append,
    List.cons_append]
  show [sources[index].path] ++ Argument.markedAfter false (fileArguments _ ++ rest) = _
  rw [markedAfter_fileArguments, hrest.markedAfter_eq, List.append_nil]

lemma Commands.primaryInputs_eq (h : Commands action inputs options job)
    (haction : action ≠ primaryMark) :
    ∃ outputs, Places job.outputs outputs ∧
      job.primaryInputs = Argument.markedAfter false (inputs ++ (options ++ outputs)) := by
  obtain ⟨outputs, houtputs, hcommand⟩ := h
  refine ⟨outputs, houtputs, ?_⟩
  have hmark : (action == primaryMark) = false := beq_eq_false_iff_ne.2 haction
  rw [Job.primaryInputs, hcommand, List.append_assoc, List.append_assoc]
  show Argument.markedAfter (action == primaryMark) (inputs ++ (options ++ outputs)) = _
  rw [hmark]

/-! ## The compile jobs of a plan -/

/-- What a compile job may be told to do. -/
def compileActions : List String :=
  ["-c", "-emit-module", "-typecheck"]

lemma compileAction_mem (goal : BuildGoal) : compileAction goal ∈ compileActions := by
  cases goal <;> simp [compileAction, compileActions]

lemma ne_primaryMark_of_mem (h : action ∈ compileActions) : action ≠ primaryMark := by
  rintro rfl
  simp [compileActions, primaryMark] at h

/-- Each job has the options of the compiler, which are worked out if there is a job. -/
lemma exists_frontendOptions (h : compileJobs settings = .ok compiles) :
    ∃ options, ∀ job ∈ compiles, frontendOptions settings = .ok options := by
  cases compiles with
  | nil => exact ⟨[], by simp⟩
  | cons job rest =>
    obtain ⟨unit, -, hunit⟩ := exists_unit_of_mem h List.mem_cons_self
    obtain ⟨-, options, -, hoptions, -⟩ := compileJob_eq_ok hunit
    exact ⟨options, fun _ _ => hoptions⟩

lemma commands_of_standard (hmode : settings.mode = .standard)
    (h : compileJobs settings = .ok compiles)
    (hoptions : ∀ job ∈ compiles, frontendOptions settings = .ok options) {source : TypedPath}
    (hsource : (swiftInputs settings)[index]? = some source) :
    ∃ job, compiles[index]? = some job ∧
      Commands (compileAction settings.goal) (markedInputs (swiftInputs settings) index) options
          job ∧
        job.primaryInputs = [source.path] := by
  have hunits := compileJobs_eq_ok.1 h
  rw [compileUnits_of_standard hmode, List.forall₂_map_left_iff] at hunits
  obtain ⟨hindex, rfl⟩ := List.getElem?_eq_some_iff.1 hsource
  have hplace : index < (swiftInputs settings).zipIdx.length := by simpa using hindex
  have hcompiled : index < compiles.length := hunits.length_eq ▸ hplace
  have hjob := hunits.get hplace hcompiled
  simp only [List.get_eq_getElem, List.getElem_zipIdx, Nat.zero_add] at hjob
  have hoptions := hoptions _ (List.getElem_mem hcompiled)
  have hcommands := commands_of_compileJob hjob hoptions
  rw [inputArguments_primary hindex] at hcommands
  refine ⟨compiles[index], List.getElem?_eq_getElem hcompiled, hcommands, ?_⟩
  obtain ⟨outputs, houtputs, hprimary⟩ :=
    hcommands.primaryInputs_eq (ne_primaryMark_of_mem (compileAction_mem settings.goal))
  rw [hprimary]
  exact markedAfter_markedInputs hsource
    ((compositional_unmarked.frontendOptions hoptions).append houtputs.unmarked)

lemma commands_of_single (hmode : settings.mode = .single) (hswift : swiftInputs settings ≠ [])
    (h : compileJobs settings = .ok compiles)
    (hoptions : ∀ job ∈ compiles, frontendOptions settings = .ok options) :
    ∃ job, compiles = [job] ∧
      Commands (compileAction settings.goal) (fileArguments (swiftInputs settings)) options job ∧
        job.primaryInputs = [] := by
  have hunits := compileJobs_eq_ok.1 h
  rw [compileUnits_of_single hmode hswift, List.forall₂_cons_left_iff] at hunits
  obtain ⟨job, rest, hjob, hrest, rfl⟩ := hunits
  obtain rfl := List.forall₂_nil_left_iff.1 hrest
  have hoptions := hoptions job List.mem_cons_self
  have hcommands := commands_of_compileJob hjob hoptions
  rw [inputArguments_whole] at hcommands
  refine ⟨job, rfl, hcommands, ?_⟩
  obtain ⟨outputs, houtputs, hprimary⟩ :=
    hcommands.primaryInputs_eq (ne_primaryMark_of_mem (compileAction_mem settings.goal))
  have hunmarked := (compositional_unmarked.frontendOptions hoptions).append houtputs.unmarked
  rw [hprimary, markedAfter_fileArguments, hunmarked.markedAfter_eq]

variable {driver : Driver}

/-- **Each Swift input is compiled once.**  If inputs are compiled one by one then there are as many
compile jobs as Swift inputs, and the one at an index is told all inputs, with a mark in front of
the one at this index.  If they are compiled together then one job is told all inputs, and none is
marked.  What else a job is told is the same for all jobs, and the places of its own outputs. -/
theorem commands_of_plan (hrequest : driver.request = .build settings)
    (hplan : driver.plan.outcome = .ok jobs) :
    ∃ action ∈ compileActions, ∃ options,
      (settings.mode = .standard →
        (ofKind .compile jobs).length = (swiftInputs settings).length ∧
          ∀ index source, (swiftInputs settings)[index]? = some source →
            ∃ job, (ofKind .compile jobs)[index]? = some job ∧
              Commands action (markedInputs (swiftInputs settings) index) options job ∧
              job.primaryInputs = [source.path]) ∧
      (settings.mode = .single → swiftInputs settings ≠ [] →
        ∃ job, ofKind .compile jobs = [job] ∧
          Commands action (fileArguments (swiftInputs settings)) options job ∧
          job.primaryInputs = []) := by
  by_cases hmode : settings.mode = .standard ∨ settings.mode = .single
  · obtain ⟨compiles, hcompiles, hkind⟩ := compileJobs_of_plan hrequest hmode hplan
    obtain ⟨options, hoptions⟩ := exists_frontendOptions hcompiles
    refine ⟨_, compileAction_mem settings.goal, options, fun hstandard => ⟨?_, ?_⟩,
      fun hsingle hswift => ?_⟩
    · have hunits := (compileJobs_eq_ok.1 hcompiles).length_eq
      rw [hkind, List.length_map, ← hunits, compileUnits_of_standard hstandard, List.length_map,
        List.length_zipIdx]
    · intro index source hsource
      obtain ⟨job, hjob, hcommands, hprimary⟩ :=
        commands_of_standard hstandard hcompiles hoptions hsource
      refine ⟨job.equip driver.toolchain, ?_, hcommands, hprimary⟩
      rw [hkind, List.getElem?_map, hjob, Option.map_some]
    · obtain ⟨job, rfl, hcommands, hprimary⟩ :=
        commands_of_single hsingle hswift hcompiles hoptions
      exact ⟨job.equip driver.toolchain, hkind, hcommands, hprimary⟩
  · -- what is run or read from a terminal is not compiled
    exact ⟨_, compileAction_mem settings.goal, [], fun hstandard => absurd (.inl hstandard) hmode,
      fun hsingle => absurd (.inr hsingle) hmode⟩

/-- A source that is given twice is compiled twice, each time at its own place, and a mark that is
handed on to the compiler marks nothing. -/
theorem commands_of_plan_of_repeated_source :
    let source (name : String) : TypedPath := ⟨⟨.relative, name⟩, .swift⟩
    let arguments := ["swiftc", "-c", "a.swift", "b.swift", "a.swift", "-Xfrontend",
      "-primary-file"]
    ∃ driver settings jobs,
      (Driver.ofArguments .bare [] arguments).outcome = .ok driver ∧
        driver.request = .build settings ∧ driver.plan.outcome = .ok jobs ∧
        swiftInputs settings = [source "a.swift", source "b.swift", source "a.swift"] ∧
        (ofKind .compile jobs).length = 3 ∧
        ∃ job, (ofKind .compile jobs)[2]? = some job ∧
          job.primaryInputs = [(source "a.swift").path] ∧
          ∃ action options, Commands action
            [.file (source "a.swift").path, .file (source "b.swift").path, .flag primaryMark,
              .file (source "a.swift").path] options job := by
  intro source arguments
  have hany : (Driver.built? (Driver.ofPlainArguments .bare [] arguments)).any
      (fun built => built.1.mode == .standard &&
        swiftInputs built.1 == [source "a.swift", source "b.swift", source "a.swift"]) = true := by
    decide +kernel
  obtain ⟨driver, settings, jobs, hdriver, hrequest, hplan, hproperty⟩ :=
    Driver.exists_of_any_built (by decide +kernel) hany
  simp only [Bool.and_eq_true, beq_iff_eq] at hproperty
  obtain ⟨hmode, hswift⟩ := hproperty
  obtain ⟨action, -, options, hstandard, -⟩ := commands_of_plan hrequest hplan
  obtain ⟨hlength, hcommands⟩ := hstandard hmode
  obtain ⟨job, hjob, hcommand, hprimary⟩ := hcommands 2 (source "a.swift") (by rw [hswift]; rfl)
  rw [hswift] at hlength hcommand
  exact ⟨driver, settings, jobs, hdriver, hrequest, hplan, hswift, hlength, job, hjob, hprimary,
    action, options, hcommand⟩

end Plan

end SwiftPlan
