import Mathlib.Data.List.Nodup
import SwiftPlan.Proofs.Plan.Jobs
import SwiftPlan.Proofs.ResponseFile.Plain

/-!
# What the environment decides

Two drivers that read the same request in different environments are compared.  A plan is made with
plain tools, whose executables bear the names of the tools, and only then the executables of the
environment are put in.  So the drivers fail in the same way or agree in all but their environments
(`ofArguments_environment`), and a job of one plan is the same job of the other one with another
executable, which is the one that the variable of its tool gives (`Reequipped`).

That a variable has nothing to do with the jobs of other tools rests on two facts.  Every job of a
plan needs one of eight tools (`HasKnownTool`), and these eight have variables of their own
(`nodup_variableName`), although not all texts do: tool names are brought to upper case, and dashes
become underscores.
-/

namespace SwiftPlan

/-- The executable that an environment gives the tool of this name: the value of the variable of the
tool if that is set and not empty, and the name itself otherwise. -/
def Environment.executable (environment : Environment) (name : String) : String :=
  ((environment.lookup (Tool.variableName name)).filter (· ≠ "")).getD name

lemma Tool.inEnvironment_eq (environment : Environment) (name : String) :
    Tool.inEnvironment environment name = ⟨name, environment.executable name⟩ := by
  unfold Tool.inEnvironment Environment.executable
  cases environment.lookup (Tool.variableName name) with
  | none => rfl
  | some path =>
    by_cases hempty : path = ""
    · simp [hempty, Tool.plain, Option.filter]
    · simp [hempty, Option.filter]

/-- No two tools have the same variable. -/
lemma Tool.nodup_variableName : (Tool.names.map Tool.variableName).Nodup := by
  decide +kernel

/-- An environment that differs from another one in the variable of one tool gives all other tools
the same executables. -/
lemma Environment.executable_eq {environment environment' : Environment} {name other : String}
    (hname : name ∈ Tool.names) (hother : other ∈ Tool.names) (hne : name ≠ other)
    (h : ∀ variableName ≠ Tool.variableName other,
      environment.lookup variableName = environment'.lookup variableName) :
    environment.executable name = environment'.executable name := by
  have hvariable : Tool.variableName name ≠ Tool.variableName other := by
    intro hsame
    exact hne (List.inj_on_of_nodup_map Tool.nodup_variableName hname hother hsame)
  rw [executable, executable, h _ hvariable]

/-! ## Jobs -/

namespace Plan

variable {settings : Settings} {unit : CompileUnit} {job : Job} {jobs compiles : List Job}

/-- The job needs one of the tools that there are, and its executable has still to be put in. -/
def HasKnownTool (job : Job) : Prop :=
  ∃ name ∈ Tool.names, job.tool = .plain name

lemma hasKnownTool_compileJob (h : compileJob settings unit = .ok job) : HasKnownTool job := by
  obtain ⟨files, -, hrest⟩ := bind_eq_ok.1 h
  obtain ⟨options, -, hjob⟩ := bind_eq_ok.1 hrest
  obtain rfl := pure_eq_ok.1 hjob
  exact ⟨Tool.frontendName, by decide, rfl⟩

lemma hasKnownTool_mergeJob {files : ModuleFiles} {parts : List TypedPath}
    (h : mergeJob settings files parts = .ok job) : HasKnownTool job := by
  obtain ⟨header, -, hjob⟩ := bind_eq_ok.1 h
  obtain rfl := pure_eq_ok.1 hjob
  exact ⟨Tool.frontendName, by decide, rfl⟩

lemma hasKnownTool_autolinkExtractJob {objects : List TypedPath}
    (h : autolinkExtractJob settings objects = .ok job) : HasKnownTool job := by
  obtain ⟨output, -, hjob⟩ := bind_eq_ok.1 h
  obtain rfl := pure_eq_ok.1 hjob
  exact ⟨Tool.autolinkExtractName, by decide, rfl⟩

/-- Which linker or archiver there is depends on the platform, but both platforms have one. -/
lemma hasKnownTool_linkJob {product : LinkProduct} {inputs : LinkInputs} {output : VirtualPath}
    (h : linkJob settings product inputs output = .ok job) : HasKnownTool job := by
  rcases linkJob_eq_ok h with ⟨-, rfl⟩ | ⟨-, -, hjob⟩ | ⟨-, -, hjob⟩
  · refine ⟨Tool.archiverName settings.target.family, ?_, rfl⟩
    cases settings.target.family <;> decide
  · obtain ⟨options, -, hjob⟩ := bind_eq_ok.1 hjob
    obtain rfl := pure_eq_ok.1 hjob
    exact ⟨Tool.linkerName .darwin, by decide, rfl⟩
  · obtain ⟨options, -, hjob⟩ := bind_eq_ok.1 hjob
    obtain rfl := pure_eq_ok.1 hjob
    exact ⟨Tool.linkerName .elf, by decide, rfl⟩

lemma hasKnownTool_dsymJob (image : TypedPath) : HasKnownTool (dsymJob image) :=
  ⟨Tool.dsymutilName, by decide, rfl⟩

lemma hasKnownTool_replJob (h : replJob settings = .ok job) : HasKnownTool job := by
  obtain ⟨options, -, hjob⟩ := bind_eq_ok.1 h
  obtain rfl := pure_eq_ok.1 hjob
  exact ⟨Tool.frontendName, by decide, rfl⟩

lemma hasKnownTool_interpretJob (h : interpretJob settings = .ok job) : HasKnownTool job := by
  obtain ⟨options, -, hjob⟩ := bind_eq_ok.1 h
  obtain rfl := pure_eq_ok.1 hjob
  exact ⟨Tool.frontendName, by decide, rfl⟩

lemma hasKnownTool_passthroughJob (tool : PassthroughTool) (arguments : List String) :
    HasKnownTool (passthroughJob tool arguments) := by
  refine ⟨passthroughToolName tool, ?_, rfl⟩
  cases tool <;> decide

lemma hasKnownTool_of_mem_productJobs (h : productJobs settings compiles = .ok jobs) :
    ∀ job ∈ jobs, HasKnownTool job := by
  rcases productJobs_eq_ok h with ⟨-, rfl⟩ | ⟨product, -, hlinks⟩
  · simp
  obtain ⟨extracts, output, link, hextracts, -, hlink, rfl⟩ := linkJobs_eq_ok hlinks
  refine List.forall_mem_append.2
    ⟨?_, List.forall_mem_cons.2 ⟨hasKnownTool_linkJob hlink, fun job hjob => ?_⟩⟩
  · rcases extractJobs_eq_ok hextracts with ⟨-, extract, hextract, rfl⟩ | ⟨-, rfl⟩
    · exact List.forall_mem_singleton.2 (hasKnownTool_autolinkExtractJob hextract)
    · simp
  · rw [dsymJobs] at hjob
    split at hjob
    · obtain rfl := List.mem_singleton.1 hjob
      exact hasKnownTool_dsymJob _
    · simp at hjob

lemma hasKnownTool_of_mem_buildJobs (h : buildJobs settings = .ok jobs) :
    ∀ job ∈ jobs, HasKnownTool job := by
  obtain ⟨compiles, merges, links, hcompiles, hmerges, hlinks, rfl⟩ := buildJobs_eq_ok h
  refine List.forall_mem_append.2
    ⟨List.forall_mem_append.2 ⟨fun job hjob => ?_, ?_⟩, hasKnownTool_of_mem_productJobs hlinks⟩
  · obtain ⟨unit, -, hunit⟩ := exists_unit_of_mem hcompiles hjob
    exact hasKnownTool_compileJob hunit
  · rcases mergeJobs_eq_ok hmerges with ⟨-, files, merge, -, hmerge, rfl⟩ | ⟨-, rfl⟩
    · exact List.forall_mem_singleton.2 (hasKnownTool_mergeJob hmerge)
    · simp

lemma hasKnownTool_of_mem_ofSettings (h : (ofSettings settings).outcome = .ok jobs) :
    ∀ job ∈ jobs, HasKnownTool job := by
  cases hmode : settings.mode with
  | repl =>
    obtain ⟨repl, hrepl, rfl⟩ := (ofSettings_repl_eq_ok hmode).1 h
    exact List.forall_mem_singleton.2 (hasKnownTool_replJob hrepl)
  | immediate =>
    obtain ⟨interpret, hinterpret, rfl⟩ := (ofSettings_immediate_eq_ok hmode).1 h
    exact List.forall_mem_singleton.2 (hasKnownTool_interpretJob hinterpret)
  | standard | single =>
    rcases (ofSettings_eq_ok (by simp [hmode])).1 h with ⟨-, rfl⟩ | ⟨-, hbuild⟩
    · simp
    · exact hasKnownTool_of_mem_buildJobs hbuild

end Plan

/-- Of the two jobs each is the other one with another executable, namely with the one that its
environment gives the tool of the job; and only the variable of this tool can make a difference. -/
structure Reequipped (environment environment' : Environment) (job job' : Job) : Prop where
  same : { job with tool := job'.tool } = job'
  name : job.tool.name = job'.tool.name
  executable : job.tool.path = environment.executable job.tool.name
  executable' : job'.tool.path = environment'.executable job.tool.name
  others : ∀ other ∈ Tool.names, job.tool.name ≠ other →
    (∀ variableName ≠ Tool.variableName other,
      environment.lookup variableName = environment'.lookup variableName) → job = job'

lemma reequipped_equip {job : Job} {family : Option PlatformFamily}
    (environment environment' : Environment) (h : Plan.HasKnownTool job) :
    Reequipped environment environment' (job.equip ⟨family, environment⟩)
      (job.equip ⟨family, environment'⟩) := by
  obtain ⟨name, hname, htool⟩ := h
  have hequip (environment : Environment) :
      job.equip ⟨family, environment⟩ =
        { job with tool := ⟨name, environment.executable name⟩ } := by
    rw [Job.equip, Toolchain.tool, Tool.inEnvironment_eq, htool, Tool.plain]
  rw [hequip, hequip]
  refine ⟨rfl, rfl, rfl, rfl, fun other hother hne hagree => ?_⟩
  rw [Environment.executable_eq hname hother hne hagree]

/-! ## Requests -/

namespace Driver

variable {surroundings : Surroundings} {arguments : List String} {driver : Driver}

/-- The driver in another environment. -/
def inEnvironment (environment : Environment) (driver : Driver) : Driver :=
  { driver with toolchain := { driver.toolchain with environment } }

/-- What an environment is there for is not looked at before the plan is made. -/
lemma ofArguments_environment (environment environment' : Environment) :
    ofArguments surroundings environment' arguments =
      inEnvironment environment' <$> ofArguments surroundings environment arguments := by
  simp only [ofArguments, map_bind, map_pure, inEnvironment]

lemma hasKnownTool_of_mem_plainJobs {jobs : List Job} (h : driver.plainJobs.outcome = .ok jobs) :
    ∀ job ∈ jobs, Plan.HasKnownTool job := by
  rw [plainJobs] at h
  split at h
  · exact Plan.hasKnownTool_of_mem_ofSettings h
  · obtain rfl := Except.ok.inj h
    exact List.forall_mem_singleton.2 (Plan.hasKnownTool_passthroughJob _ _)

/-- A driver knows the environment that it was given. -/
lemma environment_of_ofArguments {environment : Environment}
    (h : (ofArguments surroundings environment arguments).outcome = .ok driver) :
    driver.toolchain.environment = environment := by
  simp only [ofArguments, Diagnosed.outcome_bind_eq_ok, Diagnosed.outcome_pure,
    Except.ok.injEq] at h
  obtain ⟨expanded, -, invocation, -, request, -, rfl⟩ := h
  rfl

/-- The drivers have the same request, and their plans are the same but for the executables. -/
structure SameRequest (environment environment' : Environment) (driver driver' : Driver) :
    Prop where
  arguments : driver.arguments = driver'.arguments
  ownArguments : driver.ownArguments = driver'.ownArguments
  request : driver.request = driver'.request
  notices : driver.plan.notices = driver'.plan.notices
  jobs : Parallel (List.Forall₂ (Reequipped environment environment')) driver.plan.outcome
    driver'.plan.outcome

lemma sameRequest_inEnvironment {environment environment' : Environment}
    (h : driver.toolchain.environment = environment) :
    SameRequest environment environment' driver (driver.inEnvironment environment') := by
  have hplain : (driver.inEnvironment environment').plainJobs = driver.plainJobs := rfl
  refine ⟨rfl, rfl, rfl, ?_, ?_⟩
  · rw [plan, plan, hplain]
    cases driver.plainJobs with
    | mk notices outcome => cases outcome <;> rfl
  · rw [plan, plan, hplain, Diagnosed.outcome_bind, Diagnosed.outcome_bind]
    refine Parallel.bind_same fun jobs hjobs => .ok ?_
    rw [List.forall₂_map_left_iff, List.forall₂_map_right_iff]
    refine List.forall₂_same.2 fun job hjob => ?_
    subst h
    exact reequipped_equip _ _ (hasKnownTool_of_mem_plainJobs hjobs job hjob)

/-- **The environment reaches only executables.**  In any two environments a request is refused for
the same reason, or it comes to the same settings, notices and jobs but for the executables of the
jobs.  These are what the variables of their tools say, so that a variable of one tool changes no
job of another one. -/
theorem sameRequest_ofArguments (surroundings : Surroundings)
    (environment environment' : Environment) (arguments : List String) :
    (ofArguments surroundings environment arguments).notices =
        (ofArguments surroundings environment' arguments).notices ∧
      Parallel (SameRequest environment environment')
        (ofArguments surroundings environment arguments).outcome
        (ofArguments surroundings environment' arguments).outcome := by
  rw [ofArguments_environment environment environment']
  cases hdriver : ofArguments surroundings environment arguments with
  | mk notices outcome =>
    cases outcome with
    | error failure => exact ⟨rfl, .error failure⟩
    | ok driver =>
      have henvironment : driver.toolchain.environment = environment :=
        environment_of_ofArguments (congrArg Diagnosed.outcome hdriver)
      exact ⟨(List.append_nil notices).symm, .ok (sameRequest_inEnvironment henvironment)⟩

/-- A machine with an output-file map whose only byte begins no character. -/
def withBinaryMap : Surroundings :=
  ⟨.ofMachine "/work" [("m", ⟨#[0xff]⟩)], ⟨"Linux", "x86_64", ""⟩⟩

/-- What a request is refused for in two environments need not be an error of the driver. -/
theorem exists_refused_without_error :
    ∃ failure,
      (ofArguments withBinaryMap [] ["swiftc", "a.swift", "-output-file-map", "m"]).outcome =
          .error failure ∧
        (ofArguments withBinaryMap [("SWIFT_DRIVER_CLANG_EXEC", "/usr/bin/cc")]
          ["swiftc", "a.swift", "-output-file-map", "m"]).outcome = .error failure ∧
        ∀ error, failure ≠ .driver error := by
  have hplain : ResponseFile.Plain ["swiftc", "a.swift", "-output-file-map", "m"] := by
    decide +kernel
  refine ⟨.notText, ?_, ?_, fun error hsame => by cases hsame⟩
  · rw [ofArguments_of_plain hplain]
    decide +kernel
  · rw [ofArguments_of_plain hplain]
    decide +kernel

end Driver

end SwiftPlan
