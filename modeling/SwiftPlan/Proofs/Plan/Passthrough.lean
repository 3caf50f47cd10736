import SwiftPlan.Proofs.ResponseFile.Plain
import SwiftPlan.Proofs.ResponseFile.Settled

/-!
# Arguments that are handed on

A driver that stands for a single tool plans one job, which hands the arguments on as they are.
Only what says which driver is meant is taken away: the executable and, directly behind it, an
argument that takes the place of its name (`Leaves`).  A tool that is one of several in an
executable is called by a subcommand, which is put in front unless it stands there (`Calls`).

Such a call can be repeated: the general driver with the arguments of the job comes to the same job
(`handsOn_of_passthrough`).  The subcommand says which tool is meant, so that nothing behind it is
looked at, and it is not put in front once more.  That response files are expanded again makes no
difference, since none of them is left.
-/

namespace SwiftPlan

namespace PassthroughTool

variable {tool : PassthroughTool} {subcommand : String} {own : List String}

/-- The arguments with the subcommand of the tool in front, which is put there if the tool has one
and the arguments do not begin with it. -/
inductive Calls (tool : PassthroughTool) : List String → List String → Prop where
  | verbatim {own : List String}
      (h : ∀ subcommand ∈ tool.subcommand?, own.head? = some subcommand) : Calls tool own own
  | led {own : List String} {subcommand : String} (hsubcommand : tool.subcommand? = some subcommand)
      (h : own.head? ≠ some subcommand) : Calls tool own (subcommand :: own)

lemma calls_passthroughArguments (tool : PassthroughTool) (own : List String) :
    Calls tool own (Plan.passthroughArguments tool own) := by
  cases hsubcommand : tool.subcommand? with
  | none =>
    rw [Plan.passthroughArguments, hsubcommand]
    exact .verbatim (by simp [hsubcommand])
  | some subcommand =>
    rw [Plan.passthroughArguments, hsubcommand]
    dsimp only
    split
    · next hhead => exact .verbatim (by simp [hsubcommand, hhead])
    · next hhead => exact .led hsubcommand hhead

/-- However the arguments began, they begin with the subcommand when it has been put in front. -/
lemma head?_passthroughArguments (hsubcommand : tool.subcommand? = some subcommand) :
    (Plan.passthroughArguments tool own).head? = some subcommand := by
  rw [Plan.passthroughArguments, hsubcommand]
  dsimp only
  split
  · next hhead => exact hhead
  · rfl

/-- The subcommand is put in front once. -/
lemma passthroughArguments_of_head? (hsubcommand : tool.subcommand? = some subcommand)
    (hhead : own.head? = some subcommand) : Plan.passthroughArguments tool own = own := by
  simp [Plan.passthroughArguments, hsubcommand, hhead]

/-- A subcommand calls its tool, takes the place of no name and is no reference. -/
lemma of_subcommand? (hsubcommand : tool.subcommand? = some subcommand) :
    ofSubcommand? subcommand = some tool ∧
      Text.after? Invocation.modeOption subcommand = none ∧ Text.after? "@" subcommand = none := by
  cases tool with
  | frontend =>
    obtain rfl : "-frontend" = subcommand := Option.some.inj hsubcommand
    decide +kernel
  | moduleWrap =>
    obtain rfl : "-modulewrap" = subcommand := Option.some.inj hsubcommand
    decide +kernel
  | autolinkExtract | indent => cases hsubcommand

end PassthroughTool

namespace Invocation

variable {arguments own : List String}

/-- What is left of arguments when the executable is taken away, and with it an argument that takes
the place of its name. -/
inductive Leaves : List String → List String → Prop where
  | replaced (executable name : String) (rest : List String) :
      Leaves (executable :: (modeOption ++ name) :: rest) rest
  | named {executable : String} {rest : List String}
      (h : ∀ argument ∈ rest.head?, ∀ name, argument ≠ modeOption ++ name) :
      Leaves (executable :: rest) rest

lemma Leaves.subset (h : Leaves arguments own) : own ⊆ arguments := by
  cases h with
  | replaced executable name rest =>
    exact List.Subset.trans (List.subset_cons_self _ _) (List.subset_cons_self _ _)
  | named h => exact List.subset_cons_self _ _

lemma leaves_splitName (hne : arguments ≠ []) : Leaves arguments (splitName arguments).2 := by
  cases arguments with
  | nil => exact absurd rfl hne
  | cons executable others =>
    cases others with
    | nil => exact .named (by simp)
    | cons argument rest =>
      rw [splitName]
      split
      · next name hname =>
        rw [Text.after?_eq_some_iff.1 hname]
        exact .replaced executable name rest
      · next hnone =>
        refine .named fun other hother name hname => ?_
        obtain rfl : argument = other := Option.some.inj hother
        simp [Text.after?_eq_some_iff.2 hname] at hnone

lemma leaves_of_ofArguments {invocation : Invocation}
    (h : ofArguments arguments = .ok invocation) : Leaves arguments invocation.arguments := by
  have hown : invocation.arguments = (splitName arguments).2 := by
    simp only [ofArguments] at h
    split at h
    · cases h
    · exact congrArg Invocation.arguments (Except.ok.inj h).symm
    · split at h <;> exact congrArg Invocation.arguments (Except.ok.inj h).symm
  rw [hown]
  exact leaves_splitName (ne_nil_of_ofArguments h)

/-- The general driver calls the tool whose subcommand comes first. -/
lemma ofArguments_swift {tool : PassthroughTool} {subcommand : String}
    (hsubcommand : tool.subcommand? = some subcommand) (hhead : own.head? = some subcommand) :
    ofArguments ("swift" :: own) = .ok ⟨.passthrough tool, own⟩ := by
  obtain ⟨rest, rfl⟩ : ∃ rest, own = subcommand :: rest := List.head?_eq_some_iff.1 hhead
  obtain ⟨htool, hmode, -⟩ := PassthroughTool.of_subcommand? hsubcommand
  have hname : DriverKind.ofName? (nameOfExecutable "swift") =
      some (.build .interactive) := by
    decide +kernel
  simp [ofArguments, splitName, hmode, hname, htool]

end Invocation

namespace Driver

open PassthroughTool

variable {surroundings : Surroundings} {environment : Environment}
  {arguments expanded own : List String} {tool : PassthroughTool}

/-- The driver that stands for a tool. -/
def ofTool (environment : Environment) (arguments own : List String) (tool : PassthroughTool) :
    Driver where
  arguments := arguments
  ownArguments := own
  request := .passthrough tool
  toolchain := ⟨none, environment⟩

/-- The job of a driver that stands for a tool. -/
def toolJob (environment : Environment) (own : List String) (tool : PassthroughTool) : Job :=
  (Plan.passthroughJob tool own).equip ⟨none, environment⟩

/-- Once it is known which tool is meant, nothing can fail. -/
lemma ofArguments_of_tool
    (hexpand : (ResponseFile.expand surroundings.fileSystem arguments).outcome = .ok expanded)
    (hinvocation : Invocation.ofArguments expanded = .ok ⟨.passthrough tool, own⟩) :
    ofArguments surroundings environment arguments =
      ⟨(ResponseFile.expand surroundings.fileSystem arguments).notices,
        .ok (ofTool environment expanded own tool)⟩ := by
  rw [ofArguments]
  generalize ResponseFile.expand surroundings.fileSystem arguments = step at hexpand ⊢
  obtain ⟨notices, outcome⟩ := step
  obtain rfl : outcome = .ok expanded := hexpand
  rw [Diagnosed.bind_ok, hinvocation]
  exact congrArg (Diagnosed.mk · _) (List.append_nil notices)

lemma plan_ofTool :
    (ofTool environment expanded own tool).plan = pure [toolJob environment own tool] :=
  rfl

lemma arguments_toolJob (scratch : Option String) :
    (toolJob environment own tool).arguments scratch = Plan.passthroughArguments tool own := by
  show ((Plan.passthroughArguments tool own).map Argument.flag).map (·.render scratch) = _
  rw [List.map_map]
  exact List.map_id _

/-- The job hands on what is left of the arguments, behind the subcommand of its tool, and declares
no files. -/
structure HandsOn (tool : PassthroughTool) (expanded : List String) (job : Job) : Prop where
  kind : job.kind = .passthrough
  inputs : job.inputs = []
  outputs : job.outputs = []
  arguments : ∃ own, Invocation.Leaves expanded own ∧
    ∀ scratch, Calls tool own (job.arguments scratch)

/-- What the arguments are expanded to stays as it is when it is expanded again behind the name of
the general driver. -/
lemma settled_passthroughArguments {fs : FileSystem} {subcommand : String}
    (hsubcommand : tool.subcommand? = some subcommand) (hown : ResponseFile.Settled fs own) :
    ResponseFile.Settled fs ("swift" :: Plan.passthroughArguments tool own) := by
  obtain ⟨-, -, hword⟩ := of_subcommand? hsubcommand
  refine .cons_word (by decide +kernel) ?_
  rw [Plan.passthroughArguments, hsubcommand]
  dsimp only
  split
  · exact hown
  · exact hown.cons_word hword

section

variable {subcommand : String} (hsubcommand : tool.subcommand? = some subcommand)

include hsubcommand

/-- The general driver with the arguments of a tool's job stands for the same tool. -/
lemma ofArguments_general (hown : ResponseFile.Settled surroundings.fileSystem own) :
    ofArguments surroundings environment ("swift" :: Plan.passthroughArguments tool own) =
      pure (ofTool environment ("swift" :: Plan.passthroughArguments tool own)
        (Plan.passthroughArguments tool own) tool) := by
  have hhead : (Plan.passthroughArguments tool own).head? = some subcommand :=
    head?_passthroughArguments hsubcommand
  have hexpand := (settled_passthroughArguments hsubcommand hown).expand_eq
  rw [ofArguments_of_tool (congrArg Diagnosed.outcome hexpand)
    (Invocation.ofArguments_swift hsubcommand hhead), hexpand]
  rfl

/-- The job of a tool that is called by its subcommand has the same arguments. -/
lemma arguments_toolJob_general {environment' : Environment} :
    (toolJob environment' (Plan.passthroughArguments tool own) tool).arguments =
      (toolJob environment own tool).arguments := by
  funext scratch
  rw [arguments_toolJob, arguments_toolJob,
    passthroughArguments_of_head? hsubcommand (head?_passthroughArguments hsubcommand)]

end

lemma handsOn_toolJob (hleaves : Invocation.Leaves expanded own) :
    HandsOn tool expanded (toolJob environment own tool) where
  kind := rfl
  inputs := rfl
  outputs := rfl
  arguments := by
    refine ⟨own, hleaves, fun scratch => ?_⟩
    rw [arguments_toolJob]
    exact calls_passthroughArguments tool own

/-- **Arguments are handed on as they are, and the call can be repeated.**  If an invocation stands
for a tool then its plan is one job, which hands its arguments on.  If the tool has a subcommand,
the general driver with the arguments of this job stands for the same tool, and plans a job with the
same arguments. -/
theorem handsOn_of_passthrough {invocation : Invocation}
    (hexpand : (ResponseFile.expand surroundings.fileSystem arguments).outcome = .ok expanded)
    (hinvocation : Invocation.ofArguments expanded = .ok invocation)
    (hkind : invocation.kind = .passthrough tool) (environment : Environment) :
    ∃ driver job, (ofArguments surroundings environment arguments).outcome = .ok driver ∧
      driver.kind = .passthrough tool ∧ driver.plan = pure [job] ∧ HandsOn tool expanded job ∧
      (tool = .frontend ∨ tool = .moduleWrap → ∀ environment' scratch, ∃ again job',
        ofArguments surroundings environment' ("swift" :: job.arguments scratch) = pure again ∧
          again.kind = .passthrough tool ∧ again.plan = pure [job'] ∧
          job'.arguments = job.arguments) := by
  obtain ⟨kind, own⟩ := invocation
  obtain rfl : kind = .passthrough tool := hkind
  have hleaves : Invocation.Leaves expanded own := Invocation.leaves_of_ofArguments hinvocation
  have hown : ResponseFile.Settled surroundings.fileSystem own :=
    (ResponseFile.settled_of_expandIn hexpand).subset hleaves.subset
  refine ⟨ofTool environment expanded own tool, toolJob environment own tool, ?_, rfl, plan_ofTool,
    handsOn_toolJob hleaves, fun htool environment' scratch => ?_⟩
  · rw [ofArguments_of_tool hexpand hinvocation]
  · obtain ⟨subcommand, hsubcommand⟩ : ∃ subcommand, tool.subcommand? = some subcommand := by
      rcases htool with rfl | rfl
      · exact ⟨"-frontend", rfl⟩
      · exact ⟨"-modulewrap", rfl⟩
    rw [arguments_toolJob]
    exact ⟨_, _, ofArguments_general hsubcommand hown, rfl, plan_ofTool,
      arguments_toolJob_general hsubcommand⟩

/-- An argument that takes the place of the executable's name is taken away once, and neither a
second one nor a reference to a missing file means anything. -/
theorem handsOn_of_passthrough_of_frontend :
    let own := ["--driver-mode=swiftc", "-modulewrap", "@loader_path"]
    let arguments := "/usr/bin/swift" :: "--driver-mode=swift-frontend" :: own
    (ResponseFile.expand Surroundings.bare.fileSystem arguments).outcome = .ok arguments ∧
      Invocation.ofArguments arguments = .ok ⟨.passthrough .frontend, own⟩ ∧
      ∃ driver job, (ofArguments .bare [] arguments).outcome = .ok driver ∧
        driver.plan = pure [job] ∧ job.arguments none = "-frontend" :: own ∧
        ∃ again job', ofArguments .bare [] ("swift" :: "-frontend" :: own) = pure again ∧
          again.plan = pure [job'] ∧ job'.arguments = job.arguments := by
  intro own arguments
  have hsettled : ResponseFile.Settled Surroundings.bare.fileSystem arguments := by decide +kernel
  have hexpand : (ResponseFile.expand Surroundings.bare.fileSystem arguments).outcome =
      .ok arguments :=
    congrArg Diagnosed.outcome hsettled.expand_eq
  have hinvocation : Invocation.ofArguments arguments = .ok ⟨.passthrough .frontend, own⟩ := by
    decide +kernel
  obtain ⟨driver, job, hdriver, -, hplan, -, hagain⟩ :=
    handsOn_of_passthrough hexpand hinvocation rfl []
  have hjob : job = toolJob [] own .frontend := by
    rw [ofArguments_of_tool hexpand hinvocation] at hdriver
    obtain rfl := Except.ok.inj hdriver
    have hjobs : [toolJob [] own .frontend] = [job] :=
      Except.ok.inj (congrArg Diagnosed.outcome hplan)
    exact (List.singleton_inj.1 hjobs).symm
  have harguments : job.arguments none = "-frontend" :: own := by
    rw [hjob, arguments_toolJob]
    decide +kernel
  obtain ⟨again, job', hready, -, hreplan, hsame⟩ := hagain (.inl rfl) [] none
  rw [harguments] at hready
  exact ⟨hexpand, hinvocation, driver, job, hdriver, hplan, harguments, again, job', hready,
    hreplan, hsame⟩

end Driver

end SwiftPlan
