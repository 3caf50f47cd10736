import Mathlib.Data.List.Forall2
import SwiftPlan.Diagnosed

/-!
# Computations that succeed

A request is worked out in steps, each of which may fail.  To say what a result is made of one goes
the other way: a computation that ended with a value has gone through all of its steps, and each of
them ended with a value.  The lemmas here take successful computations apart in this way, those that
may only fail (`Except`) and those that make notices besides (`Diagnosed`).  To say that nothing
fails at all one goes along with the steps (`Succeeds`), and so one does to say how a computation
may fail (`FailsWith`), or with the steps of two computations at once to compare them (`Follows`,
`Tracks`, and `Parallel` where neither of the two may fail alone).
-/

namespace SwiftPlan

section

variable {ε ε' α β : Type}

lemma bind_eq_ok {step : Except ε α} {next : α → Except ε β} {result : β} :
    step >>= next = .ok result ↔ ∃ value, step = .ok value ∧ next value = .ok result := by
  cases step with
  | error failure => simp [bind, Except.bind]
  | ok value => simp [bind, Except.bind]

lemma pure_eq_ok {value result : α} : (pure value : Except ε α) = .ok result ↔ value = result := by
  simp [pure, Except.pure]

lemma map_eq_ok {f : α → β} {step : Except ε α} {result : β} :
    step.map f = .ok result ↔ ∃ value, step = .ok value ∧ f value = result := by
  cases step with
  | error failure => simp [Except.map]
  | ok value => simp [Except.map]

lemma map_eq_error {f : α → β} {step : Except ε α} {failure : ε} :
    step.map f = .error failure ↔ step = .error failure := by
  cases step with
  | error other => simp [Except.map]
  | ok value => simp [Except.map]

lemma mapError_eq_ok {f : ε → ε'} {step : Except ε α} {result : α} :
    step.mapError f = .ok result ↔ step = .ok result := by
  cases step with
  | error failure => simp [Except.mapError]
  | ok value => simp [Except.mapError]

lemma toOption_eq_some {step : Except ε α} {result : α} :
    step.toOption = some result ↔ step = .ok result := by
  cases step with
  | error failure => simp [Except.toOption]
  | ok value => simp [Except.toOption]

/-- Doing the same step for each element of a list succeeds if it does for each of them. -/
lemma mapM_eq_ok {step : α → Except ε β} {elements : List α} {results : List β} :
    elements.mapM step = .ok results ↔
      List.Forall₂ (fun element result => step element = .ok result) elements results := by
  induction elements generalizing results with
  | nil => rw [List.mapM_nil, pure_eq_ok, List.forall₂_nil_left_iff, eq_comm]
  | cons first rest ih =>
    simp only [List.mapM_cons, bind_eq_ok, pure_eq_ok, List.forall₂_cons_left_iff, ih]
    constructor
    · rintro ⟨result, hfirst, results, hrest, rfl⟩
      exact ⟨result, results, hfirst, hrest, rfl⟩
    · rintro ⟨result, results, hfirst, hrest, rfl⟩
      exact ⟨result, hfirst, results, hrest, rfl⟩

/-- What came out of a step for each element came out for one of them. -/
lemma exists_of_mem_mapM {step : α → Except ε β} {elements : List α} {results : List β}
    (h : elements.mapM step = .ok results) {result : β} (hresult : result ∈ results) :
    ∃ element ∈ elements, step element = .ok result := by
  induction mapM_eq_ok.1 h with
  | nil => simp at hresult
  | cons hfirst hrest ih =>
    rcases List.mem_cons.1 hresult with rfl | hmem
    · exact ⟨_, List.mem_cons_self, hfirst⟩
    · obtain ⟨element, helement, hstep⟩ := ih (mapM_eq_ok.2 hrest) hmem
      exact ⟨element, List.mem_cons_of_mem _ helement, hstep⟩

/-- If a step for each element succeeds then it does for each of them. -/
lemma eq_ok_of_mem_mapM {step : α → Except ε β} {elements : List α} {results : List β}
    (h : elements.mapM step = .ok results) {element : α} (helement : element ∈ elements) :
    ∃ result ∈ results, step element = .ok result := by
  induction mapM_eq_ok.1 h with
  | nil => simp at helement
  | cons hfirst hrest ih =>
    rcases List.mem_cons.1 helement with rfl | hmem
    · exact ⟨_, List.mem_cons_self, hfirst⟩
    · obtain ⟨result, hresult, hstep⟩ := ih (mapM_eq_ok.2 hrest) hmem
      exact ⟨result, List.mem_cons_of_mem _ hresult, hstep⟩

/-- The computation ends with a value. -/
def Succeeds (step : Except ε α) : Prop :=
  ∃ result, step = .ok result

lemma Succeeds.pure (result : α) : Succeeds (pure result : Except ε α) :=
  ⟨result, rfl⟩

lemma Succeeds.ok (result : α) : Succeeds (.ok result : Except ε α) :=
  ⟨result, rfl⟩

/-- A step may rely on the value of the step before it. -/
lemma Succeeds.bind {step : Except ε α} {next : α → Except ε β} (h : Succeeds step)
    (hnext : ∀ value, step = .ok value → Succeeds (next value)) : Succeeds (step >>= next) := by
  obtain ⟨value, hvalue⟩ := h
  obtain ⟨result, hresult⟩ := hnext value hvalue
  exact ⟨result, bind_eq_ok.2 ⟨value, hvalue, hresult⟩⟩

lemma Succeeds.mapM {step : α → Except ε β} {elements : List α}
    (h : ∀ element ∈ elements, Succeeds (step element)) : Succeeds (elements.mapM step) := by
  induction elements with
  | nil => exact .pure []
  | cons first rest ih =>
    obtain ⟨hfirst, hrest⟩ := List.forall_mem_cons.1 h
    rw [List.mapM_cons]
    exact hfirst.bind fun result _ => (ih hrest).bind fun results _ => .pure (result :: results)

/-! ## Two computations -/

variable {γ δ : Type} {kind : ε → Prop}

/-- If the other computation succeeds then so does this one, unless it has a failure of a kind that
is allowed for. -/
def Follows (kind : ε → Prop) (step : Except ε α) (other : Except ε' γ) : Prop :=
  Succeeds other → Succeeds step ∨ ∃ failure, kind failure ∧ step = .error failure

lemma Succeeds.follows {step : Except ε α} {other : Except ε' γ} (h : Succeeds step) :
    Follows kind step other :=
  fun _ => .inl h

lemma Follows.refl (step : Except ε α) : Follows kind step step :=
  fun h => .inl h

lemma Follows.pure {other : Except ε' γ} (result : α) :
    Follows kind (pure result : Except ε α) other :=
  (Succeeds.pure result).follows

/-- One goes along with both computations at once. -/
lemma Follows.bind {step : Except ε α} {next : α → Except ε β} {other : Except ε' γ}
    {next' : γ → Except ε' δ} (h : Follows kind step other)
    (hnext : ∀ value value', step = .ok value → other = .ok value' →
      Follows kind (next value) (next' value')) :
    Follows kind (step >>= next) (other >>= next') := by
  rintro ⟨result, hresult⟩
  obtain ⟨value', hvalue', hlater⟩ := bind_eq_ok.1 hresult
  rcases h ⟨value', hvalue'⟩ with ⟨value, hvalue⟩ | ⟨failure, hkind, hfailure⟩
  · rw [hvalue]
    exact hnext value value' hvalue hvalue' ⟨result, hlater⟩
  · exact .inr ⟨failure, hkind, by rw [hfailure]; rfl⟩

/-- Two computations that begin in the same way. -/
lemma Follows.bind_same {step : Except ε α} {next : α → Except ε β} {next' : α → Except ε δ}
    (hnext : ∀ value, step = .ok value → Follows kind (next value) (next' value)) :
    Follows kind (step >>= next) (step >>= next') := by
  refine (Follows.refl step).bind fun value value' hvalue hvalue' => ?_
  obtain rfl := Except.ok.inj (hvalue.symm.trans hvalue')
  exact hnext value hvalue

lemma Follows.mapM {step : α → Except ε β} {other : α → Except ε' δ} {elements : List α}
    (h : ∀ element ∈ elements, Follows kind (step element) (other element)) :
    Follows kind (elements.mapM step) (elements.mapM other) := by
  induction elements with
  | nil => exact .pure []
  | cons first rest ih =>
    obtain ⟨hfirst, hrest⟩ := List.forall_mem_cons.1 h
    rw [List.mapM_cons, List.mapM_cons]
    exact hfirst.bind fun _ _ _ _ => (ih hrest).bind fun _ _ _ _ => .pure _

/-- The computations fail in the same way, or they both succeed and what they end with agrees. -/
inductive Parallel (agree : α → γ → Prop) : Except ε α → Except ε γ → Prop where
  | error (failure : ε) : Parallel agree (.error failure) (.error failure)
  | ok {value : α} {value' : γ} (h : agree value value') : Parallel agree (.ok value) (.ok value')

section

variable {agree : α → γ → Prop} {agree' : β → δ → Prop} {step : Except ε α} {other : Except ε γ}

lemma Parallel.self {agree : α → α → Prop} {step : Except ε α}
    (h : ∀ value, step = .ok value → agree value value) : Parallel agree step step := by
  cases step with
  | error failure => exact .error failure
  | ok value => exact .ok (h value rfl)

lemma Parallel.bind {next : α → Except ε β} {next' : γ → Except ε δ} (h : Parallel agree step other)
    (hnext : ∀ value value', agree value value' → Parallel agree' (next value) (next' value')) :
    Parallel agree' (step >>= next) (other >>= next') := by
  cases h with
  | error failure => exact .error failure
  | ok hagree => exact hnext _ _ hagree

/-- Two computations that begin in the same way. -/
lemma Parallel.bind_same {next : α → Except ε β} {next' : α → Except ε δ}
    (hnext : ∀ value, step = .ok value → Parallel agree' (next value) (next' value)) :
    Parallel agree' (step >>= next) (step >>= next') := by
  cases step with
  | error failure => exact .error failure
  | ok value => exact hnext value rfl

lemma Parallel.mapError {f : ε → ε'} (h : Parallel agree step other) :
    Parallel agree (step.mapError f) (other.mapError f) := by
  cases h with
  | error failure => exact .error (f failure)
  | ok hagree => exact .ok hagree

end

end

namespace Diagnosed

variable {ε α β : Type}

@[simp] lemma outcome_pure (value : α) : (pure value : Diagnosed α).outcome = .ok value := rfl

@[simp] lemma outcome_note (notice : Notice) : (note notice).outcome = .ok () := rfl

@[simp] lemma outcome_noteAll (notices : List Notice) : (noteAll notices).outcome = .ok () := rfl

lemma outcome_bind {step : Diagnosed α} {next : α → Diagnosed β} :
    (step >>= next).outcome = step.outcome >>= fun value => (next value).outcome := by
  obtain ⟨notices, failure | value⟩ := step
  · rfl
  · rfl

lemma outcome_bind_eq_ok {step : Diagnosed α} {next : α → Diagnosed β} {result : β} :
    (step >>= next).outcome = .ok result ↔
      ∃ value, step.outcome = .ok value ∧ (next value).outcome = .ok result := by
  obtain ⟨notices, failure | value⟩ := step
  · simp
  · simp

/-- A step that succeeds is followed by the notices of the next one. -/
lemma notices_bind {step : Diagnosed α} {next : α → Diagnosed β} {value : α}
    (h : step.outcome = .ok value) :
    (step >>= next).notices = step.notices ++ (next value).notices := by
  obtain ⟨notices, failure | other⟩ := step
  · cases h
  · obtain rfl := Except.ok.inj h
    rfl

/-- Two steps make no notices if neither of them does. -/
lemma bind_eq_pure {step : Diagnosed α} {next : α → Diagnosed β} {result : β} :
    step >>= next = pure result ↔ ∃ value, step = pure value ∧ next value = pure result := by
  obtain ⟨notices, failure | value⟩ := step
  · simp
  · constructor
    · intro h
      obtain ⟨hnotices, houtcome⟩ := Diagnosed.mk.inj h
      obtain ⟨hfirst, hsecond⟩ := List.append_eq_nil_iff.1 hnotices
      exact ⟨value, congrArg (Diagnosed.mk · _) hfirst,
        (congrArg₂ Diagnosed.mk hsecond houtcome : _)⟩
    · rintro ⟨other, hstep, hnext⟩
      obtain ⟨rfl, hvalue⟩ := Diagnosed.mk.inj hstep
      obtain rfl := Except.ok.inj hvalue
      rw [bind_ok, hnext]
      rfl

/-- A notice of two steps was made by the first one or, if it succeeded, by the second. -/
lemma mem_notices_bind {step : Diagnosed α} {next : α → Diagnosed β} {notice : Notice} :
    notice ∈ (step >>= next).notices ↔
      notice ∈ step.notices ∨
        ∃ value, step.outcome = .ok value ∧ notice ∈ (next value).notices := by
  obtain ⟨notices, failure | value⟩ := step
  · simp
  · simp

/-! ## Kinds of failures -/

lemma outcome_bind_eq_error {step : Diagnosed α} {next : α → Diagnosed β} {failure : Failure} :
    (step >>= next).outcome = .error failure ↔
      step.outcome = .error failure ∨
        ∃ value, step.outcome = .ok value ∧ (next value).outcome = .error failure := by
  obtain ⟨notices, other | value⟩ := step
  · simp
  · simp

/-- Whenever the computation fails, it is with a failure of this kind. -/
def FailsWith (kind : Failure → Prop) (step : Diagnosed α) : Prop :=
  ∀ failure, step.outcome = .error failure → kind failure

lemma failsWith_of_outcome_eq_ok {kind : Failure → Prop} {step : Diagnosed α} {value : α}
    (h : step.outcome = .ok value) : FailsWith kind step := by
  intro failure hfailure
  rw [h] at hfailure
  cases hfailure

lemma failsWith_pure {kind : Failure → Prop} (value : α) :
    FailsWith kind (pure value : Diagnosed α) :=
  failsWith_of_outcome_eq_ok rfl

lemma failsWith_noteAll {kind : Failure → Prop} (notices : List Notice) :
    FailsWith kind (noteAll notices) :=
  failsWith_of_outcome_eq_ok rfl

/-- The second step counts only if the first one succeeds. -/
lemma FailsWith.bind {kind : Failure → Prop} {step : Diagnosed α} {next : α → Diagnosed β}
    (h : FailsWith kind step)
    (hnext : ∀ value, step.outcome = .ok value → FailsWith kind (next value)) :
    FailsWith kind (step >>= next) := by
  intro failure hfailure
  rcases outcome_bind_eq_error.1 hfailure with hstep | ⟨value, hvalue, hlater⟩
  · exact h failure hstep
  · exact hnext value hvalue failure hlater

/-- A computation that makes no notices fails with what its failure is lifted to. -/
lemma failsWith_mapError {kind : Failure → Prop} {lift : ε → Failure} {step : Except ε α}
    (h : ∀ error, kind (lift error)) : FailsWith kind (ofExcept (step.mapError lift)) := by
  intro failure hfailure
  cases step with
  | error error =>
    obtain rfl : lift error = failure := Except.error.inj hfailure
    exact h error
  | ok value => cases hfailure

/-! Steps that make no notices are lifted along the kind of their failure. -/

@[simp] lemma outcome_lift_path {step : Except PathError α} {result : α} :
    (liftM step : Diagnosed α).outcome = .ok result ↔ step = .ok result :=
  mapError_eq_ok

@[simp] lemma outcome_lift_option {step : Except OptionError α} {result : α} :
    (liftM step : Diagnosed α).outcome = .ok result ↔ step = .ok result :=
  mapError_eq_ok

@[simp] lemma outcome_lift_target {step : Except TargetError α} {result : α} :
    (liftM step : Diagnosed α).outcome = .ok result ↔ step = .ok result :=
  mapError_eq_ok

/-! ## Two computations -/

/-- The notices are the other ones with extra notices in one place. -/
def Noted (extra notices others : List Notice) : Prop :=
  ∃ early late, notices = early ++ extra ++ late ∧ others = early ++ late

section

variable {extra notices notices' others others' : List Notice}

lemma noted_nil : Noted [] notices others ↔ notices = others := by
  constructor
  · rintro ⟨early, late, rfl, rfl⟩
    rw [List.append_nil]
  · rintro rfl
    exact ⟨notices, [], by simp, by simp⟩

lemma Noted.prepend (h : Noted extra notices others) (before : List Notice) :
    Noted extra (before ++ notices) (before ++ others) := by
  obtain ⟨early, late, rfl, rfl⟩ := h
  exact ⟨before ++ early, late, by simp, by simp⟩

lemma Noted.append (h : Noted extra notices others) (after : List Notice) :
    Noted extra (notices ++ after) (others ++ after) := by
  obtain ⟨early, late, rfl, rfl⟩ := h
  exact ⟨early, late ++ after, by simp, by simp⟩

end

variable {γ δ : Type} {kind : Failure → Prop} {agree : α → γ → Prop} {extra : List Notice}

/-- If the other computation succeeds then so does this one, with a value that agrees with the other
one and with extra notices in one place, unless it has a failure of a kind that is allowed for. -/
def Tracks (kind : Failure → Prop) (agree : α → γ → Prop) (extra : List Notice)
    (step : Diagnosed α) (other : Diagnosed γ) : Prop :=
  ∀ value', other.outcome = .ok value' →
    (∃ value, step.outcome = .ok value ∧ agree value value' ∧
        Noted extra step.notices other.notices) ∨
      ∃ failure, kind failure ∧ step.outcome = .error failure

lemma tracks_pure {value : α} {value' : γ} (h : agree value value') :
    Tracks kind agree [] (pure value) (pure value') := by
  intro result hresult
  obtain rfl : value' = result := Except.ok.inj hresult
  exact .inl ⟨value, rfl, h, noted_nil.2 rfl⟩

lemma Tracks.refl (step : Diagnosed α) : Tracks kind (· = ·) [] step step := by
  intro value hvalue
  exact .inl ⟨value, hvalue, rfl, noted_nil.2 rfl⟩

lemma tracks_noteAll : Tracks kind (fun _ _ => True) extra (noteAll extra) (noteAll []) := by
  intro _ _
  exact .inl ⟨(), rfl, trivial, [], [], (List.append_nil extra).symm, rfl⟩

section

variable {step : Diagnosed α} {next : α → Diagnosed β} {other : Diagnosed γ}
  {next' : γ → Diagnosed δ} {agree' : β → δ → Prop}

/-- Two steps go along with two other ones if the notices can be put together. -/
lemma Tracks.bind_noted {first second : List Notice} (h : Tracks kind agree first step other)
    (hnext : ∀ value value', step.outcome = .ok value → other.outcome = .ok value' →
      agree value value' → Tracks kind agree' second (next value) (next' value'))
    (hnoted : ∀ notices notices' others others', Noted first notices others →
      Noted second notices' others' → Noted extra (notices ++ notices') (others ++ others')) :
    Tracks kind agree' extra (step >>= next) (other >>= next') := by
  intro result' hresult'
  obtain ⟨value', hvalue', hlater'⟩ := outcome_bind_eq_ok.1 hresult'
  rcases h value' hvalue' with ⟨value, hvalue, hagree, hearly⟩ | ⟨failure, hkind, hfailure⟩
  · rcases hnext value value' hvalue hvalue' hagree result' hlater' with
      ⟨result, hresult, hagree', hlate⟩ | ⟨failure, hkind, hfailure⟩
    · refine .inl ⟨result, outcome_bind_eq_ok.2 ⟨value, hvalue, hresult⟩, hagree', ?_⟩
      rw [notices_bind hvalue, notices_bind hvalue']
      exact hnoted _ _ _ _ hearly hlate
    · exact .inr ⟨failure, hkind, outcome_bind_eq_error.2 (.inr ⟨value, hvalue, hfailure⟩)⟩
  · exact .inr ⟨failure, hkind, outcome_bind_eq_error.2 (.inl hfailure)⟩

/-- The extra notices are made in the second step. -/
lemma Tracks.bind (h : Tracks kind agree [] step other)
    (hnext : ∀ value value', step.outcome = .ok value → other.outcome = .ok value' →
      agree value value' → Tracks kind agree' extra (next value) (next' value')) :
    Tracks kind agree' extra (step >>= next) (other >>= next') := by
  refine h.bind_noted hnext fun notices _ _ _ hsame hnoted => ?_
  obtain rfl := noted_nil.1 hsame
  exact hnoted.prepend notices

/-- Two computations that begin in the same way. -/
lemma Tracks.bind_same {next' : α → Diagnosed δ}
    (hnext : ∀ value, step.outcome = .ok value →
      Tracks kind agree' extra (next value) (next' value)) :
    Tracks kind agree' extra (step >>= next) (step >>= next') := by
  refine (Tracks.refl step).bind fun value value' hvalue _ hsame => ?_
  subst hsame
  exact hnext value hvalue

/-- The extra notices are made in the first step. -/
lemma Tracks.bind_of_noted (h : Tracks kind agree extra step other)
    (hnext : ∀ value value', step.outcome = .ok value → other.outcome = .ok value' →
      agree value value' → Tracks kind agree' [] (next value) (next' value')) :
    Tracks kind agree' extra (step >>= next) (other >>= next') := by
  refine h.bind_noted hnext fun _ notices' _ _ hnoted hsame => ?_
  obtain rfl := noted_nil.1 hsame
  exact hnoted.append notices'

/-! A computation that makes no notices goes along with the one that it follows. -/

variable {allowed : ε → Prop} {lift : ε → Failure} {made : Except ε α} {made' : Except ε γ}

lemma tracks_lift (h : Follows allowed made made')
    (hagree : ∀ value value', made = .ok value → made' = .ok value' → agree value value') :
    Tracks (fun failure => ∃ error, allowed error ∧ failure = lift error) agree []
      (ofExcept (made.mapError lift)) (ofExcept (made'.mapError lift)) := by
  intro value' hvalue'
  have hmade' : made' = .ok value' := mapError_eq_ok.1 hvalue'
  rcases h ⟨value', hmade'⟩ with ⟨value, hvalue⟩ | ⟨error, hkind, herror⟩
  · exact .inl ⟨value, mapError_eq_ok.2 hvalue, hagree value value' hvalue hmade', noted_nil.2 rfl⟩
  · exact .inr ⟨lift error, ⟨error, hkind, rfl⟩, by rw [herror]; rfl⟩

lemma tracks_lift_bind (h : Follows allowed made made')
    (hnext : ∀ value value', made = .ok value → made' = .ok value' →
      Tracks (fun failure => ∃ error, allowed error ∧ failure = lift error) agree' extra
        (next value) (next' value')) :
    Tracks (fun failure => ∃ error, allowed error ∧ failure = lift error) agree' extra
      (ofExcept (made.mapError lift) >>= next) (ofExcept (made'.mapError lift) >>= next') := by
  have hmade : Tracks (fun failure => ∃ error, allowed error ∧ failure = lift error)
      (fun value value' => made = .ok value ∧ made' = .ok value') []
      (ofExcept (made.mapError lift)) (ofExcept (made'.mapError lift)) :=
    tracks_lift h fun _ _ hvalue hvalue' => ⟨hvalue, hvalue'⟩
  exact hmade.bind fun value value' _ _ hvalues => hnext value value' hvalues.1 hvalues.2

end

end Diagnosed

end SwiftPlan
