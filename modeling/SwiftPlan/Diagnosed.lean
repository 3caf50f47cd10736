import SwiftPlan.DriverError
import SwiftPlan.Notice

/-!
# Computations with notices

A step of the work on a build request answers with the notices that it made, in order, and with
what came out: a value or a failure. Steps are done one after another; a failure ends the work,
and the notices made until then are kept.
-/

namespace SwiftPlan

/-- What a step made: its notices, and its value or its failure. -/
structure Diagnosed (α : Type) where
  notices : List Notice
  outcome : Except Failure α

namespace Diagnosed

variable {α β : Type}

/-- A step without notices. -/
def ofExcept (outcome : Except Failure α) : Diagnosed α :=
  ⟨[], outcome⟩

/-- A step that makes one notice. -/
def note (notice : Notice) : Diagnosed Unit :=
  ⟨[notice], .ok ()⟩

/-- A step that makes these notices. -/
def noteAll (notices : List Notice) : Diagnosed Unit :=
  ⟨notices, .ok ()⟩

/-- A step that fails. -/
def fail (failure : Failure) : Diagnosed α :=
  ⟨[], .error failure⟩

instance : Monad Diagnosed where
  pure value := ⟨[], .ok value⟩
  bind step next :=
    match step.outcome with
    | .error failure => ⟨step.notices, .error failure⟩
    | .ok value =>
      let after := next value
      ⟨step.notices ++ after.notices, after.outcome⟩

@[simp] theorem pure_eq (value : α) : (pure value : Diagnosed α) = ⟨[], .ok value⟩ := rfl

@[simp] theorem bind_ok (notices : List Notice) (value : α) (next : α → Diagnosed β) :
    (⟨notices, .ok value⟩ : Diagnosed α) >>= next =
      ⟨notices ++ (next value).notices, (next value).outcome⟩ := rfl

@[simp] theorem bind_error (notices : List Notice) (failure : Failure) (next : α → Diagnosed β) :
    (⟨notices, .error failure⟩ : Diagnosed α) >>= next = ⟨notices, .error failure⟩ := rfl

/-- Steps obey the laws of monads: how they are grouped does not matter. -/
instance : LawfulMonad Diagnosed := by
  refine LawfulMonad.mk' _ ?_ ?_ ?_
  · rintro α ⟨notices, failure | value⟩
    · rfl
    · exact congrArg (Diagnosed.mk · _) (List.append_nil notices)
  · intro α β value next
    rfl
  · rintro α β γ ⟨notices, failure | value⟩ next last
    · rfl
    · simp only [bind_ok]
      cases h : next value with
      | mk notices' outcome =>
        cases outcome with
        | error failure => rfl
        | ok value' => simp only [bind_ok, List.append_assoc]

instance : MonadLift (Except Failure) Diagnosed := ⟨ofExcept⟩

instance : MonadLift (Except DriverError) Diagnosed := ⟨fun r => ofExcept (r.mapError .driver)⟩

instance : MonadLift (Except PathError) Diagnosed :=
  ⟨fun r => ofExcept (r.mapError fun e => .driver (.path e))⟩

instance : MonadLift (Except OptionError) Diagnosed :=
  ⟨fun r => ofExcept (r.mapError fun e => .driver (.option e))⟩

instance : MonadLift (Except TargetError) Diagnosed :=
  ⟨fun r => ofExcept (r.mapError fun e => .driver (.target e))⟩

instance : MonadLift (Except OutputFileMapError) Diagnosed :=
  ⟨fun r => ofExcept (r.mapError fun e => .driver (.outputFileMap e))⟩

instance : MonadLift (Except DriverNameError) Diagnosed :=
  ⟨fun r => ofExcept (r.mapError fun e => .driver (.driverName e))⟩

end Diagnosed

end SwiftPlan
