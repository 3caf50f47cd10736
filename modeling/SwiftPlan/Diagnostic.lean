/-!
# Diagnostics

A diagnostic is a problem from which a build request recovers: it is noted, and the work goes on
with a fallback. The diagnostics of a request form a list in the order in which they arose, and
the request has failed in the end if one of them is an error.
-/

namespace SwiftPlan

/-- How grave a diagnostic is. -/
inductive Severity where
  | error
  | warning
  | other (label : String)
  deriving DecidableEq, Repr

namespace Severity

/-- The severity in reports. -/
def label : Severity → String
  | error => "error"
  | warning => "warning"
  | other label => label

/-- The severity with the given label. -/
def ofLabel (label : String) : Severity :=
  if label = "error" then error else if label = "warning" then warning else other label

@[simp] theorem label_ofLabel (label : String) : (ofLabel label).label = label := by
  unfold ofLabel
  split
  · simp_all [Severity.label]
  · split <;> simp_all [Severity.label]

end Severity

/-- A problem that was noted. The phase groups diagnostics by the part of the work that they
concern, the code tells their kinds apart. -/
structure Diagnostic where
  message : String
  code : Option String := none
  phase : Option String := none
  severity : Severity := .error
  notes : List String := []
  deriving DecidableEq, Repr

namespace Diagnostic

/-- A diagnostic that makes the request fail. -/
def error (message : String) (code phase : Option String) : Diagnostic :=
  ⟨message, code, phase, .error, []⟩

/-- A diagnostic that does no harm. -/
def warning (message : String) (code phase : Option String) : Diagnostic :=
  ⟨message, code, phase, .warning, []⟩

/-- The diagnostic as one line. -/
def line (diagnostic : Diagnostic) : String :=
  diagnostic.severity.label ++ ": " ++ diagnostic.message

/-- Whether the diagnostic makes the request fail. -/
def isError (diagnostic : Diagnostic) : Bool :=
  diagnostic.severity == .error

end Diagnostic

/-- Whether one of the diagnostics makes the request fail. -/
def hasErrors (diagnostics : List Diagnostic) : Bool :=
  diagnostics.any (·.isError)

end SwiftPlan
