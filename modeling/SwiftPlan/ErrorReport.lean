/-!
# Error reports

What is shown of an error that ends a build request: a short reason that stays the same between
releases, a message for people, and where it helps the option or the path at fault.
-/

namespace SwiftPlan

/-- An error as it is shown. -/
structure ErrorReport where
  reason : String
  message : String
  option : Option String := none
  path : Option String := none
  deriving DecidableEq, Repr

/-- One line: the reason in brackets, the message, and after them the option and the path. An
option or a path that is the empty text is left out. -/
def ErrorReport.line (report : ErrorReport) : String :=
  let field (label : String) (value : Option String) : String :=
    match value with
    | none => ""
    | some text => if text.isEmpty then "" else " " ++ label ++ "=" ++ text
  "[" ++ report.reason ++ "] " ++ report.message
    ++ field "option" report.option ++ field "path" report.path

end SwiftPlan
