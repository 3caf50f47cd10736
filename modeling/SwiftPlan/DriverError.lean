import SwiftPlan.FileSystem
import SwiftPlan.FileType
import SwiftPlan.Json.Parser
import SwiftPlan.Options.Parse
import SwiftPlan.Text.Literal
import SwiftPlan.Triple

/-!
# Driver errors

The errors that end a build request, each by its cause, and how each is shown.
-/

namespace SwiftPlan

/-- What is wrong with an output-file map, or with a question to one. -/
inductive OutputFileMapError where
  /-- The file of this name cannot be read. -/
  | unreadable (name : String) (cause : ReadError)
  /-- The file of this name is not a JSON document. -/
  | malformed (name : String) (cause : Json.SyntaxError)
  /-- The document is not an object. -/
  | notObject (source : String)
  /-- What the document has for an input is not an object. -/
  | entryNotObject (source input : String)
  /-- The map has nothing for the input. -/
  | noEntry (input : String)
  /-- The map has no output of the type for the input. -/
  | noOutput (input : String) (type : FileType)
  deriving DecidableEq, Repr

namespace OutputFileMapError

/-- The wording of an error. -/
def message : OutputFileMapError → String
  | unreadable name cause =>
    "unable to read output file map: [Errno " ++ toString cause.number ++ "] " ++ cause.meaning
      ++ ": " ++ Text.literal name
  | malformed _ cause => "malformed output file map: " ++ cause.message
  | notObject _ => "output file map must be a JSON object"
  | entryNotObject _ input => "entry for '" ++ input ++ "' must be a JSON object"
  | noEntry input => "no output file map entry for input '" ++ input ++ "'"
  | noOutput input type =>
    "no '" ++ type.mapKey ++ "' output for input '" ++ input ++ "' in output file map"

/-- The file or the input that an error is about. -/
def subject : OutputFileMapError → String
  | unreadable name _ | malformed name _ => name
  | notObject source | entryNotObject source _ => source
  | noEntry input | noOutput input _ => input

/-- How an error is shown. -/
def report (error : OutputFileMapError) : ErrorReport :=
  ⟨"output-file-map", error.message, none, some error.subject⟩

end OutputFileMapError

/-- The name under which the driver was called is not the name of a driver. -/
structure DriverNameError where
  name : String
  deriving DecidableEq, Repr

/-- How a wrong driver name is shown. -/
def DriverNameError.report (error : DriverNameError) : ErrorReport :=
  ⟨"invalid-driver-name", "invalid driver name: '" ++ error.name ++ "'", none, none⟩

/-- Why a build request ends without an answer. -/
inductive DriverError where
  | driverName (error : DriverNameError)
  | option (error : OptionError)
  | path (error : PathError)
  | target (error : TargetError)
  | outputFileMap (error : OutputFileMapError)
  deriving DecidableEq, Repr

/-- How a driver error is shown. -/
def DriverError.report : DriverError → ErrorReport
  | driverName error => error.report
  | option error => error.report
  | path error => error.report
  | target error => error.report
  | outputFileMap error => error.report

/-- Why work on a build request stops: an error of the driver, or a text that it cannot make sense
of at all. -/
inductive Failure where
  | driver (error : DriverError)
  /-- A response file has white space that separates nothing. -/
  | unexpectedBlank (position : TextPosition)
  /-- An output-file map is not encoded in UTF-8, or a file is asked for by what is not a name. -/
  | notText
  deriving DecidableEq, Repr

end SwiftPlan
