import SwiftPlan.Cli.Usage
import SwiftPlan.Driver

/-!
# Running a command

A command plans the build that it is given and prints the plan: one shell command per job, or a
JSON object with everything. Diagnostics and errors go to the error output, unless they are part of
the JSON object. The exit code is 0, or 1 if the build cannot be planned or an error was noted, or
2 if the command line itself is wrong.
-/

namespace SwiftPlan

/-- A diagnostic as a JSON value. -/
def Diagnostic.toJson (diagnostic : Diagnostic) : Json :=
  .object [("phase", .ofString? diagnostic.phase), ("code", .ofString? diagnostic.code),
    ("message", .string diagnostic.message), ("severity", .string diagnostic.severity.label),
    ("notes", .ofStrings diagnostic.notes)]

/-- An error as a JSON value. -/
def ErrorReport.toJson (report : ErrorReport) : Json :=
  .object [("reason_code", .string report.reason), ("message", .string report.message),
    ("option", .ofString? report.option), ("path", .ofString? report.path)]

namespace Cli

/-- How the command line is written. -/
def usage : String :=
  "usage: swiftdriver [-h] [--json] [-v] invocation ...\n"

/-- What the help switch prints. -/
def helpText : String :=
  usage ++ "\nSwift compiler driver: plan build jobs\n\npositional arguments:\n"
    ++ "  invocation     Driver identity (swift, swiftc, swift-autolink-extract,\n"
    ++ "                 swift-indent)\n"
    ++ "  arguments      Arguments for the driver\n\noptions:\n"
    ++ "  -h, --help     show this help message and exit\n"
    ++ "  --json         Print the plan and diagnostics as JSON\n"
    ++ "  -v, --verbose  Log planning decisions to stderr\n"

/-- How a run ends. -/
inductive Ending where
  | exit (code : Nat)
  /-- A text file cannot be made sense of, and nothing more is said about it. -/
  | stopped (failure : Failure)
  deriving DecidableEq, Repr

/-- What a run leaves behind. -/
structure Transcript where
  ending : Ending
  output : String
  errors : String
  deriving DecidableEq, Repr

/-- Texts as lines. -/
def lines (texts : List String) : String :=
  String.join (texts.map (· ++ "\n"))

/-- The transcript of a plan. -/
def ofPlan (json : Bool) (diagnostics : List Diagnostic) (jobs : List Job) : Transcript :=
  let code := if hasErrors diagnostics then 1 else 0
  if json then
    let document : Json := .object [("exit_code", .ofNat code),
      ("jobs", .array (jobs.map (·.toJson))),
      ("diagnostics", .array (diagnostics.map (·.toJson)))]
    ⟨.exit code, lines [document.render], ""⟩
  else
    ⟨.exit code, lines (jobs.map (·.description none)), lines (diagnostics.map (·.line))⟩

/-- The transcript of a request that ends with an error. -/
def ofError (json : Bool) (diagnostics : List Diagnostic) (error : DriverError) : Transcript :=
  if json then
    let document : Json := .object [("exit_code", .ofNat 1), ("jobs", .array []),
      ("error", error.report.toJson), ("diagnostics", .array (diagnostics.map (·.toJson)))]
    ⟨.exit 1, lines [document.render], ""⟩
  else
    ⟨.exit 1, "", lines (diagnostics.map (·.line) ++ ["error: " ++ error.report.message])⟩

/-- The jobs of a build request. -/
def planRequest (surroundings : Surroundings) (environment : Environment)
    (request : List String) : Diagnosed (List Job) := do
  (← Driver.ofArguments surroundings environment request).plan

/-- Runs a command. -/
def runCommand (surroundings : Surroundings) (environment : Environment) (command : Command) :
    Transcript :=
  let json := command.switches.contains .json
  let planned := planRequest surroundings environment command.request
  let diagnostics := planned.notices.map (·.diagnostic)
  match planned.outcome with
  | .ok jobs => ofPlan json diagnostics jobs
  | .error (.driver error) => ofError json diagnostics error
  | .error failure => ⟨.stopped failure, "", ""⟩

/-- Runs a command line. -/
def run (surroundings : Surroundings) (environment : Environment) (words : List String) :
    Transcript :=
  match read words with
  | .error error => ⟨.exit 2, "", usage ++ "swiftdriver: error: " ++ error.message ++ "\n"⟩
  | .ok .help => ⟨.exit 0, helpText, ""⟩
  | .ok (.command command) => runCommand surroundings environment command

end Cli

end SwiftPlan
