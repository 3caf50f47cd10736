import SwiftPlan.FileType
import SwiftPlan.Json.Printer
import SwiftPlan.Text.ShellWord
import SwiftPlan.Toolchain

/-!
# Jobs

A job is one run of a tool. Its command line keeps paths as paths, so that temporary ones can be
placed when it is known where the scratch directory is. A job declares all files that it reads and
all that it writes.
-/

namespace SwiftPlan

/-- What a job does. -/
inductive JobKind where
  | compile
  | mergeModule
  | autolinkExtract
  | link
  | generateDSYM
  | interpret
  | repl
  | passthrough
  deriving DecidableEq, Repr

/-- The kind in reports. -/
def JobKind.label : JobKind → String
  | compile => "compile"
  | mergeModule => "merge-module"
  | autolinkExtract => "autolink-extract"
  | link => "link"
  | generateDSYM => "generate-dsym"
  | interpret => "interpret"
  | repl => "repl"
  | passthrough => "passthrough"

/-- An argument of a job: a text as it is, or a path with some text directly in front. -/
inductive Argument where
  | flag (text : String)
  | path (file : VirtualPath) (lead : String)
  deriving DecidableEq, Repr

namespace Argument

/-- A path with nothing in front. -/
def file (path : VirtualPath) : Argument :=
  .path path ""

/-- An option and the path behind it. -/
def option (spelling : String) (path : VirtualPath) : List Argument :=
  [flag spelling, file path]

/-- The path of an argument that has one. -/
def path? : Argument → Option VirtualPath
  | flag _ => none
  | path file _ => some file

/-- The argument as text. -/
def render (argument : Argument) (scratch : Option String) : String :=
  match argument with
  | flag text => text
  | path file lead => lead ++ file.render scratch

end Argument

/-- One run of a tool. -/
structure Job where
  kind : JobKind
  tool : Tool
  commandLine : List Argument
  inputs : List TypedPath
  outputs : List TypedPath
  deriving DecidableEq, Repr

namespace Job

/-- The arguments as texts, with temporary paths below the scratch directory if it is known. -/
def arguments (job : Job) (scratch : Option String) : List String :=
  job.commandLine.map (·.render scratch)

/-- The job as a shell command. -/
def description (job : Job) (scratch : Option String) : String :=
  ShellWord.line (job.tool.path :: job.arguments scratch)

/-- The files of a type that the job writes. -/
def outputsOf (job : Job) (type : FileType) : List TypedPath :=
  job.outputs.filter (·.type == type)

/-- The job with the executable that a toolchain has for its tool. -/
def equip (toolchain : Toolchain) (job : Job) : Job :=
  { job with tool := toolchain.tool job.tool.name }

end Job

/-- A typed path as a JSON value. -/
def TypedPath.toJson (file : TypedPath) : Json :=
  .object [("path", .string file.path.display), ("kind", .string file.path.kind.label),
    ("type", .string file.type.mapKey)]

/-- A job as a JSON value. -/
def Job.toJson (job : Job) : Json :=
  .object [("kind", .string job.kind.label), ("tool", .string job.tool.name),
    ("executable", .string job.tool.path), ("arguments", .ofStrings (job.arguments none)),
    ("inputs", .array (job.inputs.map (·.toJson))),
    ("outputs", .array (job.outputs.map (·.toJson)))]

end SwiftPlan
