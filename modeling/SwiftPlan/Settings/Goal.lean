import SwiftPlan.FileType
import SwiftPlan.Invocation
import SwiftPlan.Options.Parsed

/-!
# What a build produces

The compiler mode says how inputs are divided among compilations, the goal says what comes out in
the end. Of the options that choose a goal the last one counts.
-/

namespace SwiftPlan

/-- How the inputs are compiled. -/
inductive CompilerMode where
  /-- Each input by a job of its own. -/
  | standard
  /-- All inputs by one job. -/
  | single
  /-- The inputs are run at once. -/
  | immediate
  /-- Commands are read and run. -/
  | repl
  deriving DecidableEq, Repr

/-- What a link produces. -/
inductive LinkProduct where
  | executable
  | dynamicLibrary
  | staticLibrary
  deriving DecidableEq, Repr

/-- Whether the product is a library. -/
def LinkProduct.isLibrary : LinkProduct → Bool
  | executable => false
  | dynamicLibrary | staticLibrary => true

/-- What a build produces. -/
inductive BuildGoal where
  /-- Objects, and a link of them. -/
  | link (product : LinkProduct)
  /-- Objects. -/
  | objects
  /-- A module and nothing else. -/
  | module
  /-- No files by itself. -/
  | noFiles
  deriving DecidableEq, Repr

namespace BuildGoal

/-- What the compiler writes for each compilation. -/
def compilerOutput? : BuildGoal → Option FileType
  | link _ | objects => some .object
  | module => some .swiftModule
  | noFiles => none

/-- What is linked. -/
def product? : BuildGoal → Option LinkProduct
  | link product => some product
  | objects | module | noFiles => none

/-- The options that ask for a module. -/
def moduleRequests : List String := ["-emit-module", "-emit-module-path"]

/-- The goal that the options of a batch driver choose. -/
def ofOptions (parsed : ParsedOptions) : BuildGoal :=
  match (parsed.lastInGroup? OptionGroup.modes.name).bind (·.identity?) with
  | none => if parsed.hasAny moduleRequests then module else link .executable
  | some mode =>
    if mode = "-emit-executable" then link .executable
    else if mode = "-emit-library" then
      link (if parsed.contains "-static" then .staticLibrary else .dynamicLibrary)
    else if mode = "-emit-object" then objects
    else noFiles

end BuildGoal

namespace BuildKind

/-- The compiler mode of a building driver. -/
def compilerMode (kind : BuildKind) (parsed : ParsedOptions) (inputs : List TypedPath) :
    CompilerMode :=
  match kind with
  | interactive => if inputs.isEmpty then .repl else .immediate
  | batch =>
    if parsed.contains "-repl" then .repl
    else if parsed.lastWins "-whole-module-optimization" "-no-whole-module-optimization" false then
      .single
    else .standard

/-- The goal of a building driver. -/
def goal (kind : BuildKind) (parsed : ParsedOptions) : BuildGoal :=
  match kind with
  | interactive => .noFiles
  | batch => BuildGoal.ofOptions parsed

end BuildKind

namespace DriverKind

/-- The compiler mode, for drivers that have one. -/
def compilerMode? (kind : DriverKind) (parsed : ParsedOptions) (inputs : List TypedPath) :
    Option CompilerMode :=
  match kind with
  | build kind => some (kind.compilerMode parsed inputs)
  | passthrough _ => none

/-- The goal of a driver. -/
def goal (kind : DriverKind) (parsed : ParsedOptions) : BuildGoal :=
  match kind with
  | build kind => kind.goal parsed
  | passthrough _ => .noFiles

end DriverKind

end SwiftPlan
