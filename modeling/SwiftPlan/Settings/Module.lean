import SwiftPlan.Diagnosed
import SwiftPlan.Settings.DebugInfo
import SwiftPlan.Settings.Goal
import SwiftPlan.Text.Identifier

/-!
# The module of a build

Every build has a module: its name, the file that holds it if there is one, and the file with its
documentation.

A name that is given is kept even if it cannot be the name of a module, which is noted. Otherwise
the name is that of the only input, or else that of the output, and where neither gives an
identifier it is `main`.

A module that is asked for is a file of its own. A link with full debug information needs the
module as well, but only for a time.
-/

namespace SwiftPlan

/-- Why a module file is written. -/
inductive ModuleRole where
  /-- It was asked for. -/
  | topLevel
  /-- A later job of the build reads it. -/
  | auxiliary
  deriving DecidableEq, Repr

/-- The file that holds the module. -/
structure ModuleOutput where
  role : ModuleRole
  path : VirtualPath
  deriving DecidableEq, Repr

namespace ModuleName

/-- The module that no program may replace. -/
def standardLibrary : String := "Swift"

/-- The name of a module that has no better one. -/
def fallback : String := "main"

/-- The name of the module of typed commands. -/
def commands : String := "REPL"

/-- What is wrong with a name that is given. -/
def notices (parsed : ParsedOptions) (name : String) : List Notice :=
  if name = standardLibrary ∧ ¬ parsed.contains "-parse-stdlib" then [.reservedModuleName name]
  else if Text.isIdentifier name then []
  else [.badModuleName name]

/-- The name of a library's module: that of its file without the `lib` in front. -/
def ofLibrary (stem : String) : String :=
  match Text.after? "lib" stem with
  | some rest => if rest = "" then stem else rest
  | none => stem

/-- The name that the input or the output of a build suggests. -/
def suggested (parsed : ParsedOptions) (goal : BuildGoal) (inputs : List TypedPath) :
    Except PathError String :=
  match inputs, parsed.lastValue? ["-o"], goal with
  | [input], _, _ =>
    .ok (if input.path.kind = .standardInput then fallback else input.path.stem)
  | _, some output, .link product => do
    let stem := (← VirtualPath.ofText output).stem
    return if product.isLibrary then ofLibrary stem else stem
  | _, some output, .module => do
    return (← VirtualPath.ofText output).stem
  | _, _, _ => .ok fallback

/-- A name that was not given: the suggestion if it can be the name of a module. -/
def orFallback (name : String) : String :=
  if Text.isIdentifier name ∧ name ≠ standardLibrary then name else fallback

/-- The name of the module. -/
def resolve (parsed : ParsedOptions) (mode : Option CompilerMode) (goal : BuildGoal)
    (inputs : List TypedPath) : Diagnosed String :=
  match parsed.lastValue? ["-module-name"] with
  | some name => do
    Diagnosed.noteAll (notices parsed name)
    return name
  | none =>
    if mode = some .repl then return commands
    else do return orFallback (← suggested parsed goal inputs)

end ModuleName

/-- The value of an option that names a file. The standard output is refused. -/
def fileValue? (parsed : ParsedOptions) (option : String) : Diagnosed (Option String) :=
  match parsed.lastValue? [option] with
  | none => return none
  | some value =>
    if value = "-" then do
      Diagnosed.note (.streamNotAllowed option)
      return none
    else return some value

/-- The path that a user writes as `text`, seen from the working directory. -/
def resolvePath (workingDirectory : Option VirtualPath) (text : String) :
    Except PathError VirtualPath := do
  (← VirtualPath.ofText text).resolvedIn workingDirectory

namespace ModuleOutput

/-- The name of the file that holds a module. -/
def fileName (moduleName : String) : String :=
  moduleName ++ "." ++ FileType.swiftModule.extension

/-- Where a module goes that was asked for without a place of its own: to the output if the module
is all that is built, and otherwise beside the output or, without one, into the working
directory. -/
def besideOutput (parsed : ParsedOptions) (moduleName : String) (goal : BuildGoal)
    (workingDirectory : Option VirtualPath) : Except PathError VirtualPath :=
  match (parsed.lastValue? ["-o"]).filter (· ≠ "-") with
  | some output => do
    let path ← resolvePath workingDirectory output
    if goal = .module then return path
    else path.sibling (fileName moduleName)
  | none => do (← VirtualPath.relative (fileName moduleName)).resolvedIn workingDirectory

/-- The file that holds the module, if one is written. -/
def resolve (parsed : ParsedOptions) (moduleName : String) (goal : BuildGoal)
    (level : Option DebugLevel) (workingDirectory : Option VirtualPath) :
    Diagnosed (Option ModuleOutput) :=
  if parsed.hasAny BuildGoal.moduleRequests then do
    match ← fileValue? parsed "-emit-module-path" with
    | some value => return some ⟨.topLevel, ← resolvePath workingDirectory value⟩
    | none => return some ⟨.topLevel, ← besideOutput parsed moduleName goal workingDirectory⟩
  else if level = some .astTypes ∧ goal.product?.isSome then do
    return some ⟨.auxiliary, ← VirtualPath.temporary (fileName moduleName)⟩
  else return none

/-- The file with the documentation of the module: where it is asked for, and otherwise beside the
module. -/
def documentation (output : ModuleOutput) (parsed : ParsedOptions)
    (workingDirectory : Option VirtualPath) : Diagnosed VirtualPath := do
  match ← fileValue? parsed "-emit-module-doc-path" with
  | some value => resolvePath workingDirectory value
  | none => output.path.withExtension FileType.swiftDocumentation.extension

end ModuleOutput

end SwiftPlan
