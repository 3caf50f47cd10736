import SwiftPlan.Job
import SwiftPlan.Settings.Resolve

/-!
# Options of the compiler

The part of a compiler command that depends on the settings alone. It is the same in each job of a
build that runs the compiler on source files.
-/

namespace SwiftPlan.Plan

/-- How the compiler is told the path of an option, for the path options that are handed on. -/
def forwardedPathFlag? (identity : String) : Option String :=
  [("-I", "-I"), ("-I=", "-I"), ("-F", "-F"), ("-sdk", "-sdk"),
    ("-api-diff-data-file", "-api-diff-data-file")].lookup identity

/-- What the compiler is told of an element of the command line. -/
def forwarded (settings : Settings) (parsed : ParsedOption) :
    Except PathError (List Argument) :=
  match parsed.identity? with
  | none => return []
  | some identity =>
    match forwardedPathFlag? identity with
    | some flag => do return Argument.option flag (← settings.path parsed.value)
    | none =>
      if identity = "-sanitize=" then return [.flag ("-sanitize=" ++ parsed.value)]
      else if identity = "-enable-testing" then return [.flag "-enable-testing"]
      else return []

/-- Whether messages are coloured, if anything is said about it. -/
def colorFlags (parsed : ParsedOptions) : List Argument :=
  let on := "-color-diagnostics"
  let off := "-no-color-diagnostics"
  if parsed.hasAny [on, off] then [.flag (if parsed.lastWins on off false then on else off)]
  else []

/-- The options on debug information. -/
def debugFlags (settings : Settings) : List Argument :=
  match settings.debug.level with
  | none => []
  | some level =>
    let format :=
      if settings.options.contains DebugInfo.formatOption then
        [.flag (DebugInfo.formatOption ++ settings.debug.format.name)]
      else []
    .flag level.flag :: format ++ [.flag "-enable-anonymous-context-mangled-names"]

/-- The header of another language that is imported, if there is one. -/
def headerOption (settings : Settings) : Except PathError (List Argument) :=
  match settings.options.lastValue? ["-import-objc-header"] with
  | none => return []
  | some value => do return Argument.option "-import-objc-header" (← settings.path value)

/-- Whether the inputs are compiled as the code of a library. -/
def isLibraryCode (settings : Settings) : Bool :=
  settings.options.contains "-parse-as-library" || settings.goal.product?.any (·.isLibrary)

/-- The target, which each job of the compiler is told. -/
def targetFlags (settings : Settings) : List Argument :=
  [.flag "-target", .flag settings.target.text]

/-- The name of the module, which each job of the compiler is told. -/
def moduleNameFlags (settings : Settings) : List Argument :=
  [.flag "-module-name", .flag settings.moduleName]

/-- The options of the compiler. -/
def frontendOptions (settings : Settings) : Except PathError (List Argument) := do
  let handedOn ← settings.options.options.mapM (forwarded settings)
  let header ← headerOption settings
  return targetFlags settings
    ++ colorFlags settings.options
    ++ handedOn.flatten
    ++ debugFlags settings
    ++ header
    ++ (if isLibraryCode settings then [.flag "-parse-as-library"] else [])
    ++ (if settings.options.contains "-parse-stdlib" then [.flag "-parse-stdlib"] else [])
    ++ moduleNameFlags settings
    ++ (settings.options.allOf ["-Xfrontend"]).map fun parsed => .flag parsed.value

end SwiftPlan.Plan
