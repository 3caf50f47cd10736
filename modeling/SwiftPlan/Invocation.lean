import SwiftPlan.DriverError
import SwiftPlan.Text.Affix

/-!
# Invocations

The name under which the driver is called says which driver is meant. `swift` runs its input or
reads commands, `swiftc` builds, and the other names stand for single tools, to which the
arguments go as they are. `--driver-mode=` as the first argument takes the place of the name, and
`-frontend` or `-modulewrap` as the first argument of a building driver calls a tool.
-/

namespace SwiftPlan

/-- The tools that take their arguments as they are. -/
inductive PassthroughTool where
  | frontend
  | moduleWrap
  | autolinkExtract
  | indent
  deriving DecidableEq, Repr

/-- The drivers that plan a build. -/
inductive BuildKind where
  /-- Runs its input at once. -/
  | interactive
  /-- Builds files. -/
  | batch
  deriving DecidableEq, Repr

/-- What an invocation asks for. -/
inductive DriverKind where
  | build (kind : BuildKind)
  | passthrough (tool : PassthroughTool)
  deriving DecidableEq, Repr

namespace DriverKind

/-- Whether the arguments go to a tool as they are. -/
def isPassthrough : DriverKind → Bool
  | build _ => false
  | passthrough _ => true

/-- The driver of this name. -/
def ofName? (name : String) : Option DriverKind :=
  [("swift", build .interactive), ("swiftc", build .batch),
    ("swift-frontend", passthrough .frontend),
    ("swift-autolink-extract", passthrough .autolinkExtract),
    ("swift-indent", passthrough .indent)].lookup name

end DriverKind

/-- The first argument that asks a building driver for the tool instead. -/
def PassthroughTool.subcommand? : PassthroughTool → Option String
  | frontend => some "-frontend"
  | moduleWrap => some "-modulewrap"
  | autolinkExtract | indent => none

/-- The tool that a first argument asks for. -/
def PassthroughTool.ofSubcommand? (argument : String) : Option PassthroughTool :=
  [frontend, moduleWrap].find? (·.subcommand? == some argument)

/-- An invocation: what it asks for, and the arguments that are left when the name of the driver
is settled. -/
structure Invocation where
  kind : DriverKind
  arguments : List String
  deriving DecidableEq, Repr

namespace Invocation

/-- The beginning of the argument that takes the place of the driver's name. -/
def modeOption : String := "--driver-mode="

/-- The name of a driver from the path of its executable: the last piece, where backslashes count
as slashes, without `.exe`. -/
def nameOfExecutable (executable : String) : String :=
  let slashed := executable.toList.map fun c => if c = '\\' then '/' else c
  let base := String.ofList (LexicalPath.baseChars slashed)
  (Text.before? ".exe" base).getD base

/-- The name that decides, and the arguments behind it. -/
def splitName : List String → String × List String
  | [] => ("", [])
  | [executable] => (nameOfExecutable executable, [])
  | executable :: argument :: rest =>
    match Text.after? modeOption argument with
    | some name => (name, rest)
    | none => (nameOfExecutable executable, argument :: rest)

/-- Reads an invocation: the path of the executable and its arguments. -/
def ofArguments (arguments : List String) : Except DriverNameError Invocation :=
  let (name, rest) := splitName arguments
  match DriverKind.ofName? name with
  | none => .error ⟨name⟩
  | some (.passthrough tool) => .ok ⟨.passthrough tool, rest⟩
  | some (.build kind) =>
    match rest.head?.bind PassthroughTool.ofSubcommand? with
    | some tool => .ok ⟨.passthrough tool, rest⟩
    | none => .ok ⟨.build kind, rest⟩

/-- The path of an executable, at least, is needed. -/
theorem ne_nil_of_ofArguments {arguments : List String} {invocation : Invocation}
    (h : ofArguments arguments = .ok invocation) : arguments ≠ [] := by
  intro hnil
  subst hnil
  have hnone : DriverKind.ofName? "" = none := by decide
  simp [ofArguments, splitName, hnone] at h

end Invocation

end SwiftPlan
