import SwiftPlan.Text.Case
import SwiftPlan.Triple

/-!
# Tools

A job names the tool that it needs. Which executable runs is decided by the environment: a
variable made from the name of the tool may give its path, and without one the name itself is
left to be found by whoever runs the job.
-/

namespace SwiftPlan

/-- A tool: its name and the executable that runs. -/
structure Tool where
  name : String
  path : String
  deriving DecidableEq, Repr

/-- The tool whose executable bears its name. -/
def Tool.plain (name : String) : Tool := ⟨name, name⟩

/-- The variables of an environment with their values. -/
abbrev Environment := List (String × String)

namespace Tool

/-- The compiler and everything that it can do. -/
def frontendName : String := "swift"

/-- The tool that extracts from objects what they want linked. -/
def autolinkExtractName : String := "swift-autolink-extract"

/-- The tool that collects debug information. -/
def dsymutilName : String := "dsymutil"

/-- The tool that formats code. -/
def indentName : String := "swift-indent"

/-- The tool that links executables and dynamic libraries. -/
def linkerName : PlatformFamily → String
  | .darwin => "ld"
  | .elf => "clang"

/-- The tool that makes static libraries. -/
def archiverName : PlatformFamily → String
  | .darwin => "libtool"
  | .elf => "ar"

/-- All tools that jobs can need. -/
def names : List String :=
  [frontendName, autolinkExtractName, dsymutilName, indentName, linkerName .darwin,
    linkerName .elf, archiverName .darwin, archiverName .elf]

/-- The variable that gives the executable of a tool. -/
def variableName (name : String) : String :=
  let upper := (Text.toUpper name).toList.map fun c => if c = '-' then '_' else c
  "SWIFT_DRIVER_" ++ String.ofList upper ++ "_EXEC"

/-- The tool of this name in an environment. A variable with an empty value counts for nothing. -/
def inEnvironment (environment : Environment) (name : String) : Tool :=
  match environment.lookup (variableName name) with
  | none => plain name
  | some path => if path = "" then plain name else ⟨name, path⟩

@[simp] theorem name_inEnvironment (environment : Environment) (name : String) :
    (inEnvironment environment name).name = name := by
  unfold inEnvironment
  split
  · rfl
  · split <;> rfl

end Tool

/-- The tools that serve one target in one environment. A request that names no target has no
family. -/
structure Toolchain where
  family : Option PlatformFamily
  environment : Environment
  deriving DecidableEq, Repr

namespace Toolchain

/-- The tool of this name. -/
def tool (toolchain : Toolchain) (name : String) : Tool :=
  Tool.inEnvironment toolchain.environment name

/-- The compiler. -/
def frontend (toolchain : Toolchain) : Tool :=
  toolchain.tool Tool.frontendName

/-- The linker. Where there is no family it is that of ELF platforms. -/
def linker (toolchain : Toolchain) : Tool :=
  toolchain.tool (Tool.linkerName (toolchain.family.getD .elf))

/-- The archiver. Where there is no family it is that of ELF platforms. -/
def staticArchiver (toolchain : Toolchain) : Tool :=
  toolchain.tool (Tool.archiverName (toolchain.family.getD .elf))

/-- The tool that extracts what objects want linked. -/
def autolinkExtractor (toolchain : Toolchain) : Tool :=
  toolchain.tool Tool.autolinkExtractName

/-- The tool that collects debug information. -/
def dsymGenerator (toolchain : Toolchain) : Tool :=
  toolchain.tool Tool.dsymutilName

/-- The tool that formats code. -/
def indent (toolchain : Toolchain) : Tool :=
  toolchain.tool Tool.indentName

end Toolchain

end SwiftPlan
