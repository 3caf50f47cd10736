import SwiftPlan.Options.Table

/-!
# The options of the Swift drivers

The options that `swift` and `swiftc` understand. All of them begin with a dash.
-/

namespace SwiftPlan.OptionTable

open OptionShape OptionGroup

/-- The options that choose how the driver works and what it builds. -/
def modeOptions : List OptionSpec := [
  { spelling := "--driver-mode=", shape := joined },
  { spelling := "-frontend", shape := flag },
  { spelling := "-modulewrap", shape := flag },
  { spelling := "-repl", shape := flag, groups := [modes.name] },
  { spelling := "-emit-executable", shape := flag, groups := [modes.name] },
  { spelling := "-emit-library", shape := flag, groups := [modes.name] },
  { spelling := "-emit-object", shape := flag, groups := [modes.name] },
  { spelling := "-c", shape := flag, groups := [modes.name], aliasOf := "-emit-object" },
  { spelling := "-typecheck", shape := flag, groups := [modes.name] }]

/-- The options that say which files are written, and where. -/
def outputOptions : List OptionSpec := [
  { spelling := "-emit-module", shape := flag },
  { spelling := "-emit-module-path", shape := separate, isPath := true },
  { spelling := "-emit-module-doc-path", shape := separate, isPath := true },
  { spelling := "-emit-dependencies", shape := flag },
  { spelling := "-static", shape := flag },
  { spelling := "-o", shape := joinedOrSeparate, isPath := true },
  { spelling := "-output-file-map", shape := separate, isPath := true }]

/-- The options that say how the inputs make up a module. -/
def moduleOptions : List OptionSpec := [
  { spelling := "-module-name", shape := separate },
  { spelling := "-parse-as-library", shape := flag },
  { spelling := "-parse-stdlib", shape := flag },
  { spelling := "-whole-module-optimization", shape := flag },
  { spelling := "-wmo", shape := flag, aliasOf := "-whole-module-optimization" },
  { spelling := "-no-whole-module-optimization", shape := flag },
  { spelling := "-enable-testing", shape := flag, groups := [frontend.name] }]

/-- The options on debug information. -/
def debugOptions : List OptionSpec := [
  { spelling := "-g", shape := flag, groups := [debugLevels.name] },
  { spelling := "-gnone", shape := flag, groups := [debugLevels.name] },
  { spelling := "-gline-tables-only", shape := flag, groups := [debugLevels.name] },
  { spelling := "-gdwarf-types", shape := flag, groups := [debugLevels.name] },
  { spelling := "-debug-info-format=", shape := joined }]

/-- The options on messages, the working directory and the target. -/
def environmentOptions : List OptionSpec := [
  { spelling := "-color-diagnostics", shape := flag, groups := [frontend.name] },
  { spelling := "-no-color-diagnostics", shape := flag, groups := [frontend.name] },
  { spelling := "-working-directory", shape := separate, isPath := true },
  { spelling := "-working-directory=", shape := joined, isPath := true,
    aliasOf := "-working-directory" },
  { spelling := "-target", shape := separate },
  { spelling := "-sdk", shape := separate, groups := [frontend.name], isPath := true }]

/-- The options on search paths, and the ones that hand something on. -/
def forwardedOptions : List OptionSpec := [
  { spelling := "-I", shape := joinedOrSeparate, groups := [frontend.name], isPath := true },
  { spelling := "-I=", shape := joined, groups := [frontend.name], isPath := true },
  { spelling := "-F", shape := joinedOrSeparate, groups := [frontend.name], isPath := true },
  { spelling := "-L", shape := joinedOrSeparate, groups := [linker.name], isPath := true },
  { spelling := "-l", shape := joinedOrSeparate, groups := [linker.name] },
  { spelling := "-api-diff-data-file", shape := separate, groups := [frontend.name],
    isPath := true },
  { spelling := "-import-objc-header", shape := separate, isPath := true },
  { spelling := "-sanitize=", shape := commaJoined, groups := [frontend.name] },
  { spelling := "-Xfrontend", shape := separate },
  { spelling := "-Xlinker", shape := separate, groups := [linker.name] }]

/-- The options of the Swift drivers. -/
def standardOptions : List OptionSpec :=
  modeOptions ++ outputOptions ++ moduleOptions ++ debugOptions ++ environmentOptions
    ++ forwardedOptions

/-- The table of the options of the Swift drivers. -/
def standard : OptionTable where
  options := standardOptions
  nodup_spelling := by decide +kernel

end SwiftPlan.OptionTable
