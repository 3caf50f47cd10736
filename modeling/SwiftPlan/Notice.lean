import SwiftPlan.Diagnostic
import SwiftPlan.VirtualPath

/-!
# Notices

The problems from which a build request recovers, each by its cause. `Notice.diagnostic` gives the
wording, the gravity and the phase of each.
-/

namespace SwiftPlan

/-- A problem that is noted while a build is planned. -/
inductive Notice where
  /-- A response file leads back to itself. -/
  | responseFileCycle (name : String)
  /-- An output-file map gives a destination for a kind of output that does not exist. -/
  | unknownOutputKind (source kind : String)
  /-- An output-file map gives something else than a nonempty text as a destination. -/
  | invalidDestination (source kind : String)
  /-- The format asked for debug information is not known. -/
  | unknownDebugFormat (value : String)
  /-- A format of debug information is asked for, but no debug information. -/
  | debugFormatAlone
  /-- The format of debug information does not hold what is asked for. -/
  | debugFormatNotAllowed (format spelling : String)
  /-- The module name belongs to the standard library. -/
  | reservedModuleName (name : String)
  /-- The module name is not an identifier. -/
  | badModuleName (name : String)
  /-- An option that names a file is given the standard output. -/
  | streamNotAllowed (option : String)
  /-- There is nothing to build. -/
  | noInputFiles
  /-- No job of the build reads the input. -/
  | unusedInput (path : VirtualPath)
  deriving DecidableEq, Repr

/-- How a notice is shown. -/
def Notice.diagnostic : Notice → Diagnostic
  | responseFileCycle name =>
    .error ("response file '" ++ name ++ "' is recursively expanded")
      "response-file-cycle" "response-file"
  | unknownOutputKind source kind =>
    .warning ("output file map '" ++ source ++ "' has an unknown output kind '" ++ kind ++ "'")
      "output-file-map-kind" "output-file-map"
  | invalidDestination source kind =>
    .error ("output file map '" ++ source ++ "' has an invalid entry for '" ++ kind ++ "'")
      "output-file-map-entry" "output-file-map"
  | unknownDebugFormat value =>
    .error ("invalid value '" ++ value ++ "' in '-debug-info-format='") "invalid-value" "settings"
  | debugFormatAlone =>
    .error "option '-debug-info-format=' is missing a required argument (-g)"
      "missing-required-argument" "settings"
  | debugFormatNotAllowed format spelling =>
    .error ("argument '" ++ format ++ "' is not allowed with '" ++ spelling ++ "'")
      "argument-not-allowed-with" "settings"
  | reservedModuleName name =>
    .error ("module name \"" ++ name ++ "\" is reserved for the standard library")
      "reserved-module-name" "settings"
  | badModuleName name =>
    .error ("module name \"" ++ name ++ "\" is not a valid identifier")
      "bad-module-name" "settings"
  | streamNotAllowed option =>
    .error ("'" ++ option ++ "' cannot write to standard output") "invalid-value" "settings"
  | noInputFiles => .error "no input files" "no-input-files" "planning"
  | unusedInput path =>
    .warning ("input file '" ++ path.display ++ "' is unused in this build")
      "unused-input" "planning"

end SwiftPlan
