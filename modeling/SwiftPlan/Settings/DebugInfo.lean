import SwiftPlan.Notice
import SwiftPlan.Options.Parsed

/-!
# Debug information

How much debug information is written, and in which format. The last of the options that choose a
level counts, except that `-gline-tables-only` anywhere holds back a last `-g`. The format is
DWARF unless the last option that names a format names another one that is known.

`DebugInfo.notices` lists what is wrong with a request: a format that is not known, a format
without a level, and types in DWARF where another format is asked for.
-/

namespace SwiftPlan

/-- How much debug information is written. -/
inductive DebugLevel where
  /-- Everything, with types as the compiler knows them. -/
  | astTypes
  /-- Everything, with types in DWARF. -/
  | dwarfTypes
  /-- Lines only. -/
  | lineTables
  deriving DecidableEq, Repr

/-- A format of debug information. -/
inductive DebugFormat where
  | dwarf
  | codeView
  deriving DecidableEq, Repr

/-- The option that asks for the level. -/
def DebugLevel.flag : DebugLevel → String
  | astTypes => "-g"
  | dwarfTypes => "-gdwarf-types"
  | lineTables => "-gline-tables-only"

/-- The level that an option asks for; `-gnone` asks for none. -/
def DebugLevel.ofFlag? (flag : String) : Option DebugLevel :=
  [astTypes, dwarfTypes, lineTables].find? (·.flag == flag)

/-- The name of the format. -/
def DebugFormat.name : DebugFormat → String
  | dwarf => "dwarf"
  | codeView => "codeview"

/-- The format of this name. -/
def DebugFormat.ofName? (name : String) : Option DebugFormat :=
  [dwarf, codeView].find? (·.name == name)

/-- The debug information that a build writes. -/
structure DebugInfo where
  level : Option DebugLevel
  format : DebugFormat
  deriving DecidableEq, Repr

namespace DebugInfo

/-- The option that names a format. -/
def formatOption : String := "-debug-info-format="

/-- The last option that chooses a level. -/
def levelOption? (parsed : ParsedOptions) : Option ParsedOption :=
  parsed.lastInGroup? OptionGroup.debugLevels.name

/-- The level that is asked for. -/
def requestedLevel (parsed : ParsedOptions) : Option DebugLevel :=
  match (levelOption? parsed).bind (·.identity?) with
  | none => none
  | some flag =>
    match DebugLevel.ofFlag? flag with
    | some .astTypes =>
      some (if parsed.contains DebugLevel.lineTables.flag then .lineTables else .astTypes)
    | level => level

/-- The name of the format that is asked for. -/
def requestedFormat? (parsed : ParsedOptions) : Option String :=
  parsed.lastValue? [formatOption]

/-- The debug information that the options ask for. -/
def ofOptions (parsed : ParsedOptions) : DebugInfo where
  level := requestedLevel parsed
  format := ((requestedFormat? parsed).bind DebugFormat.ofName?).getD .dwarf

/-- What is wrong with the options on debug information. -/
def notices (parsed : ParsedOptions) : List Notice :=
  let unknown :=
    match requestedFormat? parsed with
    | none => []
    | some name => if (DebugFormat.ofName? name).isNone then [.unknownDebugFormat name] else []
  let alone :=
    if (requestedFormat? parsed).isSome && (levelOption? parsed).isNone then
      [.debugFormatAlone]
    else []
  let refused :=
    let info := ofOptions parsed
    if info.format ≠ .dwarf ∧ info.level = some .dwarfTypes then
      let spelling := ((levelOption? parsed).bind (·.spec?)).map (·.spelling)
      [.debugFormatNotAllowed info.format.name (spelling.getD "")]
    else []
  unknown ++ alone ++ refused

end DebugInfo

end SwiftPlan
