/-!
# Options

What is known of an option: its spelling, its shape, which says where its value stands, and the
groups to which it belongs. Of the options in a group usually the last one on a command line
counts. An option may be another spelling of a second one; both then have one identity.
-/

namespace SwiftPlan

/-- Where the value of an option stands. -/
inductive OptionShape where
  /-- There is no value: `-static`. -/
  | flag
  /-- Directly behind the spelling: `-debug-info-format=dwarf`. -/
  | joined
  /-- In the next token: `-module-name main`. -/
  | separate
  /-- Directly behind the spelling, or in the next token if nothing is there: `-Ia`, `-I a`. -/
  | joinedOrSeparate
  /-- Directly behind the spelling, in parts with commas between them: `-sanitize=a,b`. -/
  | commaJoined
  deriving DecidableEq, Repr

/-- Whether the value may stand directly behind the spelling. -/
def OptionShape.joins : OptionShape → Bool
  | flag | separate => false
  | joined | joinedOrSeparate | commaJoined => true

/-- The groups of the options that are known without a special table. -/
inductive OptionGroup where
  /-- What the build produces. -/
  | modes
  /-- How much debug information is written. -/
  | debugLevels
  /-- What is handed to the linker. -/
  | linker
  /-- What is handed to the compiler. -/
  | frontend
  deriving DecidableEq, Repr

/-- The name of the group. -/
def OptionGroup.name : OptionGroup → String
  | modes => "modes"
  | debugLevels => "g"
  | linker => "linker"
  | frontend => "frontend"

/-- An option. -/
structure OptionSpec where
  spelling : String
  shape : OptionShape
  /-- The names of the groups to which it belongs. -/
  groups : List String := []
  /-- Whether the value names a file. -/
  isPath : Bool := false
  /-- The option of which this is another spelling. -/
  aliasOf : Option String := none
  /-- Whether parts between commas may be empty. -/
  allowsEmptyParts : Bool := false
  deriving DecidableEq, Repr

namespace OptionSpec

/-- The spelling under which the option is asked for: its own, or that of the option that it
stands for. -/
def identity (option : OptionSpec) : String :=
  match option.aliasOf with
  | none => option.spelling
  | some canonical => if canonical = "" then option.spelling else canonical

/-- Whether the option belongs to the group of this name. -/
def inGroup (option : OptionSpec) (group : String) : Bool :=
  option.groups.contains group

end OptionSpec

end SwiftPlan
