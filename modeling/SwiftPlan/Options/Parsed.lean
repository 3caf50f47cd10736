import SwiftPlan.Options.Spec
import SwiftPlan.Text.Blank
import SwiftPlan.Text.ShellWord

/-!
# Parsed command lines

A parsed command line keeps its inputs and options in the order in which they were written. Where
options contradict each other, a question asks for the last one that matters.

`ParsedOptions.canonical` writes a parsed command line as tokens again, with the value of an
option in a token of its own wherever the option allows it.
-/

namespace SwiftPlan

/-- The value given to an option. -/
inductive OptionValue where
  | none
  | text (value : String)
  /-- The parts between commas. -/
  | parts (values : List String)
  deriving DecidableEq, Repr

namespace OptionValue

/-- The value as one text. Parts are put together again. -/
def joined : OptionValue → String
  | none => ""
  | text value => value
  | parts values => ",".intercalate values

/-- The value as a list of texts. -/
def toList : OptionValue → List String
  | none => []
  | text value => [value]
  | parts values => values

end OptionValue

/-- An element of a parsed command line. -/
inductive ParsedOption where
  | input (text : String)
  | option (spec : OptionSpec) (value : OptionValue)
  deriving DecidableEq, Repr

namespace ParsedOption

/-- The option, unless the element is an input. -/
def spec? : ParsedOption → Option OptionSpec
  | input _ => none
  | option spec _ => some spec

/-- The identity of the option, unless the element is an input. -/
def identity? (parsed : ParsedOption) : Option String :=
  parsed.spec?.map (·.identity)

/-- Whether the element is an input. -/
def isInput (parsed : ParsedOption) : Bool :=
  parsed.spec?.isNone

/-- The input or the value of the option as one text. -/
def value : ParsedOption → String
  | input text => text
  | option _ value => value.joined

/-- The input or the value of the option as a list. -/
def values : ParsedOption → List String
  | input text => [text]
  | option _ value => value.toList

/-- Whether the element is an option with one of these identities. -/
def isOneOf (parsed : ParsedOption) (names : List String) : Bool :=
  parsed.identity?.any names.contains

/-- Whether the element is an option of the group. -/
def isInGroup (parsed : ParsedOption) (group : String) : Bool :=
  parsed.spec?.any (·.inGroup group)

/-- The element as tokens. -/
def tokens : ParsedOption → List String
  | input text => [text]
  | option spec value =>
    match spec.shape with
    | .flag => [spec.spelling]
    | .separate | .joinedOrSeparate => [spec.spelling, value.joined]
    | .joined | .commaJoined => [spec.spelling ++ value.joined]

end ParsedOption

/-- A parsed command line. -/
structure ParsedOptions where
  options : List ParsedOption
  /-- What stands behind the terminator `--`, if there is one. -/
  tail : Option (List String)
  deriving DecidableEq, Repr

namespace ParsedOptions

/-- The token that ends the options. -/
def terminator : String := "--"

/-- The command line as tokens. -/
def canonical (parsed : ParsedOptions) : List String :=
  parsed.options.flatMap (·.tokens) ++
    match parsed.tail with
    | none => []
    | some tail => terminator :: tail

/-- Whether a token can be shown without quotation. -/
def isBare (token : String) : Bool :=
  token ≠ "" && token.toList.all fun c => !(Text.isBlank c || ['\'', '"', '\\'].contains c)

/-- A token as it is shown. -/
def showToken (token : String) : String :=
  if isBare token then token else ShellWord.quote token

/-- The command line as one line. -/
def description (parsed : ParsedOptions) : String :=
  " ".intercalate (parsed.canonical.map showToken)

/-! ## Questions -/

/-- The inputs in order. -/
def inputs (parsed : ParsedOptions) : List String :=
  (parsed.options.filter (·.isInput)).map (·.value)

/-- The options with one of these identities, in order. -/
def allOf (parsed : ParsedOptions) (names : List String) : List ParsedOption :=
  parsed.options.filter (·.isOneOf names)

/-- Whether an option with one of these identities was given. -/
def hasAny (parsed : ParsedOptions) (names : List String) : Bool :=
  parsed.options.any (·.isOneOf names)

/-- Whether the option with this identity was given. -/
def contains (parsed : ParsedOptions) (name : String) : Bool :=
  parsed.hasAny [name]

/-- The last option with one of these identities. -/
def last? (parsed : ParsedOptions) (names : List String) : Option ParsedOption :=
  (parsed.allOf names).getLast?

/-- The value of the last option with this identity. -/
def lastValue? (parsed : ParsedOptions) (names : List String) : Option String :=
  (parsed.last? names).map (·.value)

/-- The options of a group, in order. -/
def inGroup (parsed : ParsedOptions) (group : String) : List ParsedOption :=
  parsed.options.filter (·.isInGroup group)

/-- The last option of a group. -/
def lastInGroup? (parsed : ParsedOptions) (group : String) : Option ParsedOption :=
  (parsed.inGroup group).getLast?

/-- Which of an option and its opposite was given last, and `default` if neither was. -/
def lastWins (parsed : ParsedOptions) (positive negative : String) (default : Bool) : Bool :=
  match parsed.last? [positive, negative] with
  | none => default
  | some found => found.identity? == some positive

end ParsedOptions

end SwiftPlan
