import SwiftPlan.ErrorReport
import SwiftPlan.Options.Parsed
import SwiftPlan.Options.Table

/-!
# Parsing a command line

Tokens are read from left to right. A token that does not begin with a dash is an input, and so is
a single dash; the terminator `--` ends the options, and everything after it is kept as it is. Any
other token has to start with an option of the table. The option says whether its value stands in
the same token or in the next one, and a value in the next token is taken whatever it looks like.
-/

namespace SwiftPlan

/-- Why a command line cannot be parsed. -/
inductive OptionError where
  | unrecognized (token : String)
  | missingArgument (spelling : String)
  | emptyPart (spelling text : String)
  deriving DecidableEq, Repr

/-- How a parse error is shown. -/
def OptionError.report : OptionError → ErrorReport
  | unrecognized token =>
    ⟨"unrecognized-option", "unknown argument: '" ++ token ++ "'", some token, none⟩
  | missingArgument spelling =>
    ⟨"missing-argument", "missing argument value for '" ++ spelling ++ "'", some spelling, none⟩
  | emptyPart spelling text =>
    ⟨"invalid-value", "empty value in '" ++ spelling ++ text ++ "'", some spelling, none⟩

namespace OptionTable

/-- Whether a token is an input wherever it stands in front of the terminator. -/
def isInputToken (token : String) : Bool :=
  token == "-" || !Text.beginsWith "-" token

/-- The parts between the commas of `text`, which stands behind the spelling of `spec`. -/
def splitParts (spec : OptionSpec) (text : String) : Except OptionError (List String) :=
  let parts := (text.toList.splitOn ',').map String.ofList
  if parts.contains "" && !spec.allowsEmptyParts then .error (.emptyPart spec.spelling text)
  else .ok parts

/-- What an option does with the token that starts with it. -/
inductive Reading where
  /-- The value, if there is one, is in the token. -/
  | complete (value : OptionValue)
  /-- The value is the next token. -/
  | awaiting

/-- Reads the token `token`, which starts with the option `spec`. -/
def read (spec : OptionSpec) (token : String) : Except OptionError Reading :=
  let behind := (Text.after? spec.spelling token).getD ""
  match spec.shape with
  | .flag => .ok (.complete .none)
  | .joined => .ok (.complete (.text behind))
  | .commaJoined => (splitParts spec behind).map fun parts => .complete (.parts parts)
  | .separate => .ok .awaiting
  | .joinedOrSeparate =>
    if token = spec.spelling then .ok .awaiting else .ok (.complete (.text behind))

/-- Puts an element in front of a parsed command line. -/
def prepend (parsed : ParsedOption) (rest : ParsedOptions) : ParsedOptions :=
  { rest with options := parsed :: rest.options }

/-- Parses a command line. -/
def parse (table : OptionTable) : List String → Except OptionError ParsedOptions
  | [] => .ok ⟨[], none⟩
  | token :: rest =>
    if token = ParsedOptions.terminator then .ok ⟨[], some rest⟩
    else if isInputToken token then (parse table rest).map (prepend (.input token))
    else
      match table.lookup? token with
      | none => .error (.unrecognized token)
      | some spec =>
        match read spec token with
        | .error error => .error error
        | .ok (.complete value) => (parse table rest).map (prepend (.option spec value))
        | .ok .awaiting =>
          match rest with
          | [] => .error (.missingArgument spec.spelling)
          | value :: rest => (parse table rest).map (prepend (.option spec (.text value)))

end OptionTable

end SwiftPlan
