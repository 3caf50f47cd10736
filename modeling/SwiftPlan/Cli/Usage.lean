import SwiftPlan.Text.Affix
import SwiftPlan.Text.Digit
import SwiftPlan.Text.Literal

/-!
# The command line of the planner

Switches of the planner itself may stand in front of the name of a driver; the name and everything
behind it are a build request. A long switch may be shortened as long as it stays unambiguous,
and short switches may share a dash, where one equals sign behind the first of them changes
nothing: `-v=v` is `-vv`. No switch takes a value, so any other text attached to one is refused.
A terminator `--` directly in front of the name or directly behind it is dropped.

Words behind the name are looked at only for being ambiguous switches, which are refused wherever
they stand in front of a terminator.
-/

namespace SwiftPlan.Cli

/-- A switch of the planner. -/
inductive Switch where
  /-- Explains the command line. -/
  | help
  /-- Writes the plan as JSON. -/
  | json
  /-- Asks for an account of the work. -/
  | verbose
  deriving DecidableEq, Repr

/-- The spellings of the switches. -/
def spellings : List (String × Switch) :=
  [("-h", .help), ("--help", .help), ("--json", .json), ("-v", .verbose),
    ("--verbose", .verbose)]

/-- The switch with all its spellings. -/
def Switch.title (switch : Switch) : String :=
  "/".intercalate ((spellings.filter (·.2 == switch)).map (·.1))

/-- The switch that a letter behind a single dash stands for. -/
def Switch.ofLetter? (letter : Char) : Option Switch :=
  spellings.lookup (String.ofList ['-', letter])

/-- Why a command line is refused. -/
inductive UsageError where
  /-- A word is the beginning of several switches. -/
  | ambiguous (word : String) (candidates : List String)
  /-- Something stands behind a switch in its own word. -/
  | notTaken (switch : Switch) (text : String)
  /-- No driver is named. -/
  | incomplete
  /-- Words in front of the driver's name are no switches. -/
  | unrecognized (words : List String)
  deriving DecidableEq, Repr

/-- The wording of a usage error. -/
def UsageError.message : UsageError → String
  | ambiguous word candidates =>
    "ambiguous option: " ++ word ++ " could match " ++ ", ".intercalate candidates
  | notTaken switch text =>
    "argument " ++ switch.title ++ ": ignored explicit argument " ++ Text.literal text
  | incomplete => "the following arguments are required: invocation, arguments"
  | unrecognized words => "unrecognized arguments: " ++ " ".intercalate words

/-! ## Words -/

/-- What a word in front of the driver's name is. A switch comes with the text attached to it, which
stands behind an equals sign or, for a short switch, directly behind its letter. -/
inductive Word where
  /-- The name. -/
  | plain
  /-- A long switch. -/
  | long (switch : Switch) (attached : Option (List Char))
  /-- A short switch. -/
  | short (switch : Switch) (attached : Option (List Char))
  /-- A word that looks like a switch and is none. -/
  | unknown
  /-- The beginning of several switches. -/
  | ambiguous (candidates : List String)
  deriving DecidableEq, Repr

/-- Whether `text` is made of decimal digits, at least one of them. -/
def isDigits (text : List Char) : Bool :=
  !text.isEmpty && text.all Text.isDecimalDigit

/-- Whether the text behind a dash is a number, with or without a fraction. A line feed at its end
does not count. -/
def isNumber (text : List Char) : Bool :=
  let text := if text.getLast? = some '\n' then text.dropLast else text
  isDigits text ||
    match text.dropWhile Text.isDecimalDigit with
    | '.' :: fraction => isDigits fraction
    | _ => false

/-- The parts of a word in front of its first equals sign and behind it. -/
def splitEquals (word : List Char) : List Char × Option (List Char) :=
  match word.dropWhile (· != '=') with
  | [] => (word, none)
  | _ :: behind => (word.takeWhile (· != '='), some behind)

/-- The word that a switch with this spelling makes. -/
def switchWord (spelling : String) (switch : Switch) (attached : Option (List Char)) :
    Word :=
  if Text.beginsWith "--" spelling then .long switch attached else .short switch attached

/-- A word that begins with a dash and is not the full spelling of a switch. -/
def otherWord (word : List Char) : Word :=
  if isNumber (word.drop 1) || word.contains ' ' then .plain else .unknown

/-- A word that may be a shortened long switch. -/
def shortenedWord (word : List Char) : Word :=
  let (lead, behind) := splitEquals word
  let candidates := spellings.filter fun (spelling, _) =>
    Text.beginsWith (String.ofList lead) spelling
  match candidates with
  | [] => otherWord word
  | [(_, switch)] => .long switch behind
  | _ => .ambiguous (candidates.map (·.1))

/-- A word that may be a short switch with something behind it. -/
def clusterWord (letter : Char) (rest : List Char) : Word :=
  match Switch.ofLetter? letter with
  | some switch => .short switch (some rest)
  | none => otherWord ('-' :: letter :: rest)

/-- What a word is. -/
def classify (word : List Char) : Word :=
  match spellings.lookup (String.ofList word) with
  | some switch => switchWord (String.ofList word) switch none
  | none =>
    match word with
    | '-' :: letter :: rest =>
      let (lead, behind) := splitEquals word
      match spellings.lookup (String.ofList lead), behind with
      | some switch, some text => switchWord (String.ofList lead) switch (some text)
      | _, _ => if letter = '-' then shortenedWord word else clusterWord letter rest
    | _ => .plain

/-! ## Command lines -/

/-- The switches whose letters make up the text attached to a short switch, with that switch in
front. A letter that is no switch is refused together with what follows it. -/
def readCluster (switch : Switch) : List Char → Except UsageError (List Switch)
  | [] => .error (.notTaken switch "")
  | letter :: rest =>
    match Switch.ofLetter? letter with
    | none => .error (.notTaken switch (String.ofList (letter :: rest)))
    | some next =>
      if rest = [] then .ok [switch, next] else (readCluster next rest).map (switch :: ·)

/-- The switches of a word, and what is left of it. -/
def readWord (word : String) : Word → Except UsageError (List Switch × List String)
  | .long switch none | .short switch none => .ok ([switch], [])
  | .long switch (some text) => .error (.notTaken switch (String.ofList text))
  | .short switch (some text) => (readCluster switch text).map fun switches => (switches, [])
  | .plain | .unknown => .ok ([], [word])
  | .ambiguous candidates => .error (.ambiguous word candidates)

/-- A command: the switches, and the build request. -/
structure Command where
  switches : List Switch
  request : List String
  deriving DecidableEq, Repr

/-- What a command line asks for. -/
inductive Reading where
  | help
  | command (command : Command)
  deriving DecidableEq, Repr

/-- The end of a command line, from the driver's name on. -/
def complete (switches : List Switch) (extras : List String) (request : List String) :
    Except UsageError Reading :=
  if extras.isEmpty then .ok (.command ⟨switches, request⟩) else .error (.unrecognized extras)

/-- The words without a terminator in front. -/
def dropTerminator : List String → List String
  | [] => []
  | word :: rest => if word = "--" then rest else word :: rest

/-- Reads the words of a command line, where `switches` and `extras` are the switches and the
unknown words so far. A switch that asks for help ends the reading. -/
def readWords (switches : List Switch) (extras : List String) :
    List String → Except UsageError Reading
  | [] => .error .incomplete
  | word :: rest =>
    if word = "--" then
      if rest.isEmpty then .error .incomplete else complete switches extras rest
    else
      match classify word.toList with
      | .plain => complete switches extras (word :: dropTerminator rest)
      | other =>
        match readWord word other with
        | .error error => .error error
        | .ok (more, left) =>
          if more.contains .help then .ok .help
          else readWords (switches ++ more) (extras ++ left) rest

/-- The first word that is ambiguous, in front of any terminator. -/
def findAmbiguous? : List String → Option UsageError
  | [] => none
  | word :: rest =>
    if word = "--" then none
    else
      match classify word.toList with
      | .ambiguous candidates => some (.ambiguous word candidates)
      | _ => findAmbiguous? rest

/-- Reads a command line. -/
def read (words : List String) : Except UsageError Reading :=
  match findAmbiguous? words with
  | some error => .error error
  | none => readWords [] [] words

end SwiftPlan.Cli
