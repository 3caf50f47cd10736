import SwiftPlan.Cli.Run

/-!
# The program

Gathers what a run can see of the machine, runs the command line, and prints what it leaves
behind. The files that a run reads are found by following response files from the arguments, and
the output-file map by asking a first run for the one that it misses.
-/

namespace SwiftPlan.Program

/-- The file called `name` with its content, if it can be read. -/
def readFile? (name : String) : IO (Option (String × ByteArray)) := do
  try
    let content ← IO.FS.readBinFile name
    return some (name, content)
  catch _ =>
    return none

/-- The files among `names` that can be read. -/
def readFiles (names : List String) : IO (List (String × ByteArray)) := do
  return (← names.mapM readFile?).filterMap id

/-- The names that arguments give as response files. -/
def references (arguments : List String) : List String :=
  arguments.filterMap (Text.after? "@")

/-- The names in the text of a response file. -/
def referencesIn (content : ByteArray) : List String :=
  match FileSystem.decode? content with
  | none => []
  | some text =>
    match ResponseFile.tokens text with
    | .ok words => references words
    | .error _ => []

/-- Reads response files and the ones that they name in turn. -/
partial def readReferences (known : List (String × ByteArray)) (names : List String) :
    IO (List (String × ByteArray)) := do
  let fresh := (names.filter fun name => !known.any (·.1 == name)).eraseDups
  let files ← readFiles fresh
  if files.isEmpty then return known
  readReferences (known ++ files) (files.flatMap fun (_, content) => referencesIn content)

/-- One line about the machine, or `other` if the machine does not tell. -/
def factOr (name other : String) : IO String := do
  try
    let text ← IO.FS.readFile name
    return String.ofList (text.toList.takeWhile (· != '\n'))
  catch _ =>
    return other

/-- The machine. -/
def host : IO Host := do
  let system ← factOr "/proc/sys/kernel/ostype" "Linux"
  let machine ← factOr "/proc/sys/kernel/arch" "x86_64"
  return ⟨system, machine, ""⟩

/-- The variables that decide which executables run. -/
def environment : IO Environment := do
  let values ← (Tool.names.map Tool.variableName).mapM fun name => do
    let value? ← IO.getEnv name
    return value?.map fun value => (name, value)
  return values.filterMap id

/-- The output-file map that a run misses. -/
def missedMap? (surroundings : Surroundings) (environment : Environment) (words : List String) :
    Option String :=
  match Cli.read words with
  | .ok (.command command) =>
    match (Cli.planRequest surroundings environment command.request).outcome with
    | .error (.driver (.outputFileMap (.unreadable name _))) => some name
    | _ => none
  | _ => none

/-- Runs the command line on this machine. -/
def run (words : List String) : IO Cli.Transcript := do
  let directory := (← IO.currentDir).toString
  let machine ← host
  let given ← environment
  let files ← readReferences [] (references words)
  let seen : Surroundings := ⟨.ofMachine directory files, machine⟩
  match missedMap? seen given words with
  | none => return Cli.run seen given words
  | some name =>
    let more ← readFiles [name]
    return Cli.run ⟨.ofMachine directory (files ++ more), machine⟩ given words

end SwiftPlan.Program

/-- Plans a build and prints the plan. -/
def main (words : List String) : IO UInt32 := do
  let transcript ← SwiftPlan.Program.run words
  IO.print transcript.output
  IO.eprint transcript.errors
  match transcript.ending with
  | .exit code => return UInt32.ofNat code
  | .stopped _ =>
    IO.eprintln "error: a response file or an output file map has no proper name or is no text"
    return 1
