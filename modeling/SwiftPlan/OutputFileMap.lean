import SwiftPlan.Diagnosed

/-!
# Output-file maps

A map from outside says for some inputs where their outputs go. It is a JSON object whose names
are inputs, as they stand on the command line, where the empty name stands for the build as a
whole. Each value is an object in turn, from kinds of output to destinations.

A document of another shape is an error. Within an entry, a kind that is not known and a
destination that is not a nonempty text are noted and left out.
-/

namespace SwiftPlan

/-- The destinations for one input. -/
abbrev OutputEntry := List (FileType × VirtualPath)

/-- The destinations for the inputs of a build. -/
structure OutputFileMap where
  entries : List (String × OutputEntry)
  deriving DecidableEq, Repr

namespace OutputFileMap

/-- The map without entries. -/
def empty : OutputFileMap := ⟨[]⟩

/-- The input that stands for the build as a whole. -/
def wholeBuild : String := ""

/-- The number of entries. -/
def size (map : OutputFileMap) : Nat :=
  map.entries.length

/-! ## Questions -/

/-- Whether the map has an entry for the input. -/
def contains (map : OutputFileMap) (input : String) : Bool :=
  map.entries.any (·.1 == input)

/-- Where the output of a type for an input goes, if the map says so. -/
def find? (map : OutputFileMap) (input : String) (type : FileType) : Option VirtualPath :=
  (map.entries.lookup input).bind fun entry => entry.lookup type

/-- Where the output of a type for an input goes. It is an error if the map does not say so. -/
def get (map : OutputFileMap) (input : String) (type : FileType) :
    Except OutputFileMapError VirtualPath :=
  match map.entries.lookup input with
  | none => .error (.noEntry input)
  | some entry =>
    match entry.lookup type with
    | none => .error (.noOutput input type)
    | some path => .ok path

/-! ## Reading a map -/

/-- The destination of one kind of output, if it is sound, in front of the others. -/
def readDestination (source kind : String) (destination : Json) :
    Diagnosed (Option (FileType × VirtualPath)) :=
  match FileType.ofMapKey? kind, destination with
  | none, _ => do
    Diagnosed.note (.unknownOutputKind source kind)
    return none
  | some type, .string text =>
    if text = "" then do
      Diagnosed.note (.invalidDestination source kind)
      return none
    else return some (type, ← VirtualPath.ofText text)
  | some _, _ => do
    Diagnosed.note (.invalidDestination source kind)
    return none

/-- The destinations of an entry. -/
def readEntry (source : String) : List (String × Json) → Diagnosed OutputEntry
  | [] => pure []
  | (kind, destination) :: rest => do
    let first ← readDestination source kind destination
    let others ← readEntry source rest
    return first.toList ++ others

/-- The entries of a document. -/
def readEntries (source : String) :
    List (String × Json) → Diagnosed (List (String × OutputEntry))
  | [] => pure []
  | (input, .object members) :: rest => do
    let entry ← readEntry source members
    let others ← readEntries source rest
    return (input, entry) :: others
  | (input, _) :: _ => Diagnosed.fail (.driver (.outputFileMap (.entryNotObject source input)))

/-- The map that a document denotes. `source` is what messages call the document. -/
def ofJson (source : String) : Json → Diagnosed OutputFileMap
  | .object members => do return ⟨← readEntries source members⟩
  | _ => Diagnosed.fail (.driver (.outputFileMap (.notObject source)))

/-- Reads the map in the file called `name`. -/
def load (fs : FileSystem) (name : String) : Diagnosed OutputFileMap := do
  let shown := LexicalPath.tidy name
  if fs.isName name then
    let content ← (fs.read name).mapError fun cause => OutputFileMapError.unreadable shown cause
    match FileSystem.decode? content with
    | none => Diagnosed.fail .notText
    | some text =>
      let document ← (Json.ofText text).mapError fun cause =>
        OutputFileMapError.malformed shown cause
      ofJson shown document
  else Diagnosed.fail .notText

end OutputFileMap

end SwiftPlan
