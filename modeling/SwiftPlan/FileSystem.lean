import SwiftPlan.LexicalPath
import SwiftPlan.Text.Lines

/-!
# File systems

The files that a build request can read. A file system is a finite set of files, seen from a
current directory; the directories are the current one, those that hold a file, and everything
above them. There are no links, so a place is found by its name alone.

To read a name means to walk along its components. Each place on the way has to be a directory,
even if the walk comes back from it, and at the end there has to be a file. `read_eq_ok` says that
what is read is the file at the place that the name denotes.

Not every text is a name. A system that ends names with a null character has no way to ask for a
file by a text with this character in it. Such a question is not one that finds nothing, it is one
that must not be asked, so those who read files ask `isName` before.
-/

namespace SwiftPlan

/-- A place in a file system: the names that lead to it from the root, last one first. -/
abbrev Location := List (List Char)

/-- Why a file cannot be read. -/
inductive ReadError where
  | notFound
  | notDirectory
  | isDirectory
  deriving DecidableEq, Repr

namespace ReadError

/-- The number of the error. -/
def number : ReadError → Nat
  | notFound => 2
  | notDirectory => 20
  | isDirectory => 21

/-- What the error means. -/
def meaning : ReadError → String
  | notFound => "No such file or directory"
  | notDirectory => "Not a directory"
  | isDirectory => "Is a directory"

end ReadError

/-- What is found at a place. -/
inductive Entry where
  | file (content : ByteArray)
  | directory
  | missing

/-- Files, each at its place, and the absolute name of the directory from which other names are
seen. -/
structure FileSystem where
  currentDirectory : String
  files : List (Location × ByteArray)
  /-- The characters that no name may hold: the null character on a machine, and none where files
  are kept in memory. -/
  forbidden : List Char := []

namespace FileSystem

/-- One step of a walk. -/
def step (place : Location) (component : List Char) : Location :=
  LexicalPath.push true place component

/-- The place to which a name leads from the root. -/
def placeFromRoot (name : String) : Location :=
  (LexicalPath.components name.toList).foldl step []

/-- The place of the current directory. -/
def home (fs : FileSystem) : Location :=
  placeFromRoot fs.currentDirectory

/-- The places that hold a file. -/
def locations (fs : FileSystem) : List Location :=
  fs.files.map (·.1)

/-- Whether a place is the current directory, or above it or above a file. -/
def isDirectory (fs : FileSystem) (place : Location) : Bool :=
  (fs.home :: fs.locations).any fun below => place.isSuffixOf below

/-- What is found at a place. -/
def entry (fs : FileSystem) (place : Location) : Entry :=
  match fs.files.lookup place with
  | some content => .file content
  | none => if fs.isDirectory place then .directory else .missing

/-- Where the walk along a name begins. -/
def start (fs : FileSystem) (name : String) : Location :=
  if LexicalPath.isRooted name.toList then [] else fs.home

/-- The place that a name denotes, whether something is there or not. -/
def locate (fs : FileSystem) (name : String) : Location :=
  (LexicalPath.components name.toList).foldl step (fs.start name)

/-- Walks from a place along components. Each place that is left has to be a directory. -/
def walk (fs : FileSystem) (place : Location) : List (List Char) → Except ReadError Location
  | [] => .ok place
  | component :: rest =>
    match fs.entry place with
    | .directory => walk fs (step place component) rest
    | .file _ => .error .notDirectory
    | .missing => .error .notFound

/-- Whether a file may be asked for by this name. -/
def isName (fs : FileSystem) (name : String) : Bool :=
  name.toList.all fun c => !fs.forbidden.contains c

/-- The content of the file called `name`. Nothing is found by what is not a name. -/
def read (fs : FileSystem) (name : String) : Except ReadError ByteArray :=
  if fs.isName name then
    match fs.walk (fs.start name) (LexicalPath.components name.toList) with
    | .error error => .error error
    | .ok place =>
      match fs.entry place with
      | .file content => .ok content
      | .directory => .error .isDirectory
      | .missing => .error .notFound
  else .error .notFound

/-- The text that a content encodes in UTF-8, with line feeds as line ends. -/
def decode? (content : ByteArray) : Option (List Char) :=
  (String.fromUTF8? content).map fun text => Text.joinLineEnds text.toList

/-- The text of the file called `name`, if it can be read and is a text. -/
def readText? (fs : FileSystem) (name : String) : Option (List Char) :=
  match fs.read name with
  | .error _ => none
  | .ok content => decode? content

/-- A walk that succeeds ends where its components lead. -/
theorem walk_eq_ok {fs : FileSystem} {place place' : Location} {components : List (List Char)}
    (h : fs.walk place components = .ok place') : place' = components.foldl step place := by
  induction components generalizing place with
  | nil => simpa [walk] using h.symm
  | cons component rest ih =>
    rw [walk] at h
    split at h
    · exact ih h
    · simp at h
    · simp at h

/-- What is read is the file at the place that the name denotes. -/
theorem read_eq_ok {fs : FileSystem} {name : String} {content : ByteArray}
    (h : fs.read name = .ok content) : fs.files.lookup (fs.locate name) = some content := by
  unfold read at h
  split at h
  · split at h
    · simp at h
    · next place hw =>
      obtain rfl : place = fs.locate name := walk_eq_ok hw
      unfold entry at h
      split at h
      · next heq =>
        split at heq
        · next hl =>
          simp only [Entry.file.injEq] at heq
          simp only [Except.ok.injEq] at h
          rw [hl, heq, h]
        · split at heq <;> simp at heq
      · simp at h
      · simp at h
  · simp at h

theorem mem_keys_of_lookup {α β : Type} [BEq α] [LawfulBEq α] {a : α} {b : β}
    {pairs : List (α × β)} (h : pairs.lookup a = some b) : a ∈ pairs.map (·.1) := by
  induction pairs with
  | nil => simp at h
  | cons pair rest ih =>
    obtain ⟨k, v⟩ := pair
    rw [List.lookup_cons] at h
    split at h
    · next he => simp [eq_of_beq he]
    · simp [ih h]

/-- A text that can be read is at one of the places that hold a file. -/
theorem locate_mem_locations {fs : FileSystem} {name : String} {text : List Char}
    (h : fs.readText? name = some text) : fs.locate name ∈ fs.locations := by
  unfold readText? at h
  split at h
  · simp at h
  · next content hr => exact mem_keys_of_lookup (read_eq_ok hr)

/-! ## Making a file system -/

/-- The file system with these named files, seen from `directory`. Their names are absolute or
seen from the same directory; if two of them denote one place, the later one counts. -/
def ofFiles (directory : String) (files : List (String × ByteArray)) : FileSystem where
  currentDirectory := directory
  files :=
    (files.map fun (name, content) =>
      (locate { currentDirectory := directory, files := [] } name, content)).reverse

/-- The same on a machine, where names end with a null character. -/
def ofMachine (directory : String) (files : List (String × ByteArray)) : FileSystem :=
  { ofFiles directory files with forbidden := ['\x00'] }

end FileSystem

end SwiftPlan
