/-!
# Lexical paths

Paths as texts: nothing here looks at a file system. A path is read as the sequence of its
components, the pieces between slashes; empty pieces and single dots stand for nothing.
`normalize` works through the components with a stack, where a double dot removes the component
before it. At the root there is nothing to remove, and a path that does not start at the root
keeps its leading double dots. A path that begins with exactly two slashes keeps both of them; any
other number of leading slashes becomes one.

`join` writes one path after another, `base` and `directory?` take a path apart at its last slash,
and `stem` and `extension?` at the last dot of its last component, where dots in front of everything
else belong to the name (`.profile` has no extension).
-/

namespace SwiftPlan.LexicalPath

/-! ## Components and normal form -/

/-- The component that leads to the parent directory. -/
def parentMark : List Char := ['.', '.']

/-- The components of a path: its pieces between slashes without the ones that stand for
nothing. -/
def components (path : List Char) : List (List Char) :=
  (path.splitOn '/').filter fun piece => piece ≠ [] ∧ piece ≠ ['.']

/-- Goes one component further. The stack holds the components so far, the last one on top;
`rooted` says that below them is the root, whose parent is the root itself. -/
def push (rooted : Bool) (stack : List (List Char)) (component : List Char) : List (List Char) :=
  if component = parentMark then
    match stack with
    | [] => if rooted then [] else [parentMark]
    | top :: below => if top = parentMark then parentMark :: stack else below
  else component :: stack

/-- The slashes that a normalized path keeps in front. -/
def root : List Char → List Char
  | '/' :: '/' :: '/' :: _ => ['/']
  | '/' :: '/' :: _ => ['/', '/']
  | '/' :: _ => ['/']
  | _ => []

/-- A path from its leading slashes and its components, where the empty path is a dot. -/
def assemble (root : List Char) (components : List (List Char)) : List Char :=
  match root ++ ['/'].intercalate components with
  | [] => ['.']
  | path => path

/-- The components that are left of a path when double dots are worked off, last one first. -/
def settle (path : List Char) : List (List Char) :=
  (components path).foldl (push !(root path).isEmpty) []

/-- The normal form of a path. -/
def normalizeChars (path : List Char) : List Char :=
  assemble (root path) (settle path).reverse

/-- The normal form of a path. -/
def normalize (path : String) : String :=
  String.ofList (normalizeChars path.toList)

/-- A path without the pieces that stand for nothing, as file systems show it. Double dots
stay. -/
def tidy (path : String) : String :=
  String.ofList (assemble (root path.toList) (components path.toList))

/-! ## Joining and splitting -/

/-- Whether a path starts at the root. -/
def isRooted (path : List Char) : Bool :=
  path.head? == some '/'

/-- Where `path` leads from `base`: the two with a slash between them, unless there is one already.
A rooted path leads to the same place from everywhere. -/
def joinChars (base path : List Char) : List Char :=
  if isRooted path then path
  else if base = [] ∨ base.getLast? = some '/' then base ++ path
  else base ++ '/' :: path

/-- Where `path` leads from `base`. -/
def join (base path : String) : String :=
  String.ofList (joinChars base.toList path.toList)

/-- The parts of a text before and after the last occurrence of `mark`. -/
def splitAtLast? (mark : Char) (text : List Char) : Option (List Char × List Char) :=
  match text.reverse.dropWhile (· != mark) with
  | [] => none
  | _ :: before => some (before.reverse, (text.reverse.takeWhile (· != mark)).reverse)

/-- The last piece of a path. It is empty if the path ends in a slash. -/
def baseChars (path : List Char) : List Char :=
  match splitAtLast? '/' path with
  | none => path
  | some (_, base) => base

/-- The last piece of a path. -/
def base (path : String) : String :=
  String.ofList (baseChars path.toList)

/-- Takes the slashes off the end of a path, unless it has nothing else. -/
def trimSlashes (path : List Char) : List Char :=
  match path.reverse.dropWhile (· == '/') with
  | [] => path
  | rest => rest.reverse

/-- What stands before the last piece of a path: the slashes alone if nothing else does, and
otherwise a path without slashes at its end. -/
def directoryChars (path : List Char) : List Char :=
  match splitAtLast? '/' path with
  | none => []
  | some (before, _) => trimSlashes (before ++ ['/'])

/-- The directory part of a path, if it has one. -/
def directory? (path : String) : Option String :=
  match directoryChars path.toList with
  | [] => none
  | directory => some (String.ofList directory)

/-- A path without its extension, and the extension if there is one. The extension begins after
the last dot of the last piece; the dots at the beginning of that piece do not count. -/
def splitExtensionChars (path : List Char) : List Char × Option (List Char) :=
  let piece := baseChars path
  match splitAtLast? '.' (piece.dropWhile (· == '.')) with
  | none => (path, none)
  | some (_, extension) =>
    (path.take (path.length - (extension.length + 1)), some extension)

/-- A path without its extension. -/
def stem (path : String) : String :=
  String.ofList (splitExtensionChars path.toList).1

/-- The extension of a path, without its dot. -/
def extension? (path : String) : Option String :=
  (splitExtensionChars path.toList).2.map String.ofList

end SwiftPlan.LexicalPath
