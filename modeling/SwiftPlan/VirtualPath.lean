import SwiftPlan.ErrorReport
import SwiftPlan.LexicalPath
import SwiftPlan.Text.Affix

/-!
# Virtual paths

A build is planned with references to files, not with files. A reference is relative to where the
build runs, absolute, temporary (a file in a scratch directory that only lives as long as the
build), or one of the two standard streams. Paths of different kinds differ even if their names
are equal.

The constructors `relative`, `absolute`, `temporary` and `ofText` check that a text has the shape
of its kind, and bring it to its normal form. `resolvedIn` anchors a relative path in a directory
and leaves every other kind alone.
-/

namespace SwiftPlan

/-- The kinds of file references. -/
inductive PathKind where
  | relative
  | absolute
  | temporary
  | standardInput
  | standardOutput
  deriving DecidableEq, Repr

namespace PathKind

/-- Whether paths of this kind are standard streams. -/
def isStream : PathKind → Bool
  | standardInput | standardOutput => true
  | relative | absolute | temporary => false

/-- The kind in reports. -/
def label : PathKind → String
  | relative => "relative"
  | absolute => "absolute"
  | temporary => "temporary"
  | standardInput => "standard_input"
  | standardOutput => "standard_output"

end PathKind

/-- Why a path cannot be made. -/
inductive PathError where
  | notRelative (text : String)
  | notAbsolute (text : String)
  | notTemporary (text : String)
  | streamExtended
  | streamRenamed
  deriving DecidableEq, Repr

/-- How a path error is shown. -/
def PathError.report : PathError → ErrorReport
  | notRelative text =>
    ⟨"invalid-path", "not a relative path: '" ++ text ++ "'", none, some text⟩
  | notAbsolute text =>
    ⟨"invalid-path", "not an absolute path: '" ++ text ++ "'", none, some text⟩
  | notTemporary text =>
    ⟨"invalid-path", "temporary paths must be relative: '" ++ text ++ "'", none, some text⟩
  | streamExtended => ⟨"invalid-path", "cannot append to a standard stream path", none, none⟩
  | streamRenamed => ⟨"invalid-path", "cannot rename a standard stream path", none, none⟩

/-- A reference to a file. -/
structure VirtualPath where
  kind : PathKind
  name : String
  deriving DecidableEq, Repr

namespace VirtualPath

/-! ## Making paths -/

/-- The standard input. -/
def standardInput : VirtualPath := ⟨.standardInput, ""⟩

/-- The standard output. -/
def standardOutput : VirtualPath := ⟨.standardOutput, ""⟩

/-- Whether `text` begins at the root. -/
def isRooted (text : String) : Bool :=
  LexicalPath.isRooted text.toList

/-- Whether `text` names something below where it is seen from: it is not empty and does not
begin at the root. -/
def isUnrooted (text : String) : Bool :=
  text ≠ "" && !isRooted text

/-- A path relative to where the build runs. -/
def relative (text : String) : Except PathError VirtualPath :=
  if isUnrooted text then .ok ⟨.relative, LexicalPath.normalize text⟩
  else .error (.notRelative text)

/-- An absolute path. -/
def absolute (text : String) : Except PathError VirtualPath :=
  if isRooted text then .ok ⟨.absolute, LexicalPath.normalize text⟩
  else .error (.notAbsolute text)

/-- A path in the scratch directory of the build. -/
def temporary (text : String) : Except PathError VirtualPath :=
  if isUnrooted text then .ok ⟨.temporary, LexicalPath.normalize text⟩
  else .error (.notTemporary text)

/-- The path that a user writes as `text`: a single dash is the standard input, and everything
else is absolute or relative by its shape. -/
def ofText (text : String) : Except PathError VirtualPath :=
  if text = "-" then .ok standardInput
  else if isRooted text then absolute text
  else relative text

/-! ## Taking paths apart -/

/-- Whether the path lives in the scratch directory. -/
def isTemporary (path : VirtualPath) : Bool :=
  path.kind == .temporary

/-- Whether the path is a standard stream. -/
def isStream (path : VirtualPath) : Bool :=
  path.kind.isStream

/-- The path as it is written on a command line. -/
def display (path : VirtualPath) : String :=
  if path.isStream then "-" else path.name

/-- The name of the file without its directory. -/
def base (path : VirtualPath) : String :=
  if path.isStream then "-" else LexicalPath.base path.name

/-- The name of the file without its directory and its extension. -/
def stem (path : VirtualPath) : String :=
  LexicalPath.stem path.base

/-- The extension of the file, without its dot. -/
def extension? (path : VirtualPath) : Option String :=
  if path.isStream then none else LexicalPath.extension? path.base

/-- The directory that holds the file, if the path has a directory part. -/
def parent? (path : VirtualPath) : Option VirtualPath :=
  if path.isStream then none
  else (LexicalPath.directory? path.name).map fun directory => ⟨path.kind, directory⟩

/-! ## From path to path -/

/-- The path of `component` below `path`. The kind stays, even if `component` begins at the root
and so replaces the whole name. -/
def appending (path : VirtualPath) (component : String) : Except PathError VirtualPath :=
  if path.isStream then .error .streamExtended
  else .ok ⟨path.kind, LexicalPath.normalize (LexicalPath.join path.name component)⟩

/-- The file `name` in the same directory. A path without a directory part takes the name as it
is. -/
def sibling (path : VirtualPath) (name : String) : Except PathError VirtualPath :=
  match path.parent? with
  | none => .ok ⟨path.kind, name⟩
  | some parent => parent.appending name

/-- The same path with another extension, or with none if `extension` is empty. -/
def withExtension (path : VirtualPath) (extension : String) : Except PathError VirtualPath :=
  if path.isStream then .error .streamRenamed
  else
    let stem := LexicalPath.stem path.name
    .ok ⟨path.kind, if extension = "" then stem else stem ++ "." ++ extension⟩

/-- Anchors a relative path in `directory`, if there is one; the other kinds stay. -/
def resolvedIn (path : VirtualPath) (directory : Option VirtualPath) :
    Except PathError VirtualPath :=
  match directory, path.kind with
  | some directory, .relative => directory.appending path.name
  | _, _ => .ok path

/-- The path as a command writes it. If the scratch directory is known, temporary paths are shown
below it. -/
def render (path : VirtualPath) (scratch : Option String) : String :=
  match scratch, path.kind with
  | some directory, .temporary => LexicalPath.join directory path.name
  | _, _ => path.display

end VirtualPath

end SwiftPlan
