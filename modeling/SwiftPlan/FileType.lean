import SwiftPlan.VirtualPath

/-!
# File types

The kinds of files that flow through a build. Each has the extension that its files carry and the
key under which an output-file map gives a destination for it. Linked images carry no extension,
so no extension stands for them.
-/

namespace SwiftPlan

/-- A kind of file. -/
inductive FileType where
  | swift
  | object
  | swiftModule
  | swiftDocumentation
  | dependencies
  | swiftDependencies
  | autolink
  | objcHeader
  | dSYM
  | image
  deriving DecidableEq, Repr

namespace FileType

/-- All file types. -/
def all : List FileType :=
  [swift, object, swiftModule, swiftDocumentation, dependencies, swiftDependencies, autolink,
    objcHeader, dSYM, image]

/-- The extension of files of this type. -/
def extension : FileType → String
  | swift => "swift"
  | object => "o"
  | swiftModule => "swiftmodule"
  | swiftDocumentation => "swiftdoc"
  | dependencies => "d"
  | swiftDependencies => "swiftdeps"
  | autolink => "autolink"
  | objcHeader => "h"
  | dSYM => "dSYM"
  | image => ""

/-- The key of this type in an output-file map. -/
def mapKey : FileType → String
  | swift => "swift"
  | object => "object"
  | swiftModule => "swiftmodule"
  | swiftDocumentation => "swiftdoc"
  | dependencies => "dependencies"
  | swiftDependencies => "swift-dependencies"
  | autolink => "autolink"
  | objcHeader => "objc-header"
  | dSYM => "dSYM"
  | image => "image"

/-- The type that an output-file map calls `key`. -/
def ofMapKey? (key : String) : Option FileType :=
  all.find? (·.mapKey == key)

/-- The type of files with this extension. -/
def ofExtension? (extension : String) : Option FileType :=
  if extension = "" then none else all.find? (·.extension == extension)

@[simp] theorem ofMapKey?_mapKey (type : FileType) : ofMapKey? type.mapKey = some type := by
  cases type <;> decide

theorem ofMapKey?_eq_some_iff {key : String} {type : FileType} :
    ofMapKey? key = some type ↔ type.mapKey = key := by
  constructor
  · intro h
    simpa using List.find?_some h
  · rintro rfl
    exact ofMapKey?_mapKey type

end FileType

/-- A path together with the type of the file it refers to. -/
structure TypedPath where
  path : VirtualPath
  type : FileType
  deriving DecidableEq, Repr

end SwiftPlan
