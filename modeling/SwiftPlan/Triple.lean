import SwiftPlan.ErrorReport
import SwiftPlan.Text.Affix
import SwiftPlan.Text.Case

/-!
# Target triples

A target is written `arch-vendor-system`, possibly with a version directly after the system and
an environment after a further dash. Planning asks a target for its platform family, its
architecture and its deployment version.

A version is a digit followed by digits and dots. Its first three numbers count, missing ones are
zero, and a target of the Darwin family that asks for no version in particular gets the oldest one
that its system supports.
-/

namespace SwiftPlan

/-- The families of platforms: how their objects are linked. -/
inductive PlatformFamily where
  | darwin
  | elf
  deriving DecidableEq, Repr

/-- The operating systems that can be built for. -/
inductive OperatingSystem where
  | macOS
  | iOS
  | tvOS
  | watchOS
  | linux
  | freeBSD
  | openBSD
  | android
  deriving DecidableEq, Repr

/-- A version: major, minor, patch. -/
structure Version where
  major : Nat
  minor : Nat
  patch : Nat
  deriving DecidableEq, Repr

/-- The version of a target that names none. -/
def Version.zero : Version := ⟨0, 0, 0⟩

namespace OperatingSystem

/-- The name of the system in a triple. -/
def name : OperatingSystem → String
  | macOS => "macosx"
  | iOS => "ios"
  | tvOS => "tvos"
  | watchOS => "watchos"
  | linux => "linux"
  | freeBSD => "freebsd"
  | openBSD => "openbsd"
  | android => "android"

/-- The names under which the systems are known. One of them has three. -/
def names : List (String × OperatingSystem) :=
  [("macosx", macOS), ("macos", macOS), ("darwin", macOS), ("ios", iOS), ("tvos", tvOS),
    ("watchos", watchOS), ("linux", linux), ("freebsd", freeBSD), ("openbsd", openBSD),
    ("android", android)]

/-- The system called `name`. -/
def ofName? (name : String) : Option OperatingSystem :=
  names.lookup name

@[simp] theorem ofName?_name (system : OperatingSystem) : ofName? system.name = some system := by
  cases system <;> decide

/-- The family of the system. -/
def family : OperatingSystem → PlatformFamily
  | macOS | iOS | tvOS | watchOS => .darwin
  | linux | freeBSD | openBSD | android => .elf

/-- The deployment version of a target that names none, where the system has one. -/
def defaultVersion? : OperatingSystem → Option Version
  | macOS => some ⟨10, 9, 0⟩
  | iOS => some ⟨7, 0, 0⟩
  | tvOS => some ⟨9, 0, 0⟩
  | watchOS => some ⟨2, 0, 0⟩
  | linux | freeBSD | openBSD | android => none

end OperatingSystem

namespace Version

/-- The number that a sequence of decimal digits stands for. -/
def number (digits : List Char) : Nat :=
  digits.foldl (fun n d => 10 * n + (d.toNat - '0'.toNat)) 0

/-- The version that the first three numbers of a list make. -/
def ofNumbers : List Nat → Version
  | major :: minor :: patch :: _ => ⟨major, minor, patch⟩
  | [major, minor] => ⟨major, minor, 0⟩
  | [major] => ⟨major, 0, 0⟩
  | [] => zero

/-- The version written in `text`, which consists of digits and dots. Dots that have no digit
between them count as one. -/
def ofChars (text : List Char) : Version :=
  ofNumbers (((text.splitOn '.').filter (· ≠ [])).map number)

/-- The three numbers of a version. -/
def numbers (version : Version) : List Nat :=
  [version.major, version.minor, version.patch]

/-- The three numbers with dots between them. -/
def display (version : Version) : String :=
  ".".intercalate (version.numbers.map fun n => String.ofList (Nat.toDigits 10 n))

end Version

/-- Why a target is refused. -/
inductive TargetError where
  | malformed (text : String)
  | malformedSystem (system text : String)
  | unsupported (text : String)
  | unsupportedHost (system : String)
  deriving DecidableEq, Repr

/-- How a target error is shown. -/
def TargetError.report (error : TargetError) : ErrorReport where
  reason := "unsupported-target"
  message :=
    match error with
    | malformed text => "invalid target triple '" ++ text ++ "'"
    | malformedSystem system text =>
      "invalid operating system '" ++ system ++ "' in '" ++ text ++ "'"
    | unsupported text => "unsupported target '" ++ text ++ "'"
    | unsupportedHost system => "unsupported host platform '" ++ system ++ "'"

/-- A target. -/
structure Triple where
  text : String
  arch : String
  vendor : String
  system : OperatingSystem
  version : Version
  environment : Option String
  deriving DecidableEq, Repr

namespace Triple

/-! ## Reading a triple -/

/-- The characters of a system's name. -/
def isSystemChar (c : Char) : Bool :=
  c.isLower || c == '_'

/-- The characters of a version. -/
def isVersionChar (c : Char) : Bool :=
  c.isDigit || c == '.'

/-- The third part of a triple: the name of a system and the version behind it, if it has this
shape at all. The part may end in one line feed, which does not count. -/
def splitSystem? (part : List Char) : Option (List Char × List Char) :=
  let name := part.takeWhile isSystemChar
  let version :=
    let rest := part.dropWhile isSystemChar
    if rest.getLast? = some '\n' then rest.dropLast else rest
  if name ≠ [] ∧ version.all isVersionChar ∧ version.head? ≠ some '.' then some (name, version)
  else none

/-- Reads a triple. -/
def ofText (text : String) : Except TargetError Triple :=
  match text.toList.splitOn '-' with
  | arch :: vendor :: part :: environment =>
    if arch = [] ∨ vendor = [] ∨ part = [] then .error (.malformed text)
    else
      match splitSystem? part with
      | none => .error (.malformedSystem (String.ofList part) text)
      | some (name, version) =>
        match OperatingSystem.ofName? (String.ofList name) with
        | none => .error (.unsupported text)
        | some system =>
          let asked := Version.ofChars version
          .ok {
            text
            arch := String.ofList arch
            vendor := String.ofList vendor
            system
            version := if asked = .zero then system.defaultVersion?.getD asked else asked
            environment :=
              match ['-'].intercalate environment with
              | [] => none
              | environment => some (String.ofList environment) }
  | _ => .error (.malformed text)

/-! ## What planning asks -/

/-- The family of the target's platform. -/
def family (triple : Triple) : PlatformFamily :=
  triple.system.family

/-- Whether the target belongs to the Darwin family. -/
def isDarwin (triple : Triple) : Bool :=
  triple.family == .darwin

/-- Whether what an object wants linked has to be extracted from it before the link: objects of
the ELF family cannot tell the linker themselves. -/
def needsAutolinkExtract (triple : Triple) : Bool :=
  triple.family == .elf

/-- Whether the target is a simulator. -/
def isSimulator (triple : Triple) : Bool :=
  triple.environment == some "simulator"

/-- The option by which a linker is told the deployment version. -/
def minimumVersionFlag? (triple : Triple) : Option String :=
  match triple.system with
  | .macOS => some "-macosx_version_min"
  | .iOS =>
    some (if triple.isSimulator then "-ios_simulator_version_min" else "-iphoneos_version_min")
  | .tvOS =>
    some (if triple.isSimulator then "-tvos_simulator_version_min" else "-tvos_version_min")
  | .watchOS =>
    some (if triple.isSimulator then "-watchos_simulator_version_min" else "-watchos_version_min")
  | .linux | .freeBSD | .openBSD | .android => none

/-- The extension of dynamic libraries. -/
def dynamicLibraryExtension (triple : Triple) : String :=
  match triple.family with
  | .darwin => "dylib"
  | .elf => "so"

/-- The extension of static libraries. -/
def staticLibraryExtension (_ : Triple) : String := "a"

end Triple

/-! ## The machine that the build runs on -/

/-- What is known of the machine: the names of its system and its processor, and the version of
its system where that is a Darwin. -/
structure Host where
  system : String
  machine : String
  darwinVersion : String
  deriving DecidableEq, Repr

namespace Host

/-- The architecture of the machine: its processor in lower case and under its usual name. -/
def arch (host : Host) : String :=
  let machine := Text.toLower host.machine
  if ["amd64", "x64", ""].contains machine then "x86_64" else machine

/-- The target for programs that run on the machine itself. -/
def triple (host : Host) : Except TargetError Triple :=
  if host.system = "Darwin" then
    let version := if host.darwinVersion = "" then "10.15" else host.darwinVersion
    Triple.ofText (host.arch ++ "-apple-macosx" ++ version)
  else if host.system = "Linux" then Triple.ofText (host.arch ++ "-unknown-linux-gnu")
  else if host.system = "FreeBSD" then Triple.ofText (host.arch ++ "-unknown-freebsd")
  else .error (.unsupportedHost host.system)

end Host

end SwiftPlan
