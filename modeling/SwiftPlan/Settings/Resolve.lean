import SwiftPlan.Options.Standard
import SwiftPlan.OutputFileMap
import SwiftPlan.Settings.Module

/-!
# Settings of a build

What the arguments of a building driver come down to. `Settings.resolveOptions` works out one
setting after another, each from the options and the settings before it. The environment has no
part in them.
-/

namespace SwiftPlan

/-- What a build request sees of the machine that it runs on. -/
structure Surroundings where
  fileSystem : FileSystem
  host : Host

/-- The module file of a build and the file with its documentation. -/
structure ModuleFiles where
  output : ModuleOutput
  documentation : VirtualPath
  deriving DecidableEq, Repr

/-- What a build is to do. -/
structure Settings where
  kind : BuildKind
  options : ParsedOptions
  workingDirectory : Option VirtualPath
  inputs : List TypedPath
  target : Triple
  outputFileMap : Option OutputFileMap
  mode : CompilerMode
  goal : BuildGoal
  debug : DebugInfo
  moduleName : String
  moduleFiles : Option ModuleFiles
  deriving DecidableEq, Repr

namespace Settings

/-- The directory in which relative paths are anchored, if one is given. Unless it is absolute it
is seen from the current directory; a dash is a name here and not a stream. -/
def workingDirectoryOf (currentDirectory : String) (parsed : ParsedOptions) :
    Except PathError (Option VirtualPath) := do
  match parsed.lastValue? ["-working-directory"] with
  | none => return none
  | some value =>
    let path ← VirtualPath.ofText value
    if path.kind = .absolute then return some path
    else return some (← VirtualPath.absolute (LexicalPath.join currentDirectory value))

/-- An input with its type. What has no known extension is left to the linker. -/
def inputOf (workingDirectory : Option VirtualPath) (text : String) :
    Except PathError TypedPath := do
  let path ← VirtualPath.ofText text
  if path.kind = .standardInput then return ⟨path, .swift⟩
  else
    let type := (path.extension?.bind FileType.ofExtension?).getD .object
    return ⟨← path.resolvedIn workingDirectory, type⟩

/-- The inputs with their types. -/
def inputsOf (workingDirectory : Option VirtualPath) (parsed : ParsedOptions) :
    Except PathError (List TypedPath) :=
  parsed.inputs.mapM (inputOf workingDirectory)

/-- The target of the build: the one that is asked for, or the machine itself. -/
def targetOf (host : Host) (parsed : ParsedOptions) : Except TargetError Triple :=
  match parsed.lastValue? ["-target"] with
  | some text => Triple.ofText text
  | none => host.triple

/-- The output-file map of the build, if one is given. -/
def outputFileMapOf (fs : FileSystem) (workingDirectory : Option VirtualPath)
    (parsed : ParsedOptions) : Diagnosed (Option OutputFileMap) := do
  match parsed.lastValue? ["-output-file-map"] with
  | none => return none
  | some value =>
    let path ← resolvePath workingDirectory value
    return some (← OutputFileMap.load fs path.display)

/-- The files of the module, if any are written. -/
def moduleFilesOf (parsed : ParsedOptions) (moduleName : String) (goal : BuildGoal)
    (level : Option DebugLevel) (workingDirectory : Option VirtualPath) :
    Diagnosed (Option ModuleFiles) := do
  match ← ModuleOutput.resolve parsed moduleName goal level workingDirectory with
  | none => return none
  | some output => return some ⟨output, ← output.documentation parsed workingDirectory⟩

/-- Works out the settings that a command line comes down to. -/
def resolveOptions (surroundings : Surroundings) (kind : BuildKind) (parsed : ParsedOptions) :
    Diagnosed Settings := do
  let workingDirectory ←
    workingDirectoryOf surroundings.fileSystem.currentDirectory parsed
  let inputs ← inputsOf workingDirectory parsed
  let target ← targetOf surroundings.host parsed
  let outputFileMap ← outputFileMapOf surroundings.fileSystem workingDirectory parsed
  let mode := kind.compilerMode parsed inputs
  let goal := kind.goal parsed
  let debug := DebugInfo.ofOptions parsed
  Diagnosed.noteAll (DebugInfo.notices parsed)
  let moduleName ← ModuleName.resolve parsed (some mode) goal inputs
  let moduleFiles ← moduleFilesOf parsed moduleName goal debug.level workingDirectory
  return {
    kind, options := parsed, workingDirectory, inputs, target, outputFileMap, mode, goal, debug,
    moduleName, moduleFiles }

/-- Works out the settings of a building driver. -/
def resolve (surroundings : Surroundings) (kind : BuildKind) (arguments : List String) :
    Diagnosed Settings := do
  resolveOptions surroundings kind (← OptionTable.standard.parse arguments)

/-- The path that a user writes as `text`, anchored in the working directory of the build. -/
def path (settings : Settings) (text : String) : Except PathError VirtualPath :=
  resolvePath settings.workingDirectory text

end Settings

end SwiftPlan
