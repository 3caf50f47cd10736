import SwiftPlan.Plan.Frontend

/-!
# Compile jobs

A build compiles its Swift inputs, either each by a job of its own or all of them by one job. A
job of the first kind reads all inputs and marks its own as the primary one.

Each job declares the files that it writes. Where the output-file map gives a destination it
decides; otherwise an object goes to the output of the build if it is all that is built, and to
the scratch directory if it is only linked.
-/

namespace SwiftPlan.Plan

/-- The Swift inputs of a build. -/
def swiftInputs (settings : Settings) : List TypedPath :=
  settings.inputs.filter (·.type == .swift)

/-- What one compile job compiles: all inputs, or the one at an index. -/
inductive CompileUnit where
  | whole
  | primary (source : TypedPath) (index : Nat)
  deriving DecidableEq, Repr

/-- The units of a build. -/
def compileUnits (settings : Settings) : List CompileUnit :=
  let inputs := swiftInputs settings
  if inputs.isEmpty then []
  else if settings.mode = .single then [.whole]
  else inputs.zipIdx.map fun (source, index) => .primary source index

/-- Whether each compile job writes a part of the module, to be put together later. -/
def writesPartialModules (settings : Settings) : Bool :=
  settings.moduleFiles.isSome && decide (1 < (compileUnits settings).length)

namespace CompileUnit

/-- The input that the output-file map is asked about. -/
def mapInput : CompileUnit → String
  | whole => OutputFileMap.wholeBuild
  | primary source _ => source.path.display

/-- The name from which the names of outputs are made. -/
def stem (settings : Settings) : CompileUnit → String
  | whole => settings.moduleName
  | primary source _ =>
    if source.path.kind = .standardInput then settings.moduleName else source.path.stem

/-- Whether the output of the unit is the only one of its kind. -/
def isOnly (settings : Settings) : CompileUnit → Bool
  | whole => true
  | primary _ _ => (swiftInputs settings).length == 1

/-- The destination that the output-file map gives. -/
def mapped? (settings : Settings) (unit : CompileUnit) (type : FileType) : Option VirtualPath :=
  settings.outputFileMap.bind fun map => map.find? unit.mapInput type

/-- The destination that the output-file map gives, or else the one that is worked out. -/
def mappedOr (settings : Settings) (unit : CompileUnit) (type : FileType)
    (other : Except PathError VirtualPath) : Except PathError VirtualPath :=
  match unit.mapped? settings type with
  | some path => .ok path
  | none => other

/-- A file in the scratch directory that is named after the unit. -/
def scratchFile (settings : Settings) (unit : CompileUnit) (type : FileType) :
    Except PathError VirtualPath :=
  VirtualPath.temporary (unit.stem settings ++ "." ++ type.extension)

/-- Where the object goes if the output-file map says nothing. -/
def objectPath (settings : Settings) (unit : CompileUnit) : Except PathError VirtualPath :=
  if settings.goal.product?.isSome then unit.scratchFile settings .object
  else
    match (settings.options.lastValue? ["-o"]).filter fun _ => unit.isOnly settings with
    | some output => if output = "-" then .ok .standardOutput else settings.path output
    | none => do
      let name := unit.stem settings ++ "." ++ FileType.object.extension
      (← VirtualPath.relative name).resolvedIn settings.workingDirectory

end CompileUnit

/-- What a compile job can write. -/
inductive CompileOutput where
  | object
  | module
  | documentation
  | dependencies
  | swiftDependencies
  deriving DecidableEq, Repr

namespace CompileOutput

/-- The type of the file. -/
def type : CompileOutput → FileType
  | object => .object
  | module => .swiftModule
  | documentation => .swiftDocumentation
  | dependencies => .dependencies
  | swiftDependencies => .swiftDependencies

/-- The option that tells the compiler where the file goes. -/
def flag : CompileOutput → String
  | object => "-o"
  | module => "-emit-module-path"
  | documentation => "-emit-module-doc-path"
  | dependencies => "-emit-dependencies-path"
  | swiftDependencies => "-emit-reference-dependencies-path"

end CompileOutput

/-- A file that a compile job writes. -/
abbrev CompileFile := CompileOutput × VirtualPath

namespace CompileUnit

/-- The object, if objects are built. -/
def objectFiles (settings : Settings) (unit : CompileUnit) :
    Except PathError (List CompileFile) := do
  if settings.goal.compilerOutput? = some .object then
    return [(.object, ← unit.mappedOr settings .object (unit.objectPath settings))]
  else return []

/-- The module and its documentation, if a module is built: parts of them if they are to be put
together later, and otherwise the files of the build. -/
def moduleFiles (settings : Settings) (unit : CompileUnit) :
    Except PathError (List CompileFile) := do
  match settings.moduleFiles with
  | none => return []
  | some files =>
    if writesPartialModules settings then
      let part (type : FileType) := unit.mappedOr settings type (unit.scratchFile settings type)
      let module ← part .swiftModule
      let documentation ← part .swiftDocumentation
      return [(.module, module), (.documentation, documentation)]
    else return [(.module, files.output.path), (.documentation, files.documentation)]

/-- The list of files that the unit was compiled from, if it is asked for. It goes beside the
first output, unless that is a stream. -/
def dependencyFiles (settings : Settings) (unit : CompileUnit) (others : List CompileFile) :
    Except PathError (List CompileFile) := do
  if settings.options.contains "-emit-dependencies" then
    let beside :=
      match others.head?.filter fun file => !file.2.isStream with
      | some (_, path) => path.withExtension FileType.dependencies.extension
      | none => unit.scratchFile settings .dependencies
    return [(.dependencies, ← unit.mappedOr settings .dependencies beside)]
  else return []

/-- What the compiler found that its inputs provide and need, if the output-file map has a place
for it. -/
def swiftDependencyFiles (settings : Settings) (unit : CompileUnit) : List CompileFile :=
  ((unit.mapped? settings .swiftDependencies).map fun path => (.swiftDependencies, path)).toList

/-- The files that the job of the unit writes. -/
def files (settings : Settings) (unit : CompileUnit) : Except PathError (List CompileFile) := do
  let object ← unit.objectFiles settings
  let module ← unit.moduleFiles settings
  let dependencies ← unit.dependencyFiles settings (object ++ module)
  return object ++ module ++ dependencies ++ unit.swiftDependencyFiles settings

/-- Whether an input of the build is the one that the unit compiles. -/
def marks (unit : CompileUnit) (index : Nat) : Bool :=
  match unit with
  | whole => false
  | primary _ own => own == index

/-- The inputs of the build on the command line of the unit. -/
def inputArguments (settings : Settings) (unit : CompileUnit) : List Argument :=
  (swiftInputs settings).zipIdx.flatMap fun (input, index) =>
    (if unit.marks index then [.flag "-primary-file"] else []) ++ [.file input.path]

end CompileUnit

/-- What the compiler is to do. -/
def compileAction (goal : BuildGoal) : String :=
  match goal with
  | .link _ | .objects => "-c"
  | .module => "-emit-module"
  | .noFiles => "-typecheck"

/-- The job that compiles a unit. -/
def compileJob (settings : Settings) (unit : CompileUnit) : Except PathError Job := do
  let files ← unit.files settings
  let options ← frontendOptions settings
  return {
    kind := .compile
    tool := .plain Tool.frontendName
    commandLine :=
      [.flag "-frontend", .flag (compileAction settings.goal)]
        ++ unit.inputArguments settings
        ++ options
        ++ files.flatMap fun (output, path) => Argument.option output.flag path
    inputs := swiftInputs settings
    outputs := files.map fun (output, path) => ⟨path, output.type⟩ }

/-- The compile jobs of a build. -/
def compileJobs (settings : Settings) : Except PathError (List Job) :=
  (compileUnits settings).mapM (compileJob settings)

end SwiftPlan.Plan
