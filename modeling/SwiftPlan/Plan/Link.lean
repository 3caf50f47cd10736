import SwiftPlan.Plan.Compile

/-!
# Link jobs

Executables and dynamic libraries are linked, static libraries are archived. On Darwin the linker
is called directly and is told the architecture and the deployment version; modules are handed to
it for their debug information. Elsewhere the compiler driver `clang` links, and reads what the
objects want linked from response files. Archivers get the objects and nothing else: the options
for the linker do not reach them.
-/

namespace SwiftPlan.Plan

/-- What goes into a link. -/
structure LinkInputs where
  objects : List TypedPath
  /-- The module of the build, which a linker is told if debug information is full. -/
  module : Option TypedPath
  /-- Modules among the inputs. -/
  modules : List TypedPath
  /-- Files that say what objects want linked. -/
  autolinks : List TypedPath
  deriving DecidableEq, Repr

/-- The name of a product that has no other one. -/
def defaultProductName (settings : Settings) (product : LinkProduct) : String :=
  let name := settings.moduleName
  match product with
  | .executable => name
  | .dynamicLibrary => "lib" ++ name ++ "." ++ settings.target.dynamicLibraryExtension
  | .staticLibrary => "lib" ++ name ++ "." ++ settings.target.staticLibraryExtension

/-- Where the product of a link goes. -/
def productPath (settings : Settings) (product : LinkProduct) : Except PathError VirtualPath :=
  match settings.options.lastValue? ["-o"] with
  | some output => if output = "-" then .ok .standardOutput else settings.path output
  | none => do
    (← VirtualPath.relative (defaultProductName settings product)).resolvedIn
      settings.workingDirectory

/-- What the linker is told of an element of the command line. An argument for the linker is
wrapped where the linker is not called directly. -/
def linkerArguments (settings : Settings) (parsed : ParsedOption) :
    Except PathError (List Argument) :=
  match parsed.identity? with
  | none => return []
  | some identity =>
    if identity = "-L" then do return Argument.option "-L" (← settings.path parsed.value)
    else if identity = "-l" then return [.flag ("-l" ++ parsed.value)]
    else if identity = "-Xlinker" then
      match settings.target.family with
      | .darwin => return [.flag parsed.value]
      | .elf => return [.flag "-Xlinker", .flag parsed.value]
    else return []

/-- The options that are handed on to the linker, in order. -/
def linkerOptions (settings : Settings) : Except PathError (List Argument) := do
  return (← settings.options.options.mapM (linkerArguments settings)).flatten

/-- Files as arguments. -/
def fileArguments (files : List TypedPath) : List Argument :=
  files.map fun file => .file file.path

/-- The modules that a Darwin linker is told: that of the build if debug information is full, and
those among the inputs. -/
def linkedModules (settings : Settings) (inputs : LinkInputs) : List TypedPath :=
  (if settings.debug.level = some .astTypes then inputs.module.toList else []) ++ inputs.modules

/-- The architecture and the deployment version for a Darwin linker. -/
def deploymentFlags (target : Triple) : List Argument :=
  [.flag "-arch", .flag target.arch] ++
    match target.minimumVersionFlag? with
    | none => []
    | some flag => [.flag flag, .flag target.version.display]

/-- The link on Darwin. -/
def darwinLinkJob (settings : Settings) (product : LinkProduct) (inputs : LinkInputs)
    (output : VirtualPath) : Except PathError Job := do
  let modules := linkedModules settings inputs
  let options ← linkerOptions settings
  return {
    kind := .link
    tool := .plain (Tool.linkerName .darwin)
    commandLine :=
      (if product = .dynamicLibrary then [.flag "-dylib"] else [])
        ++ fileArguments inputs.objects
        ++ modules.flatMap (fun module => Argument.option "-add_ast_path" module.path)
        ++ options
        ++ deploymentFlags settings.target
        ++ Argument.option "-o" output
    inputs := inputs.objects ++ modules
    outputs := [⟨output, .image⟩] }

/-- The link elsewhere. -/
def elfLinkJob (settings : Settings) (product : LinkProduct) (inputs : LinkInputs)
    (output : VirtualPath) : Except PathError Job := do
  let options ← linkerOptions settings
  return {
    kind := .link
    tool := .plain (Tool.linkerName .elf)
    commandLine :=
      fileArguments inputs.objects
        ++ inputs.autolinks.map (fun file => .path file.path "@")
        ++ (if product = .dynamicLibrary then [.flag "-shared"] else [])
        ++ targetFlags settings
        ++ options
        ++ Argument.option "-o" output
    inputs := inputs.objects ++ inputs.autolinks
    outputs := [⟨output, .image⟩] }

/-- The command of an archiver. On ELF platforms `crs` asks it to insert the objects, to create the
archive and to write an index. -/
def archiveCommand (family : PlatformFamily) (objects : List TypedPath) (output : VirtualPath) :
    List Argument :=
  match family with
  | .darwin => .flag "-static" :: fileArguments objects ++ Argument.option "-o" output
  | .elf => .flag "crs" :: .file output :: fileArguments objects

/-- The job that makes a static library. -/
def archiveJob (settings : Settings) (inputs : LinkInputs) (output : VirtualPath) : Job where
  kind := .link
  tool := .plain (Tool.archiverName settings.target.family)
  commandLine := archiveCommand settings.target.family inputs.objects output
  inputs := inputs.objects
  outputs := [⟨output, .image⟩]

/-- The link job of a build, whose product goes to `output`. -/
def linkJob (settings : Settings) (product : LinkProduct) (inputs : LinkInputs)
    (output : VirtualPath) : Except PathError Job :=
  match product, settings.target.family with
  | .staticLibrary, _ => return archiveJob settings inputs output
  | _, .darwin => darwinLinkJob settings product inputs output
  | _, .elf => elfLinkJob settings product inputs output

/-- The job that extracts what objects want linked. -/
def autolinkExtractJob (settings : Settings) (objects : List TypedPath) :
    Except PathError Job := do
  let output ←
    VirtualPath.temporary (settings.moduleName ++ "." ++ FileType.autolink.extension)
  return {
    kind := .autolinkExtract
    tool := .plain Tool.autolinkExtractName
    commandLine := fileArguments objects ++ Argument.option "-o" output
    inputs := objects
    outputs := [⟨output, .autolink⟩] }

/-- The job that collects the debug information of a linked image. -/
def dsymJob (image : TypedPath) : Job :=
  let bundle : VirtualPath :=
    ⟨image.path.kind, image.path.name ++ "." ++ FileType.dSYM.extension⟩
  { kind := .generateDSYM
    tool := .plain Tool.dsymutilName
    commandLine := .file image.path :: Argument.option "-o" bundle
    inputs := [image]
    outputs := [⟨bundle, .dSYM⟩] }

end SwiftPlan.Plan
