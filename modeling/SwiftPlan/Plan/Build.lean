import SwiftPlan.Plan.Link
import SwiftPlan.Plan.Merge

/-!
# Build plans

A build is planned as a list of jobs in which every job comes after the ones whose files it reads:
the compilations, the merge of partial modules, the extraction of what objects want linked, the
link, and the collection of its debug information. Input that is only run, and typed commands,
take one job.

Inputs that no job reads are noted.
-/

namespace SwiftPlan.Plan

/-! ## Inputs that are not compiled -/

/-- Whether the link of a build takes inputs of a type. Objects go into every link; images take
modules on Darwin, and files that say what objects want linked elsewhere. -/
def linksType (settings : Settings) (type : FileType) : Bool :=
  match settings.goal.product? with
  | none => false
  | some product =>
    match type with
    | .object => true
    | .swiftModule => product ≠ .staticLibrary && settings.target.isDarwin
    | .autolink => product ≠ .staticLibrary && settings.target.needsAutolinkExtract
    | _ => false

/-- The inputs of a type that go into the link. -/
def linkedInputs (settings : Settings) (type : FileType) : List TypedPath :=
  if linksType settings type then settings.inputs.filter (·.type == type) else []

/-- The inputs that no job reads. -/
def unusedInputs (settings : Settings) : List TypedPath :=
  settings.inputs.filter fun input => input.type ≠ .swift && !linksType settings input.type

/-! ## Builds -/

/-- The module of the build as an input of its link. -/
def moduleOf (settings : Settings) : Option TypedPath :=
  settings.moduleFiles.map fun files => ⟨files.output.path, .swiftModule⟩

/-- Whether the debug information of the image is collected. -/
def collectsDebugInfo (settings : Settings) (product : LinkProduct) (image : VirtualPath) :
    Bool :=
  settings.debug.level.isSome && settings.target.isDarwin && product ≠ .staticLibrary
    && !image.isStream

/-- The job that extracts what objects want linked, where the platform needs it. -/
def extractJobs (settings : Settings) (objects : List TypedPath) : Except PathError (List Job) :=
  if settings.target.needsAutolinkExtract then do return [← autolinkExtractJob settings objects]
  else return []

/-- The jobs that make the product of a build from its compile jobs. -/
def linkJobs (settings : Settings) (product : LinkProduct) (compiles : List Job) :
    Except PathError (List Job) := do
  let objects := compiles.flatMap (·.outputsOf .object) ++ linkedInputs settings .object
  let extracts ← extractJobs settings objects
  let output ← productPath settings product
  let inputs : LinkInputs :=
    { objects
      module := moduleOf settings
      modules := linkedInputs settings .swiftModule
      autolinks := extracts.flatMap (·.outputs) ++ linkedInputs settings .autolink }
  let link ← linkJob settings product inputs output
  let dsyms :=
    if collectsDebugInfo settings product output then [dsymJob ⟨output, .image⟩] else []
  return extracts ++ link :: dsyms

/-- The jobs that make what is linked, if anything is. -/
def productJobs (settings : Settings) (compiles : List Job) : Except PathError (List Job) :=
  match settings.goal.product? with
  | none => return []
  | some product => linkJobs settings product compiles

/-- The jobs of a build that compiles its inputs. -/
def buildJobs (settings : Settings) : Except PathError (List Job) := do
  let compiles ← compileJobs settings
  let merges ← mergeJobs settings compiles
  let links ← productJobs settings compiles
  return compiles ++ merges ++ links

/-! ## Single jobs -/

/-- The job that runs the inputs. What stands behind the terminator is handed on. -/
def interpretJob (settings : Settings) : Except PathError Job := do
  let options ← frontendOptions settings
  let tail := settings.options.tail.getD []
  return {
    kind := .interpret
    tool := .plain Tool.frontendName
    commandLine :=
      [.flag "-frontend", .flag "-interpret"]
        ++ fileArguments settings.inputs
        ++ options
        ++ (if tail.isEmpty then [] else .flag ParsedOptions.terminator :: tail.map .flag)
    inputs := settings.inputs
    outputs := [] }

/-- The job that reads and runs commands. -/
def replJob (settings : Settings) : Except PathError Job := do
  let options ← frontendOptions settings
  return {
    kind := .repl
    tool := .plain Tool.frontendName
    commandLine := [.flag "-frontend", .flag "-repl"] ++ options
    inputs := []
    outputs := [] }

/-- The tool that a passthrough invocation runs. -/
def passthroughToolName : PassthroughTool → String
  | .autolinkExtract => Tool.autolinkExtractName
  | .indent => Tool.indentName
  | .frontend | .moduleWrap => Tool.frontendName

/-- The arguments of a passthrough invocation. Where the tool has to be named by a first argument,
it is named once. -/
def passthroughArguments (tool : PassthroughTool) (arguments : List String) : List String :=
  match tool.subcommand? with
  | none => arguments
  | some subcommand =>
    if arguments.head? = some subcommand then arguments else subcommand :: arguments

/-- The job that hands arguments to a tool. -/
def passthroughJob (tool : PassthroughTool) (arguments : List String) : Job where
  kind := .passthrough
  tool := .plain (passthroughToolName tool)
  commandLine := (passthroughArguments tool arguments).map .flag
  inputs := []
  outputs := []

/-! ## Plans -/

/-- The jobs that do what the settings say. -/
def ofSettings (settings : Settings) : Diagnosed (List Job) :=
  match settings.mode with
  | .repl => do return [← replJob settings]
  | .immediate => do return [← interpretJob settings]
  | .standard | .single =>
    if settings.inputs.isEmpty then do
      Diagnosed.note .noInputFiles
      return []
    else do
      Diagnosed.noteAll ((unusedInputs settings).map fun input => .unusedInput input.path)
      buildJobs settings

end SwiftPlan.Plan
