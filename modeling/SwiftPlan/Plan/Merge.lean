import SwiftPlan.Plan.Compile

/-!
# The merge of partial modules

If each compile job writes a part of the module, one job puts the parts together.
-/

namespace SwiftPlan.Plan

/-- The job that puts the parts of a module together into the given files. -/
def mergeJob (settings : Settings) (files : ModuleFiles) (parts : List TypedPath) :
    Except PathError Job := do
  let header ← headerOption settings
  return {
    kind := .mergeModule
    tool := .plain Tool.frontendName
    commandLine :=
      [.flag "-frontend", .flag "-merge-modules", .flag "-emit-module"]
        ++ parts.map (fun part => .file part.path)
        ++ [.flag "-parse-as-library"]
        ++ targetFlags settings
        ++ header
        ++ moduleNameFlags settings
        ++ Argument.option "-o" files.output.path
        ++ Argument.option "-emit-module-doc-path" files.documentation
    inputs := parts
    outputs := [⟨files.output.path, .swiftModule⟩, ⟨files.documentation, .swiftDocumentation⟩] }

/-- The merge job of a build, if it has one. -/
def mergeJobs (settings : Settings) (compiles : List Job) : Except PathError (List Job) := do
  match settings.moduleFiles with
  | none => return []
  | some files =>
    if writesPartialModules settings then
      return [← mergeJob settings files (compiles.flatMap (·.outputsOf .swiftModule))]
    else return []

end SwiftPlan.Plan
