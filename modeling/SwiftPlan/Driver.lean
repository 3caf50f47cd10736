import SwiftPlan.Plan.Build
import SwiftPlan.ResponseFile.Expansion

/-!
# The driver

A build request is an argument list that starts with the path of the driver's executable.
`Driver.ofArguments` expands its response files and works out what is asked for, and `Driver.plan`
gives the jobs. The environment decides nothing but which executables run.
-/

namespace SwiftPlan

/-- What a request asks for. -/
inductive Request where
  | build (settings : Settings)
  | passthrough (tool : PassthroughTool)
  deriving DecidableEq, Repr

/-- The kind of driver that serves a request. -/
def Request.kind : Request → DriverKind
  | build settings => .build settings.kind
  | passthrough tool => .passthrough tool

/-- The family of the platform that a request builds for, if it names one. -/
def Request.family? : Request → Option PlatformFamily
  | build settings => some settings.target.family
  | passthrough _ => none

/-- A request that has been worked out. -/
structure Driver where
  /-- All arguments, with response files expanded. -/
  arguments : List String
  /-- The arguments that are left when the name of the driver is settled. -/
  ownArguments : List String
  request : Request
  toolchain : Toolchain
  deriving DecidableEq, Repr

namespace Driver

/-- The kind of driver. -/
def kind (driver : Driver) : DriverKind :=
  driver.request.kind

/-- The settings of a driver that plans a build. -/
def settings? (driver : Driver) : Option Settings :=
  match driver.request with
  | .build settings => some settings
  | .passthrough _ => none

/-- Works out what is asked for. -/
def requestOf (surroundings : Surroundings) (invocation : Invocation) : Diagnosed Request :=
  match invocation.kind with
  | .build kind => do
    return .build (← Settings.resolve surroundings kind invocation.arguments)
  | .passthrough tool => return .passthrough tool

/-- Reads a request. -/
def ofArguments (surroundings : Surroundings) (environment : Environment)
    (arguments : List String) : Diagnosed Driver := do
  let arguments ← ResponseFile.expand surroundings.fileSystem arguments
  let invocation ← Invocation.ofArguments arguments
  let request ← requestOf surroundings invocation
  let toolchain := ⟨request.family?, environment⟩
  return { arguments, ownArguments := invocation.arguments, request, toolchain }

/-- The directory in which the request anchors relative paths. -/
def workingDirectory (driver : Driver) : Option VirtualPath :=
  driver.settings?.bind (·.workingDirectory)

/-- The jobs of a request, where each tool is an executable of its own name. -/
def plainJobs (driver : Driver) : Diagnosed (List Job) :=
  match driver.request with
  | .build settings => Plan.ofSettings settings
  | .passthrough tool => return [Plan.passthroughJob tool driver.ownArguments]

/-- The jobs of a request. -/
def plan (driver : Driver) : Diagnosed (List Job) := do
  return (← driver.plainJobs).map (·.equip driver.toolchain)

/-- The job that would collect the debug information of an image. -/
def dsymJob (driver : Driver) (image : TypedPath) : Job :=
  (Plan.dsymJob image).equip driver.toolchain

/-- Where the product of a request goes, if it links one. -/
def productPath? (driver : Driver) : Option (Except PathError VirtualPath) := do
  let settings ← driver.settings?
  let product ← settings.goal.product?
  return Plan.productPath settings product

end Driver

end SwiftPlan
