import SwiftPlan.Cli.Run
import SwiftPlan.Cli.Usage
import SwiftPlan.Diagnosed
import SwiftPlan.Diagnostic
import SwiftPlan.Driver
import SwiftPlan.DriverError
import SwiftPlan.ErrorReport
import SwiftPlan.FileSystem
import SwiftPlan.FileType
import SwiftPlan.Invocation
import SwiftPlan.Job
import SwiftPlan.Json.Parser
import SwiftPlan.Json.Printer
import SwiftPlan.Json.Value
import SwiftPlan.LexicalPath
import SwiftPlan.Main
import SwiftPlan.Notice
import SwiftPlan.Options.Parse
import SwiftPlan.Options.Parsed
import SwiftPlan.Options.Spec
import SwiftPlan.Options.Standard
import SwiftPlan.Options.Table
import SwiftPlan.OutputFileMap
import SwiftPlan.Plan.Build
import SwiftPlan.Plan.Compile
import SwiftPlan.Plan.Frontend
import SwiftPlan.Plan.Link
import SwiftPlan.Plan.Merge
import SwiftPlan.ResponseFile.Expansion
import SwiftPlan.ResponseFile.Token
import SwiftPlan.Settings.DebugInfo
import SwiftPlan.Settings.Goal
import SwiftPlan.Settings.Module
import SwiftPlan.Settings.Resolve
import SwiftPlan.Text.Affix
import SwiftPlan.Text.Blank
import SwiftPlan.Text.Case
import SwiftPlan.Text.CaseMap
import SwiftPlan.Text.CodeSet
import SwiftPlan.Text.Digit
import SwiftPlan.Text.Identifier
import SwiftPlan.Text.Lines
import SwiftPlan.Text.Literal
import SwiftPlan.Text.Printable
import SwiftPlan.Text.ShellWord
import SwiftPlan.Toolchain
import SwiftPlan.Triple
import SwiftPlan.VirtualPath
import SwiftPlan.Proofs.Options.RoundTrip
import SwiftPlan.Proofs.Options.Composition
import SwiftPlan.Proofs.Outcome
import SwiftPlan.Proofs.Settings.Resolved
import SwiftPlan.Proofs.Plan.Jobs
import SwiftPlan.Proofs.Plan.Order
import SwiftPlan.Proofs.ResponseFile.Plain
import SwiftPlan.Proofs.ResponseFile.Reference
import SwiftPlan.Proofs.ResponseFile.Cycle
import SwiftPlan.Proofs.ResponseFile.Runs
import SwiftPlan.Proofs.ResponseFile.Written
import SwiftPlan.Proofs.Plan.Shape
import SwiftPlan.Proofs.Settings.Unnamed
import SwiftPlan.Proofs.Plan.Outputs
import SwiftPlan.Proofs.Plan.WriteOnce
import SwiftPlan.Proofs.Plan.Stems
import SwiftPlan.Proofs.Plan.Success
import SwiftPlan.Proofs.Plan.Unused
import SwiftPlan.Proofs.Plan.CommandLine
import SwiftPlan.Proofs.ResponseFile.Refusal
import SwiftPlan.Proofs.Cli.Ending
import SwiftPlan.Proofs.Options.View
import SwiftPlan.Proofs.Settings.Reworded
import SwiftPlan.Proofs.Plan.Reworded
import SwiftPlan.Proofs.Plan.Renamed
import SwiftPlan.Proofs.Plan.LinkerOptions
import SwiftPlan.Proofs.CanonicalPath
import SwiftPlan.Proofs.Plan.Provenance
import SwiftPlan.Proofs.Plan.Canonical
import SwiftPlan.Proofs.Plan.Anchored
import SwiftPlan.Proofs.Plan.Streams
import SwiftPlan.Proofs.Plan.Executables
import SwiftPlan.Proofs.Quotation
import SwiftPlan.Proofs.Rereading
import SwiftPlan.Proofs.Settings.Appended
import SwiftPlan.Proofs.Plan.DefaultOutput
import SwiftPlan.Proofs.ResponseFile.Settled
import SwiftPlan.Proofs.ResponseFile.Unreadable
import SwiftPlan.Proofs.Plan.Passthrough
import SwiftPlan.Proofs.Plan.PrimaryInputs
import SwiftPlan.Proofs.Plan.LinkCommand
import SwiftPlan.Proofs.Plan.MapEntry
import SwiftPlan.Proofs.Settings.DebugPolicy
import SwiftPlan.Proofs.Json
import SwiftPlan.Proofs.OutputFileMap
import SwiftPlan.Proofs.Triple.Grammar
import SwiftPlan.Proofs.Triple.Version
import SwiftPlan.Proofs.VirtualPath.Operations
import SwiftPlan.Proofs.Options.Lookup
