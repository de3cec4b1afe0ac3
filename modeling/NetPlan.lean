import NetPlan.Version
import NetPlan.Model.Roster
import NetPlan.Plan.Captured
import NetPlan.Plan.Storage
import NetPlan.Plan.Summary
import NetPlan.Proofs.Plan.History
import NetPlan.Proofs.Plan.Reachable
import NetPlan.Proofs.Archive.Rewriting
import NetPlan.Proofs.Archive.Acceptance
import NetPlan.Proofs.Declaration.Refusal
import NetPlan.Proofs.Declaration.Numeral
import NetPlan.Proofs.Plan.Failure
import NetPlan.Proofs.Plan.Loading
import NetPlan.Proofs.Plan.Structure
import NetPlan.Proofs.Plan.Unfinished
import NetPlan.Proofs.Text.Blank
import NetPlan.Proofs.Text.Digit
import NetPlan.Proofs.Declaration.Writing
import NetPlan.Proofs.Model.Basic
import NetPlan.Proofs.Model.Registration
import NetPlan.Proofs.Model.Trace
import NetPlan.Proofs.Model.Operator
import NetPlan.Proofs.Capture.Record
import NetPlan.Proofs.Capture.Node
import NetPlan.Proofs.Capture.Configuration
import NetPlan.Proofs.Listing.Naming
import NetPlan.Proofs.Model.Path
import NetPlan.Proofs.Model.WellFormed
import NetPlan.Proofs.Capture.Log
import NetPlan.Proofs.Capture.Sharing
import NetPlan.Proofs.Capture.Draft
import NetPlan.Proofs.Capture.Faithful
import NetPlan.Proofs.Plan.Routing
import NetPlan.Proofs.Declaration.Chain
import NetPlan.Proofs.Plan.Spelling
import NetPlan.Proofs.Declaration.Label
import NetPlan.Proofs.Plan.Tags
import NetPlan.Proofs.Plan.Extension
import NetPlan.Proofs.Sheet.Line
import NetPlan.Proofs.Plan.Sheet
import NetPlan.Proofs.Declaration.Range
import NetPlan.Proofs.Plan.Range
import NetPlan.Proofs.Declaration.Renaming
import NetPlan.Proofs.Plan.Renaming
import NetPlan.Proofs.Archive.Size
import NetPlan.Proofs.Archive.Interruption
import NetPlan.Proofs.Sheet.Quoting
import NetPlan.Proofs.Sheet.Joining
import NetPlan.Proofs.Sheet.Grammar
import NetPlan.Proofs.Declaration.Grammar
import NetPlan.Proofs.Model.Walk
import NetPlan.Proofs.Capture.Chain
import NetPlan.Proofs.Capture.Grounded
import NetPlan.Proofs.Declaration.Checks
