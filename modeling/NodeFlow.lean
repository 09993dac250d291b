import NodeFlow.LogLine
import NodeFlow.Main
import NodeFlow.Proofs.Run.ExecWalks
import NodeFlow.Proofs.Run.Recursion
import NodeFlow.Proofs.Session.Invariant
import NodeFlow.Proofs.Snapshot.RoundTrip
import NodeFlow.Proofs.Run.Moments
import NodeFlow.Proofs.Run.Budget
import NodeFlow.Proofs.Coverage
import NodeFlow.Proofs.Session.Client
import NodeFlow.Proofs.Session.Identifiers
import NodeFlow.Proofs.Session.Parts
import NodeFlow.Proofs.Evaluation.Outputs
import NodeFlow.Proofs.Session.Typing
import NodeFlow.Proofs.Snapshot.Keys
import NodeFlow.Proofs.Session.Saving
import NodeFlow.Proofs.Run.Journey
import NodeFlow.Proofs.Run.Dataflow
import NodeFlow.Proofs.Run.Arrangement
import NodeFlow.Proofs.Run.Repetition
import NodeFlow.Proofs.Session.References
import NodeFlow.Proofs.Snapshot.Faults
import NodeFlow.Proofs.Graph.Removal
import NodeFlow.Proofs.Graph.Reference
import NodeFlow.Proofs.Run.Projection
import NodeFlow.Proofs.Session.Drawing
import NodeFlow.Proofs.Binary64.Nearest
import NodeFlow.Proofs.Number.Grammar
import NodeFlow.Proofs.Number.Reading
import NodeFlow.Proofs.Number.Rendering
import NodeFlow.Proofs.Value.Logged
import NodeFlow.Proofs.Graph.Connected
import NodeFlow.Proofs.Snapshot.Prefix
import NodeFlow.Proofs.Snapshot.EdgeIds
import NodeFlow.Proofs.Evaluation.Failure
import NodeFlow.Proofs.Graph.Writing
import NodeFlow.Proofs.Session.Savable
import NodeFlow.Proofs.Graph.Batch
import NodeFlow.Proofs.Session.Undoing
import NodeFlow.Proofs.Session.DeadNodes
import NodeFlow.Proofs.Graph.Grouping
import NodeFlow.Proofs.Snapshot.Files
import NodeFlow.Proofs.Value.Structural
