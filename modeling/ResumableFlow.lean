import ResumableFlow.Event.Parser
import ResumableFlow.Text.Blank
import ResumableFlow.Text.LetterCase
import ResumableFlow.Text.Natural
import ResumableFlow.Text.Alphanumeric
import ResumableFlow.Item.Compile
import ResumableFlow.Item.Steps
import ResumableFlow.Flow.Drive
import ResumableFlow.Flow.Summary
import ResumableFlow.Mermaid
import ResumableFlow.Stored
import ResumableFlow.Rehearsal.Sketch
import ResumableFlow.Yaml.Printer
import ResumableFlow.Console.Host
import ResumableFlow.Console.Settings
import ResumableFlow.Main
import ResumableFlow.Proofs.Compilation
import ResumableFlow.Proofs.Naming
import ResumableFlow.Proofs.Correspondences
import ResumableFlow.Proofs.Regions
import ResumableFlow.Proofs.Edges
import ResumableFlow.Proofs.Recording
import ResumableFlow.Proofs.Settling
import ResumableFlow.Proofs.Calls
import ResumableFlow.Proofs.Resuming
import ResumableFlow.Proofs.Execution
import ResumableFlow.Proofs.Moves
import ResumableFlow.Proofs.RecordedTrees
import ResumableFlow.Proofs.Relocation
import ResumableFlow.Proofs.Simulation
import ResumableFlow.Proofs.Driving
import ResumableFlow.Proofs.Stretches
import ResumableFlow.Proofs.SilentCycles
import ResumableFlow.Proofs.Shapes
import ResumableFlow.Proofs.Exits
import ResumableFlow.Proofs.Erasure
import ResumableFlow.Proofs.Invariants
import ResumableFlow.Proofs.ErasedRuns
import ResumableFlow.Proofs.Owners
import ResumableFlow.Proofs.Invocations
import ResumableFlow.Proofs.Demands
import ResumableFlow.Proofs.CallCounts
import ResumableFlow.Proofs.Handlers
import ResumableFlow.Proofs.Rows
import ResumableFlow.Proofs.Outcomes
import ResumableFlow.Proofs.Connected
import ResumableFlow.Proofs.JsonRoundTrip
import ResumableFlow.Proofs.StoredForms
import ResumableFlow.Proofs.Codecs
import ResumableFlow.Proofs.Storage
import ResumableFlow.Proofs.StoredRuns
import ResumableFlow.Proofs.SplitRuns
import ResumableFlow.Proofs.FailedRuns
import ResumableFlow.Proofs.Advancing
import ResumableFlow.Proofs.Frontiers
import ResumableFlow.Proofs.DeploymentRuns
import ResumableFlow.Proofs.AtomicStorage
import ResumableFlow.Proofs.GrantedRetries
import ResumableFlow.Proofs.Addresses
import ResumableFlow.Proofs.EventIds
import ResumableFlow.Proofs.Lookups
import ResumableFlow.Proofs.Charts
import ResumableFlow.Proofs.Spelling
import ResumableFlow.Proofs.Configurations
import ResumableFlow.Proofs.Columns
