import ScanFlow.Artifact
import ScanFlow.Json.Draft
import ScanFlow.Json.Writer
import ScanFlow.Merge.Correlate
import ScanFlow.Message.Completion
import ScanFlow.Message.EngineRequest
import ScanFlow.Settings
import ScanFlow.Store.Operation
import ScanFlow.Broker
import ScanFlow.System
import ScanFlow.Settings.Table
import ScanFlow.Json.Sorted
import ScanFlow.WorkerPool
import ScanFlow.Http.Server
import ScanFlow.Orchestrator.Process
import ScanFlow.Orchestrator.Submit
import ScanFlow.Orchestrator.Review
import ScanFlow.Blob.Directory
import ScanFlow.Proofs.Merge.Correlation
import ScanFlow.Proofs.Race.Compilation
import ScanFlow.Proofs.Race.MergeOnce
import ScanFlow.Proofs.Lifecycle.Waiting
import ScanFlow.Proofs.Recovery.Compilation
import ScanFlow.Proofs.Recovery.Analysis
import ScanFlow.Proofs.Recovery.Ended
import ScanFlow.Proofs.Recovery.Repetition
import ScanFlow.Proofs.Order.Premature
import ScanFlow.Proofs.Race.AskedOnce
import ScanFlow.Proofs.Race.Overwriting
import ScanFlow.Proofs.Record.Coverage
import ScanFlow.Proofs.Record.Replay
import ScanFlow.Proofs.Record.Stranded
import ScanFlow.Proofs.Record.Unruled
import ScanFlow.Proofs.Recovery.Findings
import ScanFlow.Proofs.Broker.Pool
import ScanFlow.Proofs.Store.Progress
import ScanFlow.Proofs.Store.Claims
import ScanFlow.Proofs.Store.Withdrawal
import ScanFlow.Proofs.Record.Stocked
import ScanFlow.Proofs.Record.Confined
import ScanFlow.Proofs.Race.Audits
import ScanFlow.Proofs.Merge.Confidence
import ScanFlow.Proofs.Message.RoundTrip
import ScanFlow.Proofs.Json.Text
import ScanFlow.Proofs.Blob.Containment
import ScanFlow.Proofs.Record.Submission
import ScanFlow.Proofs.Record.Report
import ScanFlow.Proofs.Race.Holdings
import ScanFlow.Proofs.Race.OneReport
import ScanFlow.Proofs.Text.Spelling
import ScanFlow.Proofs.Settings.Working
import ScanFlow.Proofs.Blob.Expiry
import ScanFlow.Proofs.Http.Details
