import JobSupervision.Json.Printer
import JobSupervision.Json.Reader
import JobSupervision.Digest.Sha256
import JobSupervision.Launch.Configuration
import JobSupervision.Launch.Status
import JobSupervision.Settings
import JobSupervision.Container.Retry
import JobSupervision.Container.Error
import JobSupervision.Container.Event
import JobSupervision.EventBus
import JobSupervision.Console
import JobSupervision.Metrics
import JobSupervision.Worker.Run
import JobSupervision.Container.Operations
import JobSupervision.Cluster.Scripted
import JobSupervision.Supervision.Registry
import JobSupervision.Supervision.Schedule
import JobSupervision.Supervision.Draft
import JobSupervision.Cluster.ArtifactSubmitter
import JobSupervision.Cluster.Local
import JobSupervision.Cluster.Scene
import JobSupervision.Cluster.Preparation
import JobSupervision.Launch.Setting
import JobSupervision.Main
import JobSupervision.Proofs.Container.Exchange
import JobSupervision.Proofs.Supervision.Change
import JobSupervision.Proofs.Supervision.Frame
import JobSupervision.Proofs.Supervision.Attention
import JobSupervision.Proofs.Supervision.History
import JobSupervision.Proofs.Supervision.Course
import JobSupervision.Proofs.Supervision.Submission
import JobSupervision.Proofs.Supervision.Budget
import JobSupervision.Proofs.Supervision.Books
import JobSupervision.Proofs.Supervision.Polling
import JobSupervision.Proofs.Supervision.Release
import JobSupervision.Proofs.Supervision.Record
import JobSupervision.Proofs.Supervision.Ending
import JobSupervision.Proofs.Supervision.Soundness
import JobSupervision.Proofs.Supervision.Explanation
import JobSupervision.Proofs.Supervision.Tending
import JobSupervision.Proofs.Supervision.Stranding
import JobSupervision.Proofs.Supervision.Shutdown
import JobSupervision.Proofs.Supervision.Locks
import JobSupervision.Proofs.Supervision.Chronicle
import JobSupervision.Proofs.HeapSize
import JobSupervision.Proofs.Launch.Classpath
import JobSupervision.Proofs.Launch.CommandLine
import JobSupervision.Proofs.Launch.Fidelity
import JobSupervision.Proofs.Launch.Console
import JobSupervision.Proofs.Wire
import JobSupervision.Proofs.Cluster.Handover
import JobSupervision.Proofs.EventBus
import JobSupervision.Proofs.Worker.Dependencies
import JobSupervision.Proofs.Supervision.Independence
import JobSupervision.Proofs.Container.Calls
import JobSupervision.Proofs.Container.Recovery
import JobSupervision.Proofs.Supervision.Caller
import JobSupervision.Proofs.Container.Backoff
import JobSupervision.Proofs.Worker.Placement
import JobSupervision.Proofs.Worker.Agreement
import JobSupervision.Proofs.Worker.Digest
import JobSupervision.Proofs.Cluster.Runs
import JobSupervision.Proofs.Container.Refusal
import JobSupervision.Proofs.Supervision.Perseverance
import JobSupervision.Proofs.Launch.Holding
