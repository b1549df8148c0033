import ContainerTasks.Main
import ContainerTasks.Proofs.Graph.StartOrder
import ContainerTasks.Proofs.Graph.TaskOrder
import ContainerTasks.Proofs.Graph.DagHistory
import ContainerTasks.Proofs.Progress.EventProtocol
import ContainerTasks.Proofs.Progress.SessionText
import ContainerTasks.Proofs.Progress.Bookkeeping
import ContainerTasks.Proofs.Progress.Interruption
import ContainerTasks.Proofs.Progress.Payload
import ContainerTasks.Proofs.Progress.Headers
import ContainerTasks.Proofs.Progress.StepOrder
import ContainerTasks.Proofs.Progress.Separation
import ContainerTasks.Proofs.Project.Acceptance
import ContainerTasks.Proofs.History
import ContainerTasks.Proofs.Run.Phases
import ContainerTasks.Proofs.Run.Trace
import ContainerTasks.Proofs.Run.Cleanup
import ContainerTasks.Proofs.Run.Misconfiguration
import ContainerTasks.Proofs.Daemon.Conversation
import ContainerTasks.Proofs.Daemon.Removal
import ContainerTasks.Proofs.Daemon.Builders
import ContainerTasks.Proofs.Daemon.BuildEvents
import ContainerTasks.Proofs.Run.ImagePool
import ContainerTasks.Proofs.Run.Preparing
import ContainerTasks.Proofs.Run.StartRequests
import ContainerTasks.Proofs.Run.TaskTrace
import ContainerTasks.Proofs.Run.Succession
import ContainerTasks.Proofs.Run.ContainerNames
import ContainerTasks.Proofs.Text.Lowercase
import ContainerTasks.Proofs.Run.ImageTags
import ContainerTasks.Proofs.Run.Cancellation
import ContainerTasks.Proofs.Program.Status
import ContainerTasks.Proofs.Progress.Completions
import ContainerTasks.Proofs.Progress.Sealing
import ContainerTasks.Proofs.Progress.Details
import ContainerTasks.Proofs.Progress.Downloads
import ContainerTasks.Proofs.Progress.UnknownFields
import ContainerTasks.Proofs.Progress.DeclaredFirst
import ContainerTasks.Proofs.Progress.Offsets
import ContainerTasks.Proofs.Progress.Attribution
import ContainerTasks.Proofs.Graph.Errors
import ContainerTasks.Proofs.Graph.EdgeOrder
import ContainerTasks.Proofs.Run.Parallelism
import ContainerTasks.Proofs.Progress.Framing
import ContainerTasks.Proofs.Project.OverrideTexts
import ContainerTasks.Proofs.Run.Forwarding
import ContainerTasks.Proofs.Shell.Quoting
import ContainerTasks.Proofs.Daemon.BuildParameters
import ContainerTasks.Proofs.Project.Validation
import ContainerTasks.Proofs.Progress.Malformed
import ContainerTasks.Proofs.Settings.Layers
import ContainerTasks.Proofs.Progress.Lockstep
