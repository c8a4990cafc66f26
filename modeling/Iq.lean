import Iq.Lifecycle.LandingAuthority
import Iq.Lifecycle.CandidateEvidence
import Iq.Lifecycle.CycleNumbers
import Iq.Lifecycle.CycleLimit
import Iq.Lifecycle.LandingEvidence
import Iq.Lifecycle.ReviewReceipts
import Iq.Lifecycle.QueueProjection
import Iq.Projection.Draining
import Iq.Integrator.Rejection
import Iq.Integrator.FailingCycles
import Iq.Control.Retention
import Iq.Control.Daemon
import Iq.Replication.Harmless
import Iq.Lifecycle.BranchOrder
import Iq.Agent.Import
import Iq.Agent.Restart
import Iq.Notification.Dispatch
import Iq.Notification.Starts
import Iq.Projection.IngestedComment
import Iq.Workspace.Resumption
import Iq.Lifecycle.ActiveSources
import Iq.Lifecycle.AnswerReceipts
import Iq.Provider.GateOrder
import Iq.Agent.Conflicts
import Iq.Projection.Lookup
import Iq.Store.Preservation
import Iq.Store.SchemaText
import Iq.Migration.Effort
import Iq.Control.HostConfig
import Iq.Workspace.Generation
import Iq.Policy.Ownership
import Iq.Lifecycle.TargetMoves
import Iq.Integrator.CandidateBuilds
