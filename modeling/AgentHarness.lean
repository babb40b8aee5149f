import AgentHarness.Agui.BindingRaces
import AgentHarness.Agui.VisibleRuns
import AgentHarness.Application.Decisions
import AgentHarness.Application.Publications
import AgentHarness.Application.Repeats
import AgentHarness.Auth.LostUpdates
import AgentHarness.Auth.Merging
import AgentHarness.Console.Replays
import AgentHarness.Console.Rotations
import AgentHarness.Deployments.Buckets
import AgentHarness.Deployments.Launches
import AgentHarness.Deployments.Outcomes
import AgentHarness.Deployments.Replays
import AgentHarness.Drafts.Releases
import AgentHarness.Evals.RecordedRuns
import AgentHarness.EventLog.Sequences
import AgentHarness.Governance.Broker
import AgentHarness.Knowledge.Citations
import AgentHarness.Knowledge.Synchronised
import AgentHarness.Lifecycle.Archives
import AgentHarness.Lifecycle.Retention
import AgentHarness.MemoryBank.Consent
import AgentHarness.Packages.Rejections
import AgentHarness.Policy.Precedence
import AgentHarness.Quality.RecordingRuns
import AgentHarness.Quota.Admissions
import AgentHarness.Quota.Backends
import AgentHarness.Quota.Scopes
import AgentHarness.Releases.Repeats
import AgentHarness.Runtime.GeneratedFiles
import AgentHarness.Runtime.McpAttachment
import AgentHarness.Runtime.MessageMapper
import AgentHarness.Runtime.MessageStream
import AgentHarness.Runtime.RemoteFiles
import AgentHarness.Runtime.SessionStore
import AgentHarness.Runtime.UnknownSubagent
import AgentHarness.Sandbox.DeferredRuns
import AgentHarness.Sandbox.Exclusion
import AgentHarness.Sandbox.Kubernetes
import AgentHarness.Sharing.Owners
import AgentHarness.Studio.CatalogRuns
import AgentHarness.Studio.CatalogView
import AgentHarness.Studio.NexauRoundTrips
import AgentHarness.Triggers.Agreement
import AgentHarness.Triggers.DispatchRuns
import AgentHarness.Triggers.Streaming
import AgentHarness.Triggers.TaskPages
import AgentHarness.Worker.Announcements
import AgentHarness.Worker.Fencing
import AgentHarness.Worker.Resumption
import AgentHarness.Worker.SessionExclusion
import AgentHarness.Worker.WorkspaceOutputs
