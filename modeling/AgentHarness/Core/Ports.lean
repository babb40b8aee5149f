import AgentHarness.Core.Events
import AgentHarness.Interaction.Routine
import AgentHarness.Policy.Rules

/-!
What the components of one Run ask of their ports.

Every await of the source is one operation.  The operations carry two marks that
no port sees: whether the caller goes on to write with the Run it reads, and the
place in the source a status is written from.
-/

namespace AgentHarness

open Interaction Policy

structure SandboxHandle where
  provider : String := "local"
  isolationLevel : SandboxIsolation := .workspace
  preserveRemoteWorkspace : Bool := false

structure WorkspacePolicy where
  restoreSession : Bool := true
  archiveOnComplete : Bool := true

inductive PolicyResolution where
  | engine (policy : PolicyEngine)
  | resolved (callPolicy : PolicyEngine)

/-- An event of the agent runtime.  `bindsSession` says that the payload names an SDK
session, `endsTurn` that the result is a successful `end_turn`, `stagedInputRead`
that the call reads a staged input. -/
inductive RuntimeEvent where
  | subagentStarted (taskId : String)
  | subagentCompleted (taskId : String)
  | subagentFailed (taskId : String)
  | runtimeSystem (bindsSession : Bool)
  | runtimeResult (bindsSession endsTurn : Bool)
  | toolRequest (toolCallId name : String) (arguments : ToolArguments) (stagedInputRead : Bool)
  | toolResult (toolCallId : String)
  | messageStart
  | messageDelta
  | messageCompleted
  | artifactOutput (path : String)
  | other (name : String)

def RuntimeEvent.type : RuntimeEvent → EventType
  | .subagentStarted taskId => .subagentStarted taskId
  | .subagentCompleted taskId => .subagentCompleted taskId
  | .subagentFailed taskId => .subagentFailed taskId
  | .runtimeSystem _ => .other "runtime.system"
  | .runtimeResult _ _ => .other "runtime.result"
  | .toolRequest toolCallId _ _ stagedInputRead => .toolRequest toolCallId stagedInputRead
  | .toolResult toolCallId => .toolResult toolCallId
  | .messageStart => .messageStart
  | .messageDelta => .messageDelta
  | .messageCompleted => .messageCompleted
  | .artifactOutput _ => .other "artifact.output"
  | .other name => .other name

structure RuntimeWait (α : Type) where
  polls : Nat := 0
  queued : List RuntimeEvent := []
  yields : α

structure RuntimeStream where
  events : List (RuntimeWait RuntimeEvent)
  ending : RuntimeWait (Except Outage Unit)

inductive IncidentStatus where
  | open
  | resolved
  deriving DecidableEq

structure ReliabilityIncident where
  status : IncidentStatus
  updatedAt : Nat
  recoveryOwner : Option String := none
  recoveryLeaseExpiresAt : Option Nat := none
  recoveryAttempts : Nat := 0

/-- Whether the caller only looks at the Run it reads or writes its next status from it. -/
inductive RunRead where
  | observed
  | carried

inductive WriteSite where
  | provisioning
  | reclaim
  | running
  | startCancelling
  | eventLoopCancelling
  | completionCancelling
  | completion
  | timeoutCancelling
  | timeout
  | resultErrorCancelling
  | resultError
  | unexpectedCancelling
  | unexpectedError
  | approvalPause
  | approvalResume
  | approvalRejection
  | approvalExpiry
  | cancelRequest
  | cancelCompletion
  | reaper
  deriving DecidableEq

/-- Whether the harness appends the event on its own account or passes it on from the
runtime. -/
inductive EventSource where
  | harness
  | runtime

inductive Service where
  | getSession
  | bindClaudeSessionId
  | resolveSandbox
  | resolveQuotaPlan
  | ensureRunAdmitted
  | recordRunResult
  | releaseSubject
  | revokeRun
  | loadMemory
  | stageAssets
  | prepareSandbox
  | collectSandbox
  | destroySandbox (handle : SandboxHandle)
  | fingerprintOutputs
  | readArtifact
  | uploadArtifact
  | archiveWorkspace
  | revokeCredentials
  | qualityHook
  | addReaperAction
  | callbackOfMaintenance
  | otherRun

inductive RunOp where
  | clock
  | generateId (kind : String)
  | getRun (read : RunRead)
  | compareAndSet (site : WriteSite) (expected : RunStatus) (updated : Run)
  | listStale (status : RunStatus) (updatedAtOrBefore : Nat)
  | appendEvent (source : EventSource) (event : RunEvent)
  | listEvents
  | addApproval (approval : ApprovalRequest)
  | getApproval (approvalId : String)
  | findByToolCall (toolCallId : String)
  | compareAndSetApproval (expected : ApprovalStatus) (updated : ApprovalRequest)
  | listExpiredPending (expiresAtOrBefore limit : Nat)
  | registerWaiter (approvalId : String)
  | hasWaiter (approvalId : String)
  | resolveWaiter (approvalId : String) (status : ApprovalStatus)
  | readWaiter (approvalId : String)
  | dropWaiter (approvalId : String)
  | getIncident
  | upsertIncident (incident : ReliabilityIncident)
  | tryClaimIncident (owner : String) (claimedAt leaseExpiresAt : Nat)
  | listRecoveryIncidents
  | enqueue (payload : String)
  | dequeue
  | rememberReceipt (payload : String) (receipt : Nat)
  | readReceipt (payload : String)
  | popReceipt (payload : String)
  | acknowledge (payload : String) (receipt : Option Nat)
  | retry (payload : String) (receipt : Option Nat)
  | extendLease (payload : String) (receipt : Option Nat)
  | waitIntervals
  | provision
  | resolvePolicy
  | resolveWorkspacePolicy
  | restoreLatest
  | stageForRun (inputArtifactIds : List String)
  | workspaceOutputs
  | executeRuntime
  | service (service : Service)

namespace RunOp

abbrev Answer : RunOp → Type
  | clock => Nat
  | generateId _ => String
  | getRun _ => Run
  | compareAndSet _ _ _ => Bool
  | listStale _ _ => List Run
  | appendEvent _ _ => Unit
  | listEvents => List RunEvent
  | addApproval _ => Unit
  | getApproval _ => ApprovalRequest
  | findByToolCall _ => Option ApprovalRequest
  | compareAndSetApproval _ _ => Bool
  | listExpiredPending _ _ => List ApprovalRequest
  | registerWaiter _ => Unit
  | hasWaiter _ => Bool
  | resolveWaiter _ _ => Unit
  | readWaiter _ => Option (Option ApprovalStatus)
  | dropWaiter _ => Unit
  | getIncident => Option ReliabilityIncident
  | upsertIncident _ => Unit
  | tryClaimIncident _ _ _ => Option ReliabilityIncident
  | listRecoveryIncidents => List ReliabilityIncident
  | enqueue _ => Unit
  | dequeue => Option (String × Nat)
  | rememberReceipt _ _ => Unit
  | readReceipt _ | popReceipt _ => Option Nat
  | acknowledge _ _ | retry _ _ | extendLease _ _ => Unit
  | waitIntervals => Nat
  | provision => SandboxHandle
  | resolvePolicy => PolicyResolution
  | resolveWorkspacePolicy => WorkspacePolicy
  | restoreLatest => Bool
  | stageForRun _ => Nat
  | workspaceOutputs => List (String × Bool)
  | executeRuntime => RuntimeStream
  | service _ => Unit

def isLocal : RunOp → Bool
  | clock | generateId _ | registerWaiter _ | hasWaiter _ | resolveWaiter _ _ | readWaiter _
  | dropWaiter _ | rememberReceipt _ _ | readReceipt _ | popReceipt _ | waitIntervals
  | executeRuntime => true
  | _ => false

end RunOp

abbrev RunProgram (α : Type) := Program RunOp RunOp.Answer Failure α

namespace Ports

open Program

abbrev call (op : RunOp) : RunProgram op.Answer := perform op fun answer => answer

abbrev service (service : Service) : RunProgram Unit := call (.service service)

abbrev append (type : EventType) : RunProgram Unit := call (.appendEvent .harness { type })

abbrev serviceIf (configured : Bool) (used : Service) : RunProgram Unit :=
  if configured then service used else done ()

def ensure {α : Type} (outcome : Except Failure α) : RunProgram α :=
  match outcome with
  | .ok value => done value
  | .error error => raised error

/-- Write the next status and announce it, or raise `lost` when the stored Run is no
longer the one that was read. -/
def advance (site : WriteSite) (lost : Conflict) (current : Run) (target : RunStatus)
  (errorCode announcedCode : Option ErrorCode) : RunProgram Run := do
  let status ← ensure (transition current.status target)
  let updatedAt ← call .clock
  let updated :=
    { current with status, updatedAt, errorCode, fencingToken := current.fencingToken + 1 }
  let changed ← call (.compareAndSet site current.status updated)
  if changed then
    (call (.appendEvent .harness { type := .run target, errorCode := announcedCode })).bind
      (fun _ => done updated)
  else raised (.conflict lost)

end Ports

end AgentHarness
