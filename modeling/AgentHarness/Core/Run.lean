import AgentHarness.Quota.Models

/-!
The Run, its statuses and the failures that travel through the harness.

A model of one Run keeps the fields its operations read or write.  Identifiers of
the Run itself (tenant, session, run) are constant along every operation and are
left out; a store of many Runs keys this record by them.
-/

namespace AgentHarness

open Quota (QuotaResource)

inductive RunStatus where
  | queued
  | provisioning
  | running
  | waitingApproval
  | cancelling
  | cancelled
  | succeeded
  | failed
  | timedOut
  | rejected
  deriving DecidableEq

namespace RunStatus

def terminalStatuses : List RunStatus := [.cancelled, .succeeded, .failed, .timedOut, .rejected]

def isTerminal (status : RunStatus) : Bool := terminalStatuses.contains status

/-- `_ALLOWED_TRANSITIONS`; a status without an entry has no successor. -/
def allowedTransitions : RunStatus → List RunStatus
  | .queued => [.provisioning, .cancelling, .cancelled, .timedOut]
  | .provisioning => [.running, .cancelling, .failed, .timedOut]
  | .running => [.waitingApproval, .cancelling, .succeeded, .failed, .timedOut]
  | .waitingApproval => [.running, .cancelling, .rejected, .failed, .timedOut]
  | .cancelling => [.cancelled, .failed]
  | .cancelled | .succeeded | .failed | .timedOut | .rejected => []

def Allowed (current target : RunStatus) : Prop := target ∈ allowedTransitions current

instance (current target : RunStatus) : Decidable (Allowed current target) :=
  inferInstanceAs (Decidable (target ∈ allowedTransitions current))

theorem not_allowed_of_terminal {current target : RunStatus}
  (terminal : current.isTerminal = true) : ¬ Allowed current target := by
  intro allowed
  cases current with
  | queued | provisioning | running | waitingApproval | cancelling => cases terminal
  | cancelled | succeeded | failed | timedOut | rejected => cases allowed

end RunStatus

/-- The `ConflictError`s raised by the Run's own components, one for each message. -/
inductive Conflict where
  | staleWorker
  | reclaimOwnership
  | alreadyOwned (status : RunStatus)
  | approvalNotRunning
  | approvalRunChanged
  | approvalDecisionInvalid
  | approvalAlreadyDecided
  | approvalExpired
  | approvalChanged
  | approvalExists
  | waiterNotRegistered
  | cancellationRequestRaced
  | cancellationCompletionRaced
  deriving DecidableEq

/-- The message prefixes by which the executor recognises a lost Run: "stale worker
attempted to update run:", "run ownership changed while reclaiming:" and "run is
already owned or paused:". -/
def Conflict.isOwnership : Conflict → Bool
  | .staleWorker | .reclaimOwnership | .alreadyOwned _ => true
  | _ => false

/-- Exceptions that come from outside the Run's own components: repositories,
sandbox, runtime, quota and storage services. -/
inductive Outage where
  | conflict
  | quotaExceeded (resource : QuotaResource)
  | runtimeTimeout
  | runtimeResult (errorCode : String)
  | other (type : String)
  deriving DecidableEq

inductive Failure where
  | outage (outage : Outage)
  | conflict (conflict : Conflict)
  | invalidRunTransition (current target : RunStatus)
  | cancellationRequested
  | notFound
  | valueError
  | runtimeError
  deriving DecidableEq

/-- The exceptions that `except ConflictError` catches. -/
def Failure.isConflictError : Failure → Bool
  | .conflict _ | .outage .conflict | .outage (.quotaExceeded _) => true
  | _ => false

/-- `transition`: the requested status, or `InvalidRunTransitionError`. -/
def transition (current target : RunStatus) : Except Failure RunStatus :=
  if current.isTerminal ∨ ¬ RunStatus.Allowed current target then
    .error (.invalidRunTransition current target)
  else
    .ok target

theorem transition_ok {current target next : RunStatus}
  (passed : transition current target = .ok next) :
  next = target ∧ RunStatus.Allowed current target := by
  unfold transition at passed
  split at passed
  · cases passed
  rename_i valid
  have allowed := Decidable.not_not.mp fun refused => valid (.inr refused)
  exact ⟨(Except.ok.inj passed).symm, allowed⟩

inductive ErrorCode where
  | quotaExceeded (resource : QuotaResource)
  | runtimeError
  | runtimeTimeout
  | runtimeResult (errorCode : String)
  | stuckReaped (status : RunStatus)
  | parentFailed
  | parentCancelled
  | parentTimedOut
  | workspaceArchiveFailed

structure Run where
  status : RunStatus
  createdAt : Nat := 0
  updatedAt : Nat := 0
  fencingToken : Nat := 0
  errorCode : Option ErrorCode := none
  /-- `input["input_artifact_ids"]`: `none` when it is no list, an item `none`
  when that item is no string. -/
  inputArtifactIds : Option (List (Option String)) := some []

inductive ApprovalStatus where
  | pending
  | approved
  | rejected
  | expired
  | cancelled
  deriving DecidableEq

structure ApprovalRequest where
  (approvalId toolCallId : String)
  status : ApprovalStatus
  (expiresAt createdAt : Nat)
  inline : Bool := false

end AgentHarness
