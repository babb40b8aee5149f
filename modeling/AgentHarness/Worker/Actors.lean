import AgentHarness.Application.Runs
import AgentHarness.Reliability.Controller
import AgentHarness.Storage.RunStore
import AgentHarness.Worker.Orchestrator

/-!
The worker's loop over the task queue.
-/

namespace AgentHarness

open Interaction Program Ports RunOrchestrator ApprovalService

/-- One process's view of the queue: every delivery of the Run's own task executes it. -/
structure RunWorker where
  orchestrator : RunOrchestrator := {}
  task : String

namespace RunWorker

/-- `dequeue`: the receipt of the delivery is kept by the process. -/
def takeTask : RunProgram (Option String) := do
  match ← call .dequeue with
  | none => done none
  | some (payload, receipt) =>
    (call (.rememberReceipt payload receipt)).bind fun _ => done (some payload)

variable (payload : String)

def acknowledge : RunProgram Unit := do
  let receipt ← call (.popReceipt payload)
  call (.acknowledge payload receipt)

def retry : RunProgram Unit := do
  let receipt ← call (.popReceipt payload)
  call (.retry payload receipt)

def extendLease : RunProgram Unit := do
  let receipt ← call (.readReceipt payload)
  call (.extendLease payload receipt)

variable (worker : RunWorker)

def executeTask (payload : String) : RunProgram Unit :=
  if payload = worker.task then worker.orchestrator.execute.bind fun _ => done ()
  else service .otherRun

/-- `execute_task`: requeued only when execution escapes with an infrastructure error. -/
def handleTask (payload : String) : RunProgram Unit := do
  let executed ← succeeds (worker.executeTask payload)
  -- A failed retry or acknowledgement leaves the lease to the visibility timeout.
  let _ ← succeeds (if executed then acknowledge payload else retry payload)
  done ()

/-- One round of `worker_loop`. -/
def round : RunProgram Unit := do
  match ← takeTask.catching (fun _ => done none) with
  | none => done ()
  | some payload => worker.handleTask payload

/-- The rounds of `_renew_task_lease`; a failed renewal is swallowed. -/
def renewLease (payload : String) : Nat → RunProgram Unit
  | 0 => done ()
  | rounds + 1 => do
      let _ ← succeeds (extendLease payload)
      renewLease payload rounds

end RunWorker

/-!
Everyone who acts on one Run, side by side: workers and their heartbeats, the SDK hooks
that wait inline for an approval, the API's cancellations and decisions, the reapers.
-/

open Interaction Program Ports

structure RunServices where
  orchestrator : RunOrchestrator := {}
  approvalTtl : Nat := 900
  resumesByQueue : Bool := true
  admission : Bool := false
  controller : ReliabilityController

inductive RunRequest where
  | announceQueued
  | work
  | renewLease (rounds : Nat)
  | awaitInline (toolCallId : String)
  | decide (approvalId : String) (decision : ApprovalStatus)
  | cancel
  | reapExpired (limit : Nat)
  | processOnce

namespace RunServices

variable (task : String) (services : RunServices)

def approvals : ApprovalService where
  ttl := services.approvalTtl
  queue := if services.resumesByQueue then some task else none

/-- The SDK hook of a tool call that policy hands to an approver: an interrupted wait
closes its approval. -/
def awaitInline (toolCallId : String) : RunProgram Unit := do
  let approval ← (services.approvals task).request toolCallId true
  match ← waitForDecision approval.approvalId with
  | some _ => done ()
  | none => (cancelPending approval.approvalId).bind fun _ => done ()

def serve : RunRequest → RunProgram Unit
  | .announceQueued => RunService.announceQueued { admission := services.admission, task }
  | .work => RunWorker.round { orchestrator := services.orchestrator, task }
  | .renewLease rounds => RunWorker.renewLease task rounds
  | .awaitInline toolCallId => services.awaitInline task toolCallId
  | .decide approvalId decision =>
    ((services.approvals task).decide approvalId decision).bind fun _ => done ()
  | .cancel => (RunService.cancel { admission := services.admission, task }).bind fun _ => done ()
  | .reapExpired limit => (ApprovalService.reapExpired limit).bind fun _ => done ()
  | .processOnce => services.controller.processOnce.bind fun _ => done ()

def actor (requests : List RunRequest) : RunProgram Unit :=
  each requests fun request => (services.serve task request).catching (fun _ => done ())

def executor : RunProgram Unit := services.orchestrator.execute.bind fun _ => done ()

end RunServices

/-- A Run as `create` has stored it. -/
def RunStore.created (createdAt : Nat) (inputArtifactIds : Option (List (Option String))) :
  RunStore where
  run := { status := .queued, createdAt, updatedAt := createdAt, inputArtifactIds }

def runPool (platform : RunPlatform) (createdAt : Nat)
  (inputArtifactIds : Option (List (Option String))) (services : Nat → RunServices)
  (requests : Nat → List RunRequest) : RunPool where
  state := RunStore.created createdAt inputArtifactIds
  thread actor := (services actor).actor platform.task (requests actor)

end AgentHarness
