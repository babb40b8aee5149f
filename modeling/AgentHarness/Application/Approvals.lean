import AgentHarness.Core.Ports

/-!
Approval request and decision use cases.
-/

namespace AgentHarness

open Interaction Program Ports

structure ApprovalService where
  ttl : Nat := 900
  queue : Option String := none

namespace ApprovalService

def move (site : WriteSite) (run : Run) (status : RunStatus) : RunProgram Run :=
  advance site .approvalRunChanged run status run.errorCode none

variable (current : ApprovalRequest)

/-- `_cancel_pending`. -/
def closePending : RunProgram ApprovalRequest := do
  let cancelled := { current with status := .cancelled }
  let changed ← call (.compareAndSetApproval .pending cancelled)
  if changed then
    append (.approval .cancelled current.approvalId)
    call (.resolveWaiter current.approvalId .cancelled)
    done cancelled
  else call (.getApproval current.approvalId)

def cancelPending (approvalId : String) : RunProgram ApprovalRequest := do
  let current ← call (.getApproval approvalId)
  if current.status ≠ .pending then done current
  else
    let _ ← call (.getRun .observed)
    closePending current

def resumedElsewhere (error : Failure) : RunProgram Unit :=
  if error.isConflictError then do
    let refreshed ← call (.getRun .observed)
    if refreshed.status = .waitingApproval then raised error else done ()
  else raised error

def ensureInlineRunResumed : RunProgram Unit := do
  let run ← call (.getRun .carried)
  if run.status ≠ .waitingApproval then done ()
  else ((move .approvalResume run .running).bind fun _ => done ()).catching resumedElsewhere

variable (service : ApprovalService)

def enqueueResumedRun : RunProgram Unit :=
  match service.queue with
  | none => done ()
  | some payload => do
      let _ ← call (.getRun .observed)
      call (.enqueue payload)

def rejectExpired (run : Run) : RunProgram Unit :=
  if run.status.isTerminal ∨ run.status = .cancelling then done ()
  else do
    append (.toolResult current.toolCallId)
    if run.status = .waitingApproval then
      (move .approvalExpiry run .rejected).bind fun _ => done ()
    else done ()

def resumeOrReject (run : Run) (hasLocalWaiter : Bool) : RunProgram Unit :=
  if current.inline ∧ hasLocalWaiter then ensureInlineRunResumed else rejectExpired current run

def expire : RunProgram ApprovalRequest := do
  let expired := { current with status := .expired }
  let changed ← call (.compareAndSetApproval .pending expired)
  if changed then
    let run ← call (.getRun .carried)
    append (.approval .expired current.approvalId)
    let hasLocalWaiter ← call (.hasWaiter current.approvalId)
    resumeOrReject current run hasLocalWaiter
    call (.resolveWaiter current.approvalId .expired)
    done expired
  else call (.getApproval current.approvalId)

def decidedStatus : RunProgram ApprovalStatus :=
  if current.inline ∧ current.status = .approved then
    ensureInlineRunResumed.bind fun _ => done current.status
  else done current.status

/-- The loop of `wait_for_decision`, for as many rounds as pass before the wait is
interrupted; then there is no status. -/
def pollDecision (approvalId : String) : Nat → RunProgram (Option ApprovalStatus)
  | 0 => done none
  | rounds + 1 => do
      let current ← call (.getApproval approvalId)
      if current.status ≠ .pending then
        let status ← decidedStatus current
        done (some status)
      else
        let run ← call (.getRun .observed)
        if run.status = .cancelling ∨ run.status = .cancelled then
          let cancelled ← closePending current
          done (some cancelled.status)
        else
          let now ← call .clock
          if current.expiresAt ≤ now then
            let expired ← expire current
            done (some expired.status)
          else
            match ← call (.readWaiter approvalId) with
            | some (some status) => done (some status)
            | _ => pollDecision approvalId rounds

def waitForDecision (approvalId : String) : RunProgram (Option ApprovalStatus) := do
  match ← call (.readWaiter approvalId) with
  | none => raised (.conflict .waiterNotRegistered)
  | some _ => do
      let rounds ← call .waitIntervals
      (pollDecision approvalId rounds).ensuring (call (.dropWaiter approvalId))

/-- One approval of `reap_expired`. -/
def reapDue (approval : ApprovalRequest) : RunProgram Nat := do
  let current ← call (.getApproval approval.approvalId)
  if current.status ≠ .pending then done 0
  else
    let now ← call .clock
    if now < current.expiresAt then done 0
    else
      let result ← expire current
      done (if result.status = .expired then 1 else 0)

def reapEach : List ApprovalRequest → RunProgram Nat
  | [] => done 0
  | approval :: rest => do
      let first ← reapDue approval
      let others ← reapEach rest
      done (first + others)

def reapExpired (limit : Nat) : RunProgram Nat :=
  if limit < 1 then raised .valueError
  else do
    let now ← call .clock
    let due ← call (.listExpiredPending now limit)
    reapEach due

def adopt (existing : ApprovalRequest) (inline : Bool) : RunProgram ApprovalRequest :=
  if inline ∧ existing.status = .pending then
    (call (.registerWaiter existing.approvalId)).bind fun _ => done existing
  else done existing

def registerIf (inline : Bool) (approvalId : String) : RunProgram Unit :=
  if inline then call (.registerWaiter approvalId) else done ()

def create (toolCallId : String) (inline : Bool) : RunProgram ApprovalRequest := do
  let run ← call (.getRun .carried)
  if run.status ≠ .running then raised (.conflict .approvalNotRunning)
  else
    let now ← call .clock
    let approvalId ← call (.generateId "approval")
    let approval : ApprovalRequest :=
      { approvalId, toolCallId, status := .pending, expiresAt := now + service.ttl,
        createdAt := now, inline }
    registerIf inline approvalId
    call (.addApproval approval)
    append (.approval .pending approvalId)
    let _ ← move .approvalPause run .waitingApproval
    done approval

def request (toolCallId : String) (inline : Bool) : RunProgram ApprovalRequest := do
  match ← call (.findByToolCall toolCallId) with
  | some existing => adopt existing inline
  | none => service.create toolCallId inline

def redecide (current : ApprovalRequest) : RunProgram ApprovalRequest :=
  if current.status = .approved then
    if current.inline then ensureInlineRunResumed.bind fun _ => done current
    else service.enqueueResumedRun.bind fun _ => done current
  else done current

def approve (current : ApprovalRequest) (run : Run) : RunProgram Unit := do
  let _ ← move .approvalResume run .running
  if current.inline then done () else service.enqueueResumedRun

def toolResultUnless (inline : Bool) (toolCallId : String) : RunProgram Unit :=
  if inline then done () else append (.toolResult toolCallId)

def reject (run : Run) : RunProgram Unit := do
  toolResultUnless current.inline current.toolCallId
  let _ ← move .approvalRejection run .rejected
  done ()

def carryOut (current : ApprovalRequest) (run : Run) (decision : ApprovalStatus) :
  RunProgram Unit :=
  if decision = .approved then service.approve current run else reject current run

def decidePending (current : ApprovalRequest) (decision : ApprovalStatus) :
  RunProgram ApprovalRequest := do
  let updated := { current with status := decision }
  let changed ← call (.compareAndSetApproval .pending updated)
  if changed then
    let run ← call (.getRun .carried)
    append (.approval decision current.approvalId)
    service.carryOut current run decision
    call (.resolveWaiter current.approvalId decision)
    done updated
  else raised (.conflict .approvalChanged)

def decide (approvalId : String) (decision : ApprovalStatus) : RunProgram ApprovalRequest :=
  if decision ≠ .approved ∧ decision ≠ .rejected then
    raised (.conflict .approvalDecisionInvalid)
  else do
    let current ← call (.getApproval approvalId)
    if current.status = decision then service.redecide current
    else if current.status ≠ .pending then raised (.conflict .approvalAlreadyDecided)
    else
      let decidedAt ← call .clock
      if current.expiresAt ≤ decidedAt then
        let _ ← expire current
        raised (.conflict .approvalExpired)
      else service.decidePending current decision

end ApprovalService

end AgentHarness
