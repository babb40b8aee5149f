import AgentHarness.Core.Ports

/-!
The reaper of stuck Runs and the repair of its unfinished terminals.
-/

namespace AgentHarness

open Interaction Program Ports

structure ReliabilityController where
  workerId : String
  thresholds : List (RunStatus × Nat)
  quotas : Bool := false
  credentials : Bool := false

inductive ReaperOutcome where
  | reaped
  | skipped
  | failed
  deriving DecidableEq

namespace ReliabilityController

def recordAction : RunProgram Unit := do
  let _ ← call (.generateId "reaper_action")
  let _ ← call .clock
  service .addReaperAction

/-- `_open_incident` with the fingerprint "reaper-finalize" of the Run. -/
def openIncident : RunProgram Unit := do
  let _ ← call .getIncident
  let now ← call .clock
  call (.upsertIncident { status := .open, updatedAt := now })

def resolveIncident : RunProgram Unit := do
  match ← call .getIncident with
  | none => done ()
  | some current =>
    if current.status = .resolved then done ()
    else do
      let now ← call .clock
      call (.upsertIncident
        { current with
          status := .resolved, updatedAt := now, recoveryOwner := none
          recoveryLeaseExpiresAt := none })

def hasReaperTerminalEvent (existing : List RunEvent) (status : RunStatus) : Bool :=
  existing.any fun event => event.type = .run status && event.reaper

def appendTerminal (run : Run) (existing : List RunEvent) : RunProgram Unit :=
  if hasReaperTerminalEvent existing run.status then done ()
  else call (.appendEvent .harness
    { type := .run run.status, errorCode := run.errorCode, reaper := true })

variable (controller : ReliabilityController)

def finalizeRun (run : Run) : RunProgram Unit := do
  let existing ← call .listEvents
  appendTerminal run existing
  serviceIf controller.quotas .releaseSubject
  serviceIf controller.credentials .revokeRun

/-- The end of `_reap_run`, after its status write. -/
def concludeReaping (updated : Run) : RunProgram ReaperOutcome := do
  let finalized ← ((controller.finalizeRun updated).bind fun _ => done true).catching (fun _ =>
    recordAction.bind fun _ => openIncident.bind fun _ => done false)
  if finalized then recordAction.bind (fun _ => done .reaped) else done .failed

def reapRun (candidate : Run) (cutoff : Nat) : RunProgram ReaperOutcome := do
  let current ← call (.getRun .carried)
  if current.status ≠ candidate.status ∨ cutoff < current.updatedAt then
    recordAction.bind fun _ => done .skipped
  else
    let target := if current.status = .cancelling then .cancelled else .timedOut
    let status ← ensure (transition current.status target)
    let updatedAt ← call .clock
    let updated :=
      { current with
        status, updatedAt, fencingToken := current.fencingToken + 1
        errorCode := some (.stuckReaped current.status) }
    let changed ← call (.compareAndSet .reaper current.status updated)
    if changed then controller.concludeReaping updated
    else
      let _ ← call (.getRun .observed)
      recordAction
      done .skipped

def reapCandidates (controller : ReliabilityController) (cutoff : Nat) : List Run → RunProgram Nat
  | [] => done 0
  | candidate :: rest => do
      let outcome ← controller.reapRun candidate cutoff
      let others ← controller.reapCandidates cutoff rest
      done ((if outcome = .reaped then 1 else 0) + others)

def reapStatuses (controller : ReliabilityController) (now : Nat) :
    List (RunStatus × Nat) → RunProgram Nat
  | [] => done 0
  | (status, seconds) :: rest => do
      let candidates ← call (.listStale status (now - seconds))
      let reaped ← controller.reapCandidates (now - seconds) candidates
      let others ← controller.reapStatuses now rest
      done (reaped + others)

def reapStuckRuns : RunProgram Nat := do
  let now ← call .clock
  controller.reapStatuses now controller.thresholds

def keepIncident (claimed : ReliabilityIncident) : RunProgram Bool := do
  let failedAt ← call .clock
  call (.upsertIncident
    { claimed with
      updatedAt := failedAt, recoveryOwner := none, recoveryLeaseExpiresAt := some failedAt })
  recordAction
  done false

def repairClaimed (claimed : ReliabilityIncident) : RunProgram Nat := do
  let run ← call (.getRun .carried)
  if run.status.isTerminal then
    let finalized ← ((controller.finalizeRun run).bind fun _ => done true).catching
      (fun _ => keepIncident claimed)
    if finalized then
      recordAction
      resolveIncident
      done 1
    else done 0
  else resolveIncident.bind fun _ => done 0

/-- One incident of `_repair_finalize_failures`; a claim is a lease of 30 seconds. -/
def repairIncident : RunProgram Nat := do
  let claimedAt ← call .clock
  match ← call (.tryClaimIncident controller.workerId claimedAt (claimedAt + 30)) with
  | none => done 0
  | some claimed => controller.repairClaimed claimed

def repairEach (controller : ReliabilityController) : List ReliabilityIncident → RunProgram Nat
  | [] => done 0
  | _ :: rest => do
      let first ← controller.repairIncident
      let others ← controller.repairEach rest
      done (first + others)

def repairFinalizeFailures : RunProgram Nat := do
  let incidents ← call .listRecoveryIncidents
  controller.repairEach incidents

def processOnce : RunProgram Nat := do
  let repaired ← controller.repairFinalizeFailures
  let reaped ← controller.reapStuckRuns
  done (repaired + reaped)

end ReliabilityController

end AgentHarness
