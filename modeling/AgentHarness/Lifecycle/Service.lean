import AgentHarness.Interaction.Pool
import AgentHarness.Lifecycle.Database

/-!
The lifecycle service and its controller, over one repository.

Service calls and controller passes await the repository, the adapters and the
audit log; they interleave at every one of these points.
-/

namespace AgentHarness.Lifecycle

open Interaction

/-- Adapters are known by their names, and one without a backend is empty;
`relatedScopes` is the scope resolver. -/
structure DataLifecycle where
  adapters : List String
  distinctAdapters : adapters.Nodup
  backend : String → Option LifecycleAdapter
  relatedScopes : String → LifecycleScope → List LifecycleScope
  idGenerator : String → Nat → String

inductive LifecycleOp where
  | clock
  | generateId (kind : String)
  | resolveScopes (tenantId : String) (scope : LifecycleScope)
  | getPolicy (tenantId : String)
  | addHold (hold : LegalHold)
  | getHold (tenantId holdId : String)
  | updateHold (hold : LegalHold)
  | listHolds (tenantId : String)
  | addJob (job : DataLifecycleJob)
  | findJobByIdempotency (tenantId idempotencyKey : String)
  | getJob (tenantId jobId : String)
  | listRunnable (limit : Nat)
  | compareAndSet (expected : LifecycleJobStatus) (job : DataLifecycleJob)
  | adapterExport (adapter : String) (job : DataLifecycleJob)
  | adapterDelete (adapter : String) (job : DataLifecycleJob)
  | putExport (tenantId objectId : String)
  | record (action outcome : String)

abbrev LifecycleOp.Answer : LifecycleOp → Type
  | .clock => Int
  | .generateId _ => String
  | .resolveScopes _ _ => List LifecycleScope
  | .getPolicy _ => Option RetentionPolicy
  | .addHold _ => Unit
  | .getHold _ _ | .updateHold _ => LegalHold
  | .listHolds _ => List LegalHold
  | .addJob _ | .getJob _ _ => DataLifecycleJob
  | .findJobByIdempotency _ _ => Option DataLifecycleJob
  | .listRunnable _ => List DataLifecycleJob
  | .compareAndSet _ _ => Bool
  | .adapterExport _ _ | .adapterDelete _ _ => Nat
  | .putExport _ _ | .record _ _ => Unit

abbrev LifecycleProgram := Program LifecycleOp LifecycleOp.Answer LifecycleError

namespace LifecyclePort

open Program

abbrev clock : LifecycleProgram Int := perform .clock fun answer => answer

abbrev generateId (kind : String) : LifecycleProgram String :=
  perform (.generateId kind) fun answer => answer

variable (tenantId : String)

abbrev resolveScopes (scope : LifecycleScope) : LifecycleProgram (List LifecycleScope) :=
  perform (.resolveScopes tenantId scope) fun answer => answer

abbrev getPolicy : LifecycleProgram (Option RetentionPolicy) :=
  perform (.getPolicy tenantId) fun answer => answer

abbrev addHold (hold : LegalHold) : LifecycleProgram Unit :=
  perform (.addHold hold) fun answer => answer

abbrev getHold (holdId : String) : LifecycleProgram LegalHold :=
  perform (.getHold tenantId holdId) fun answer => answer

abbrev updateHold (hold : LegalHold) : LifecycleProgram LegalHold :=
  perform (.updateHold hold) fun answer => answer

abbrev listHolds : LifecycleProgram (List LegalHold) :=
  perform (.listHolds tenantId) fun answer => answer

abbrev addJob (job : DataLifecycleJob) : LifecycleProgram DataLifecycleJob :=
  perform (.addJob job) fun answer => answer

abbrev findJobByIdempotency (idempotencyKey : String) :
  LifecycleProgram (Option DataLifecycleJob) :=
  perform (.findJobByIdempotency tenantId idempotencyKey) fun answer => answer

abbrev getJob (jobId : String) : LifecycleProgram DataLifecycleJob :=
  perform (.getJob tenantId jobId) fun answer => answer

abbrev listRunnable (limit : Nat) : LifecycleProgram (List DataLifecycleJob) :=
  perform (.listRunnable limit) fun answer => answer

abbrev compareAndSet (expected : LifecycleJobStatus) (job : DataLifecycleJob) :
  LifecycleProgram Bool :=
  perform (.compareAndSet expected job) fun answer => answer

abbrev adapterExport (adapter : String) (job : DataLifecycleJob) : LifecycleProgram Nat :=
  perform (.adapterExport adapter job) fun answer => answer

abbrev adapterDelete (adapter : String) (job : DataLifecycleJob) : LifecycleProgram Nat :=
  perform (.adapterDelete adapter job) fun answer => answer

abbrev putExport (objectId : String) : LifecycleProgram Unit :=
  perform (.putExport tenantId objectId) fun answer => answer

abbrev record (action outcome : String) : LifecycleProgram Unit :=
  perform (.record action outcome) fun answer => answer

end LifecyclePort

def defaultPolicy (tenantId : String) : RetentionPolicy where
  tenantId
  policyId := "tenant-default"
  revision := 0
  sessionDays := 90
  artifactDays := 90
  traceDays := 30
  evalDays := 365

/-- `timedelta(days=…)`. -/
def days (count : Nat) : Int := count * 86400 * 1000000

def RetentionPolicy.cutoffs (policy : RetentionPolicy) (now : Int) : RetentionCutoffs where
  sessions := now - days policy.sessionDays
  artifacts := now - days policy.artifactDays
  traces := now - days policy.traceDays
  evals := now - days policy.evalDays

namespace DataLifecycle

open Program LifecyclePort

variable (tenantId : String)

def validateScope (scope : LifecycleScope) : LifecycleProgram Unit :=
  if scope.kind = .tenant ∧ scope.subjectId ≠ tenantId then
    raised (.conflict "tenant lifecycle scope must match authenticated tenant")
  else
    done ()

def findBlockingHold (scope : LifecycleScope) : LifecycleProgram (Option LegalHold) := do
  let related ← resolveScopes tenantId scope
  let holds ← listHolds tenantId
  return blockingHold holds related

variable (kind : LifecycleJobKind)

def heldBack (tenantId : String) (scope : LifecycleScope) : LifecycleProgram (Option LegalHold) :=
  if kind = .export then done none else findBlockingHold tenantId scope

def retentionCutoffs (tenantId : String) (now : Int) : LifecycleProgram (Option RetentionCutoffs) :=
  if kind = .retention then
    (getPolicy tenantId).bind (fun stored =>
      done (some ((stored.getD (defaultPolicy tenantId)).cutoffs now)))
  else
    done none

def createHold (userId : String) (scope : LifecycleScope) (reason : String) :
  LifecycleProgram LegalHold := do
  validateScope tenantId scope
  let holdId ← generateId "hold"
  let hold : LegalHold :=
    { tenantId, holdId, scope, reason
      createdBy := userId }
  addHold hold
  record "data.legal_hold.create" "success"
  return hold

def releaseHold (userId holdId : String) : LifecycleProgram LegalHold := do
  let current ← getHold tenantId holdId
  if current.active = false then
    return current
  else do
    let released := { current with active := false, releasedBy := some userId }
    let _ ← updateHold released
    record "data.legal_hold.release" "success"
    return released

def createJob (lifecycle : DataLifecycle) (tenantId userId : String)
  (request : CreateLifecycleJobRequest) : LifecycleProgram DataLifecycleJob :=
  if request.valid = false then
    raised (.valueError "retention jobs must use tenant scope")
  else do
    validateScope tenantId request.scope
    match ← findJobByIdempotency tenantId request.idempotencyKey with
    | some existing =>
      if existing.kind ≠ request.kind ∨ existing.scope ≠ request.scope then
        raised (.conflict "data lifecycle idempotency key was reused")
      else
        return existing
    | none => do
        let blocking ← heldBack request.kind tenantId request.scope
        match blocking with
        | some hold => do
            record "data.lifecycle_job.create" "denied"
            raised (.conflict ("legal_hold_active:" ++ hold.holdId))
        | none => do
            let now ← clock
            let cutoffs ← retentionCutoffs request.kind tenantId now
            let jobId ← generateId "lifecycle"
            let stored ← addJob
              { tenantId, jobId, kind := request.kind, scope := request.scope
                requestedBy := userId, idempotencyKey := request.idempotencyKey, status := .queued
                adapters := lifecycle.adapters.map (fun adapter =>
                  { adapter, status := .pending, attempts := 0 })
                retentionCutoffs := cutoffs, createdAt := now }
            record "data.lifecycle_job.create" "success"
            return stored

def resetAdapter (item : LifecycleAdapterResult) : LifecycleAdapterResult :=
  if kind = .export ∨ item.status = .failed then
    { item with status := .pending, errorCode := none, errorMessage := none }
  else
    item

def retryJob (jobId : String) : LifecycleProgram DataLifecycleJob := do
  let current ← getJob tenantId jobId
  if current.status ≠ .partialFailed ∧ current.status ≠ .failed then
    raised (.conflict "only failed data lifecycle jobs can be retried")
  else do
    let blocking ← heldBack current.kind tenantId current.scope
    match blocking with
    | some hold => raised (.conflict ("legal_hold_active:" ++ hold.holdId))
    | none => do
        let reset :=
          { current with
            status := .queued
            adapters := (current.adapters.filter (fun item =>
              item.adapter ≠ "export-artifact")).map (resetAdapter current.kind)
            fencingToken := current.fencingToken + 1 }
        if (← compareAndSet current.status reset) = false then
          raised (.conflict "data lifecycle job changed before retry")
        else do
          record "data.lifecycle_job.retry" "success"
          return reset

end DataLifecycle

namespace DataLifecycleController

open Program LifecyclePort

variable (job : DataLifecycleJob)

def withAdapter (replacement : LifecycleAdapterResult) : DataLifecycleJob :=
  { job with
    adapters := job.adapters.map (fun item =>
      if item.adapter = replacement.adapter then replacement else item)
    fencingToken := job.fencingToken + 1 }

def replaceAdapter (replacement : LifecycleAdapterResult) : LifecycleProgram DataLifecycleJob := do
  let updated := withAdapter job replacement
  if (← compareAndSet .running updated) = false then
    raised (.conflict "data lifecycle job fencing conflict")
  else
    return updated

def markHoldFailure (holdId : String) : LifecycleProgram DataLifecycleJob :=
  match job.adapters.find? (fun item => item.status ≠ .succeeded) with
  | none => raised .stopIteration
  | some target => replaceAdapter job
      { target with
        status := .failed, errorCode := some "LegalHoldActive"
        errorMessage := some ("Deletion is blocked by legal hold " ++ holdId ++ ".") }

def runAdapter (adapter : String) : LifecycleProgram (Except LifecycleError Nat) :=
  let call := if job.kind = .export then adapterExport adapter job
    else adapterDelete adapter job
  (call.bind fun count => done (.ok count)).catching fun error => done (.error error)

def runAdapters (lifecycle : DataLifecycle) :
    List LifecycleAdapterResult → DataLifecycleJob → LifecycleProgram DataLifecycleJob
  | [], running => done running
  | item :: rest, running =>
    if item.status = .succeeded then runAdapters lifecycle rest running
    else if lifecycle.adapters.contains item.adapter = false then raised .keyError
    else do
      let started := { item with status := .running, attempts := item.attempts + 1 }
      let running ← replaceAdapter running started
      match ← runAdapter running item.adapter with
      | .error error => do
          let running ← replaceAdapter running
            { started with
              status := .failed, errorCode := some error.typeName
              errorMessage := some "Adapter operation failed; retry is available." }
          if running.kind = .export then runAdapters lifecycle rest running
          else return running
      | .ok count => do
          let running ← replaceAdapter running
            { started with
              status := .succeeded, processedItems := count, errorCode := none
              errorMessage := none }
          runAdapters lifecycle rest running

def scopeName : LifecycleScopeKind → String
  | .tenant => "tenant"
  | .user => "user"
  | .session => "session"
  | .agent => "agent"

def storeExport : LifecycleProgram DataLifecycleJob :=
  let objectId := "lifecycle_export_" ++ job.jobId
  if job.kind ≠ .export then done job
  else ((putExport job.tenantId objectId).bind (fun _ => done
    { job with
      exportObjectId := some objectId
      exportFilename := some ("data-export-" ++ scopeName job.scope.kind ++ "-" ++
        job.scope.subjectId ++ ".zip")
      adapters := job.adapters ++
        [{ adapter := "export-artifact", status := .succeeded, attempts := 1
           processedItems := 1 }] })).catching (fun error => done
    { job with
      adapters := job.adapters ++
        [{ adapter := "export-artifact", status := .failed, attempts := 1
           errorCode := some error.typeName
           errorMessage := some "Export artifact could not be stored; retry is available." }] })

def outcome : LifecycleJobStatus :=
  if job.adapters.all (fun item => item.status ≠ .failed) then .succeeded
  else if job.adapters.any (fun item => item.status = .succeeded) then .partialFailed
  else .failed

def finish : LifecycleProgram (Option DataLifecycleJob) := do
  let job ← storeExport job
  let terminal := { job with status := outcome job, fencingToken := job.fencingToken + 1 }
  if (← compareAndSet .running terminal) = false then
    raised (.conflict "data lifecycle job changed before completion")
  else
    return some terminal

def processOnce (lifecycle : DataLifecycle) : LifecycleProgram (Option DataLifecycleJob) := do
  match ← listRunnable 1 with
  | [] => return none
  | queued :: _ => do
      let running := { queued with status := .running, fencingToken := queued.fencingToken + 1 }
      if (← compareAndSet .queued running) = false then
        return none
      else do
        let blocking ←
          DataLifecycle.heldBack running.kind running.tenantId running.scope
        match blocking with
        | some hold => do
            let marked ← markHoldFailure running hold.holdId
            finish marked
        | none => do
            let processed ← runAdapters lifecycle running.adapters running
            finish processed

end DataLifecycleController

end AgentHarness.Lifecycle
