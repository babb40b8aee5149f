import AgentHarness.Collections.Dict
import Mathlib.Data.List.Sort

/-!
Retention policies, legal holds and data lifecycle jobs.

Instants are integers, in microseconds; the bookkeeping times that no operation
reads are left out.
-/

namespace AgentHarness.Lifecycle

open Collections Dict List

inductive LifecycleScopeKind where
  | tenant
  | user
  | session
  | agent
  deriving DecidableEq

inductive LifecycleJobKind where
  | «export»
  | delete
  | retention
  deriving DecidableEq

inductive LifecycleJobStatus where
  | queued
  | running
  | succeeded
  | partialFailed
  | failed
  deriving DecidableEq

inductive LifecycleAdapterStatus where
  | pending
  | running
  | succeeded
  | failed
  | skipped
  deriving DecidableEq

structure LifecycleScope where
  kind : LifecycleScopeKind
  subjectId : String
  deriving DecidableEq

structure RetentionPolicy where
  (tenantId policyId : String)
  revision : Int
  (sessionDays artifactDays traceDays evalDays : Nat)

structure LegalHold where
  (tenantId holdId : String)
  scope : LifecycleScope
  reason : String
  active : Bool := true
  createdBy : String
  releasedBy : Option String := none

structure LifecycleAdapterResult where
  adapter : String
  status : LifecycleAdapterStatus
  attempts : Nat
  processedItems : Nat := 0
  errorCode : Option String := none
  errorMessage : Option String := none

structure RetentionCutoffs where
  (sessions artifacts traces evals : Int)

structure DataLifecycleJob where
  (tenantId jobId : String)
  kind : LifecycleJobKind
  scope : LifecycleScope
  (requestedBy idempotencyKey : String)
  status : LifecycleJobStatus
  fencingToken : Nat := 0
  adapters : List LifecycleAdapterResult
  retentionCutoffs : Option RetentionCutoffs := none
  exportObjectId : Option String := none
  exportFilename : Option String := none
  createdAt : Int

structure CreateLifecycleJobRequest where
  kind : LifecycleJobKind
  scope : LifecycleScope
  idempotencyKey : String

/-- `retention_is_tenant_scoped`. -/
def CreateLifecycleJobRequest.valid (request : CreateLifecycleJobRequest) : Bool :=
  request.kind ≠ .retention || request.scope.kind = .tenant

def scopesOverlap (left right : LifecycleScope) : Bool :=
  left.kind = .tenant || right.kind = .tenant ||
    (left.kind = right.kind && left.subjectId = right.subjectId)

def LegalHold.blocks (hold : LegalHold) (related : List LifecycleScope) : Bool :=
  hold.active && related.any (scopesOverlap hold.scope)

/-- `_blocking_hold`: the first hold of the list that blocks. -/
def blockingHold (holds : List LegalHold) (related : List LifecycleScope) : Option LegalHold :=
  holds.find? fun hold => hold.blocks related

inductive LifecycleError where
  | conflict (message : String)
  | notFound (message : String)
  | valueError (message : String)
  | keyError
  | stopIteration
  | outage (type : String)

/-- `type(error).__name__`. -/
def LifecycleError.typeName : LifecycleError → String
  | .conflict _ => "ConflictError"
  | .notFound _ => "NotFoundError"
  | .valueError _ => "ValueError"
  | .keyError => "KeyError"
  | .stopIteration => "RuntimeError"
  | .outage type => type

open Collections

structure InMemoryDataLifecycleRepository where
  policies : Dict (String × String) RetentionPolicy := Dict.empty
  holds : Dict (String × String) LegalHold := Dict.empty
  jobs : Dict (String × String) DataLifecycleJob := Dict.empty
  idempotency : Dict (String × String) String := Dict.empty

namespace InMemoryDataLifecycleRepository

def getPolicy (repository : InMemoryDataLifecycleRepository) (tenantId : String) :
  Option RetentionPolicy :=
  repository.policies.get? (tenantId, "tenant-default")

def addHold (repository : InMemoryDataLifecycleRepository) (hold : LegalHold) :
  Except LifecycleError Unit × InMemoryDataLifecycleRepository :=
  let key := (hold.tenantId, hold.holdId)
  match repository.holds.get? key with
  | some _ => (.error (.conflict ("legal hold already exists: " ++ hold.holdId)), repository)
  | none => (.ok (), { repository with holds := repository.holds.set key hold })

def getHold (repository : InMemoryDataLifecycleRepository) (tenantId holdId : String) :
  Except LifecycleError LegalHold :=
  match repository.holds.get? (tenantId, holdId) with
  | none => .error (.notFound ("legal hold not found: " ++ holdId))
  | some hold => .ok hold

def updateHold (repository : InMemoryDataLifecycleRepository) (hold : LegalHold) :
  Except LifecycleError LegalHold × InMemoryDataLifecycleRepository :=
  let key := (hold.tenantId, hold.holdId)
  match repository.holds.get? key with
  | none => (.error (.notFound ("legal hold not found: " ++ hold.holdId)), repository)
  | some _ => (.ok hold, { repository with holds := repository.holds.set key hold })

def listHolds (repository : InMemoryDataLifecycleRepository) (tenantId : String) : List LegalHold :=
  (repository.holds.entries.filter fun entry => entry.1.1 = tenantId).map Prod.snd

def addJob (repository : InMemoryDataLifecycleRepository) (job : DataLifecycleJob) :
  Except LifecycleError DataLifecycleJob × InMemoryDataLifecycleRepository :=
  let idempotency := (job.tenantId, job.idempotencyKey)
  match repository.idempotency.get? idempotency with
  | some existingId =>
    match repository.jobs.get? (job.tenantId, existingId) with
    | none => (.error .keyError, repository)
    | some existing => (.ok existing, repository)
  | none =>
    (.ok job,
      { repository with
        jobs := repository.jobs.set (job.tenantId, job.jobId) job
        idempotency := repository.idempotency.set idempotency job.jobId })

def findJobByIdempotency (repository : InMemoryDataLifecycleRepository)
  (tenantId idempotencyKey : String) : Option DataLifecycleJob :=
  match repository.idempotency.get? (tenantId, idempotencyKey) with
  | none => none
  | some jobId => repository.jobs.get? (tenantId, jobId)

def getJob (repository : InMemoryDataLifecycleRepository) (tenantId jobId : String) :
  Except LifecycleError DataLifecycleJob :=
  match repository.jobs.get? (tenantId, jobId) with
  | none => .error (.notFound ("data lifecycle job not found: " ++ jobId))
  | some job => .ok job

def listRunnable (repository : InMemoryDataLifecycleRepository) (limit : Nat) :
  List DataLifecycleJob :=
  ((repository.jobs.values.filter fun job => job.status = .queued).insertionSort
    fun left right => left.createdAt ≤ right.createdAt).take limit

def compareAndSet (repository : InMemoryDataLifecycleRepository)
  (expected : LifecycleJobStatus) (job : DataLifecycleJob) :
  Bool × InMemoryDataLifecycleRepository :=
  let key := (job.tenantId, job.jobId)
  match repository.jobs.get? key with
  | none => (false, repository)
  | some current =>
    if current.status ≠ expected ∨ current.fencingToken + 1 ≠ job.fencingToken then
      (false, repository)
    else
      (true, { repository with jobs := repository.jobs.set key job })

variable {repository : InMemoryDataLifecycleRepository} {job : DataLifecycleJob}

theorem mem_listHolds {tenantId : String} {hold : LegalHold} :
  hold ∈ repository.listHolds tenantId ↔
    ∃ holdId, repository.holds.get? (tenantId, holdId) = some hold := by
  simp only [listHolds, mem_map, mem_filter, get?_eq_some, decide_eq_true_eq]
  constructor
  · rintro ⟨⟨⟨tenant, holdId⟩, filed⟩, ⟨present, rfl⟩, rfl⟩
    exact ⟨holdId, present⟩
  rintro ⟨holdId, present⟩
  exact ⟨((tenantId, holdId), hold), ⟨present, rfl⟩, rfl⟩

theorem addHold_cases (repository : InMemoryDataLifecycleRepository) (hold : LegalHold) :
  (repository.addHold hold).2 = repository ∨
    repository.holds.get? (hold.tenantId, hold.holdId) = none ∧ (repository.addHold hold).2 =
    { repository with holds := repository.holds.set (hold.tenantId, hold.holdId) hold } := by
  unfold addHold
  cases found : repository.holds.get? (hold.tenantId, hold.holdId) with
  | none => exact .inr ⟨rfl, by simp only [found]⟩
  | some existing => exact .inl (by simp only [found])

theorem updateHold_cases (repository : InMemoryDataLifecycleRepository) (hold : LegalHold) :
  (repository.updateHold hold).2 = repository ∨ (repository.updateHold hold).2 =
    { repository with holds := repository.holds.set (hold.tenantId, hold.holdId) hold } := by
  unfold updateHold
  cases found : repository.holds.get? (hold.tenantId, hold.holdId) with
  | none => exact .inl (by simp only [found])
  | some existing => exact .inr (by simp only [found])

@[simp] theorem addJob_holds (repository : InMemoryDataLifecycleRepository)
  (job : DataLifecycleJob) : (repository.addJob job).2.holds = repository.holds := by
  unfold addJob
  dsimp only
  split
  · split <;> rfl
  rfl

@[simp] theorem compareAndSet_holds (repository : InMemoryDataLifecycleRepository)
  (expected : LifecycleJobStatus) (job : DataLifecycleJob) :
  (repository.compareAndSet expected job).2.holds = repository.holds := by
  unfold compareAndSet
  dsimp only
  split
  · rfl
  split <;> rfl

theorem getJob_stored {tenantId jobId : String}
  (found : repository.getJob tenantId jobId = .ok job) :
  repository.jobs.get? (tenantId, jobId) = some job := by
  unfold getJob at found
  cases stored : repository.jobs.get? (tenantId, jobId) with
  | none =>
    rw [stored] at found
    cases found
  | some existing =>
    rw [stored] at found
    exact congrArg some (Except.ok.inj found)

theorem listRunnable_stored {limit : Nat} (listed : job ∈ repository.listRunnable limit) :
  ∃ key, repository.jobs.get? key = some job := by
  have sorted := mem_of_mem_take listed
  rw [mem_insertionSort] at sorted
  exact mem_values.mp (mem_filter.mp sorted).1

theorem addJob_stored {other : DataLifecycleJob} {key : String × String}
  (found : (repository.addJob job).2.jobs.get? key = some other) :
  other = job ∨ repository.jobs.get? key = some other := by
  unfold addJob at found
  dsimp only at found
  split at found
  · split at found <;> exact .inr found
  rw [get?_set] at found
  split at found
  · exact .inl (Option.some.inj found).symm
  exact .inr found

theorem compareAndSet_stored {expected : LifecycleJobStatus} {other : DataLifecycleJob}
  {key : String × String}
  (found : (repository.compareAndSet expected job).2.jobs.get? key = some other) :
  other = job ∨ repository.jobs.get? key = some other := by
  unfold compareAndSet at found
  dsimp only at found
  split at found
  · exact .inr found
  split at found
  · exact .inr found
  rw [get?_set] at found
  split at found
  · exact .inl (Option.some.inj found).symm
  exact .inr found

end InMemoryDataLifecycleRepository

end AgentHarness.Lifecycle
