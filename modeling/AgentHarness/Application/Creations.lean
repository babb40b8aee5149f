import Mathlib.Data.List.Sort
import Mathlib.Data.String.Basic
import AgentHarness.Core.Run
import AgentHarness.Interaction.Pool

/-!
Creating Runs: the idempotency key, the identical active request, and the task queue.
-/

namespace AgentHarness.Creation

open Collections Interaction

/-- `prompt` and `input_artifact_ids` of a request: no prompt when it is no string, no ids when
they are not a list of strings. -/
structure RunInput where
  prompt : Option String := none
  inputArtifactIds : Option (List String) := some []

structure Run where
  (runId sessionId tenantId : String)
  status : RunStatus
  idempotencyKey : String
  (createdAt updatedAt : Nat)
  fencingToken : Nat := 0
  input : RunInput

structure RunCreation where
  run : Run
  (created deduplicated : Bool)

structure RunTask where
  (tenantId runId sessionId : String)

structure CreateRequest where
  (tenantId sessionId idempotencyKey : String)
  input : RunInput := {}
  deduplicateActiveInput : Bool := true

/-- The payload of `run.queued` behind an active Run. -/
structure QueuePayload where
  (reasonCode reason blockedByRunId : String)
  blockedByStatus : RunStatus

inductive CreationError where
  | conflict (message : String)
  | notFound (message : String)
  | outage

def Run.key (run : Run) : String × String := (run.tenantId, run.runId)

def Run.idempotency (run : Run) : String × String × String :=
  (run.tenantId, run.sessionId, run.idempotencyKey)

def Run.task (run : Run) : RunTask where
  tenantId := run.tenantId
  runId := run.runId
  sessionId := run.sessionId

def RunTask.key (task : RunTask) : String × String := (task.tenantId, task.runId)

variable (request : CreateRequest)

def CreateRequest.session : String × String := (request.tenantId, request.sessionId)

def CreateRequest.key : String × String × String :=
  (request.tenantId, request.sessionId, request.idempotencyKey)

def requestAttachmentIds (input : RunInput) : Option (List String) :=
  input.inputArtifactIds.map fun ids => ids.insertionSort (fun left right => left ≤ right)

def sameUserRequest (left right : RunInput) : Bool :=
  match left.prompt, right.prompt with
  | some leftPrompt, some rightPrompt =>
    leftPrompt = rightPrompt && requestAttachmentIds left = requestAttachmentIds right
  | _, _ => false

def createdBefore (left right : Run) : Prop :=
  left.createdAt < right.createdAt ∨ left.createdAt = right.createdAt ∧ left.runId ≤ right.runId

instance : DecidableRel createdBefore := fun left right => by
  unfold createdBefore
  infer_instance

def blockingPredecessor (activeRuns : List Run) : Option Run :=
  let ordered := activeRuns.insertionSort createdBefore
  match ordered.find? (fun item => item.status = .waitingApproval) with
  | some waiting => some waiting
  | none => ordered.head?

def activeRuns (listed : List Run) : List Run := listed.filter fun item => !item.status.isTerminal

def CreateRequest.duplicate (listed : List Run) : Option Run :=
  if request.deduplicateActiveInput then
    (activeRuns listed).find? fun item => sameUserRequest item.input request.input
  else
    none

def queuePayload (listed : List Run) : Option QueuePayload :=
  (blockingPredecessor (activeRuns listed)).map (fun predecessor =>
    let waitingForApproval := predecessor.status = .waitingApproval
    { reasonCode := if waitingForApproval then "predecessor_waiting_approval"
        else "predecessor_active"
      reason := if waitingForApproval then "前序任务等待审批" else "前序任务仍在执行"
      blockedByRunId := predecessor.runId
      blockedByStatus := predecessor.status })

/-- `enter` and `leave` are the two ends of `async with lock`. -/
inductive CreationOp where
  | enter (session : String × String)
  | leave (session : String × String)
  | getSession (tenantId sessionId : String)
  | findByIdempotencyKey (tenantId sessionId idempotencyKey : String)
  | listForSessions (request : CreateRequest) (limit : Nat)
  | clock
  | generateId
  | admitRun (tenantId runId : String)
  | releaseSubject (tenantId runId : String)
  | add (run : Run)
  | appendQueued (run : Run) (payload : Option QueuePayload)
  | enqueue (task : RunTask)
  | getRun (tenantId runId : String)
  | compareAndSet (expected : RunStatus) (current : Run) (status : RunStatus)
  | dequeue
  | acknowledge (task : RunTask)
  | retry (task : RunTask)

abbrev CreationOp.Answer : CreationOp → Type
  | .findByIdempotencyKey _ _ _ => Option Run
  | .listForSessions _ _ => List Run
  | .clock => Nat
  | .generateId => String
  | .getRun _ _ => Run
  | .compareAndSet _ _ _ => Bool
  | .dequeue => Option RunTask
  | _ => Unit

abbrev CreationProgram := Program CreationOp CreationOp.Answer CreationError

namespace CreationPort

open Program

abbrev call (op : CreationOp) : CreationProgram op.Answer := perform op fun answer => answer

end CreationPort

structure RunService where
  admission : Bool := false

namespace RunService

open Program CreationPort

variable (service : RunService)

def store (run : Run) : CreationProgram Unit := (call (.add run)).catching (fun error =>
    if service.admission then
      (call (.releaseSubject run.tenantId run.runId)).bind fun _ => raised error
    else
      raised error)

def requireAdmission (run : Run) : CreationProgram Unit :=
  if service.admission then call (.admitRun run.tenantId run.runId) else done ()

variable (request : CreateRequest)

/-- The rest of `_create_locked`, once no rule has answered. -/
def createNew (listed : List Run) : CreationProgram RunCreation := do
  let timestamp ← call .clock
  let runId ← call .generateId
  let run : Run :=
    { runId, sessionId := request.sessionId, tenantId := request.tenantId
      status := .queued, idempotencyKey := request.idempotencyKey, createdAt := timestamp
      updatedAt := timestamp, input := request.input }
  service.requireAdmission run
  service.store run
  call (.appendQueued run (queuePayload listed))
  call (.enqueue run.task)
  return { run, created := true, deduplicated := false }

def createLocked : CreationProgram RunCreation := do
  call (.getSession request.tenantId request.sessionId)
  let existing ← call (.findByIdempotencyKey request.tenantId request.sessionId
    request.idempotencyKey)
  match existing with
  | some existing => return { run := existing, created := false, deduplicated := false }
  | none => do
      let listed ← call (.listForSessions request 200)
      match request.duplicate listed with
      | some duplicate => return { run := duplicate, created := false, deduplicated := true }
      | none => service.createNew request listed

def createWithResult : CreationProgram RunCreation := do
  call (.enter request.session)
  (service.createLocked request).ensuring (call (.leave request.session))

end RunService

inductive CreationRequest where
  | create (request : CreateRequest)
  | transition (tenantId runId : String) (status : RunStatus)
  | dequeue
  | acknowledge (task : RunTask)
  | retry (task : RunTask)

namespace CreationRequest

open Program CreationPort

def serve (service : RunService) : CreationRequest → CreationProgram (Option RunCreation)
  | .create request => (service.createWithResult request).bind fun created => done (some created)
  | .transition tenantId runId status => do
      let current ← call (.getRun tenantId runId)
      let _ ← call (.compareAndSet current.status current status)
      return none
  | .dequeue => (call .dequeue).bind fun _ => done none
  | .acknowledge task => (call (.acknowledge task)).bind fun _ => done none
  | .retry task => (call (.retry task)).bind fun _ => done none

end CreationRequest

structure InMemoryTaskQueue where
  items : List RunTask := []
  pending : List (String × String) := []
  leased : List (String × String) := []

namespace InMemoryTaskQueue

variable (queue : InMemoryTaskQueue)

def enqueue (task : RunTask) : InMemoryTaskQueue :=
  if queue.pending.contains task.key then queue
  else { queue with pending := task.key :: queue.pending, items := queue.items ++ [task] }

def dequeue : Option RunTask × InMemoryTaskQueue :=
  match queue.items with
  | [] => (none, queue)
  | task :: items => (some task, { queue with items, leased := task.key :: queue.leased })

def acknowledge (task : RunTask) : InMemoryTaskQueue :=
  { queue with
    leased := queue.leased.filter (fun key => key ≠ task.key)
    pending := queue.pending.filter (fun key => key ≠ task.key) }

def retry (task : RunTask) : InMemoryTaskQueue :=
  if queue.leased.contains task.key then
    { queue with
      leased := queue.leased.filter (fun key => key ≠ task.key)
      items := queue.items ++ [task] }
  else
    queue

end InMemoryTaskQueue

structure CreationRecords where
  sessions : List (String × String) := []
  runs : Dict (String × String) Run := Dict.empty
  idempotency : Dict (String × String × String) String := Dict.empty
  queue : InMemoryTaskQueue := {}
  held : Dict (String × String) Nat := Dict.empty
  /-- The Runs whose tasks have been put on the queue; no program reads it. -/
  enqueued : List (String × String) := []
  /-- The keys that the rule of the active duplicate has answered, each with the last Run it was
  answered with; no program reads it. -/
  answered : Dict (String × String × String) String := Dict.empty

/-- A call can fail before it takes effect, or its answer can be lost. -/
inductive Fault where
  | none
  | failed
  | unacknowledged
  deriving DecidableEq

structure CreationInput where
  now : Nat := 0
  newId : String := ""
  fault : Fault := .none

def updatedAfter (left right : Run) : Prop :=
  right.updatedAt < left.updatedAt ∨ left.updatedAt = right.updatedAt ∧ right.runId ≤ left.runId

instance : DecidableRel updatedAfter := fun left right => by
  unfold updatedAfter
  infer_instance

namespace CreationRecords

variable (records : CreationRecords)

def add (run : Run) : Except CreationError Unit × CreationRecords :=
  if (records.runs.get? run.key).isSome || (records.idempotency.get? run.idempotency).isSome then
    (.error (.conflict ("run already exists: " ++ run.runId)), records)
  else
    (.ok (),
      { records with
        runs := records.runs.set run.key run
        idempotency := records.idempotency.set run.idempotency run.runId })

def get (records : CreationRecords) (tenantId runId : String) : Except CreationError Run :=
  match records.runs.get? (tenantId, runId) with
  | none => .error (.notFound ("run not found: " ++ runId))
  | some run => .ok run

def findByIdempotencyKey (tenantId sessionId idempotencyKey : String) :
  Except CreationError (Option Run) :=
  match records.idempotency.get? (tenantId, sessionId, idempotencyKey) with
  | none => .ok none
  | some runId => (records.get tenantId runId).map some

def listForSessions (tenantId sessionId : String) (limit : Nat) : List Run :=
  (((records.runs.entries.filter fun entry => entry.1.1 = tenantId).map Prod.snd).filter
    fun run => run.sessionId = sessionId).insertionSort updatedAfter |>.take limit

def compareAndSet (now : Nat) (expected : RunStatus) (current : Run) (status : RunStatus) :
  Except CreationError Bool × CreationRecords :=
  match records.runs.get? current.key with
  | none => (.error (.notFound ("run not found: " ++ current.runId)), records)
  | some stored =>
    if stored.status ≠ expected ∨ stored.fencingToken ≠ current.fencingToken then
      (.ok false, records)
    else
      (.ok true,
        { records with
          runs := records.runs.set current.key
            { current with status, updatedAt := now, fencingToken := current.fencingToken + 1 } })

def answer (actor : Nat) (input : CreationInput) :
    (op : CreationOp) → Except CreationError op.Answer × CreationRecords
  | .enter session => (.ok (), { records with held := records.held.set session actor })
  | .leave session => (.ok (), { records with held := records.held.erase session })
  | .getSession tenantId sessionId =>
    if records.sessions.contains (tenantId, sessionId) then (.ok (), records)
    else (.error (.notFound ("session not found: " ++ sessionId)), records)
  | .findByIdempotencyKey tenantId sessionId idempotencyKey =>
    (records.findByIdempotencyKey tenantId sessionId idempotencyKey, records)
  | .listForSessions request limit =>
    (.ok (records.listForSessions request.tenantId request.sessionId limit), records)
  | .clock => (.ok input.now, records)
  | .generateId => (.ok input.newId, records)
  | .admitRun _ _ | .releaseSubject _ _ => (.ok (), records)
  | .add run => records.add run
  | .appendQueued _ _ => (.ok (), records)
  | .enqueue task =>
    (.ok (),
      { records with
        queue := records.queue.enqueue task, enqueued := task.key :: records.enqueued })
  | .getRun tenantId runId => (records.get tenantId runId, records)
  | .compareAndSet expected current status =>
    records.compareAndSet input.now expected current status
  | .dequeue =>
    let taken := records.queue.dequeue
    (.ok taken.1, { records with queue := taken.2 })
  | .acknowledge task => (.ok (), { records with queue := records.queue.acknowledge task })
  | .retry task => (.ok (), { records with queue := records.queue.retry task })

def awaits : CreationOp → Bool
  | .enter _ | .leave _ | .clock | .generateId => false
  | _ => true

def noted (answered : Dict (String × String × String) String) :
    (op : CreationOp) → Except CreationError op.Answer → Dict (String × String × String) String
  | .listForSessions request _, .ok listed =>
    match request.duplicate listed with
    | none => answered
    | some duplicate => answered.set request.key duplicate.runId
  | _, _ => answered

def respond (actor : Nat) (input : CreationInput) (records : CreationRecords)
  (op : CreationOp) : Except CreationError op.Answer × CreationRecords :=
  let reply := records.answer actor input op
  let settled : Except CreationError op.Answer × CreationRecords :=
    match (if awaits op then input.fault else .none) with
    | .none => reply
    | .failed => (.error .outage, records)
    | .unacknowledged => (.error .outage, reply.2)
  (settled.1, { settled.2 with answered := noted records.answered op settled.1 })

def component : Component CreationOp CreationOp.Answer CreationError Nat CreationRecords
  CreationInput where
  respond

end CreationRecords

namespace RunService

def start (service : RunService) (sessions : List (String × String))
  (requests : Nat → CreationRequest) :
  Pool CreationOp CreationOp.Answer CreationError Nat CreationRecords (Option RunCreation) where
  state := { sessions }
  thread actor := (requests actor).serve service

end RunService

end AgentHarness.Creation
