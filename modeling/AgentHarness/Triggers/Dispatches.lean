import AgentHarness.Triggers.Repository

/-!
The dispatchers of scheduled triggers.

Any number of them look for due triggers side by side.  A dispatcher claims the slot of a trigger
by moving the next fire time on, invokes the trigger, and moves the time back if the invocation
fails.  The repository is the one in memory; each of its calls is one step.
-/

namespace AgentHarness.Triggers

open Collections Interaction Program Function

structure TriggerSession where
  (userId agentName environment : String)
  deploymentSnapshotId : Option String := none

structure TriggerRun where
  (tenantId sessionId idempotencyKey prompt triggerId : String)

inductive DispatchError
  | conflict (message : String)
  | notFound (message : String)
  | taskNotFound
  | outside

def TriggerSchedule.interval (schedule : TriggerSchedule) : Int :=
  schedule.intervalSeconds * 1000000

def StoredAgentTrigger.slot? (trigger : StoredAgentTrigger) : Option (String × Int) :=
  match trigger.schedule, trigger.nextFireAt with
  | some _, some scheduledAt => some (trigger.triggerId, scheduledAt)
  | _, _ => none

/-- `isoformat` tells instants apart. -/
structure DispatchService where
  environmentValue : Deployments.EnvironmentName → String
  isoformat : Int → String
  isoformat_injective : Function.Injective isoformat
  sessionId : String → String → String

inductive DispatchOp
  | clock
  | listDue (now : Int) (limit : Nat)
  | advanceSchedule (triggerId : String) (expectedNextFireAt nextFireAt : Int)
  | getSession (tenantId sessionId : String)
  | createSession (tenantId sessionId : String) (session : TriggerSession)
  | findRun (tenantId sessionId idempotencyKey : String)
  | addRun (run : TriggerRun)
  | touchInvoked (triggerId : String)
  | record (tenantId userId action : String)

abbrev DispatchOp.Answer : DispatchOp → Type
  | .clock => Int
  | .listDue _ _ => List StoredAgentTrigger
  | .advanceSchedule _ _ _ => Bool
  | .getSession _ _ | .createSession _ _ _ => TriggerSession
  | .findRun _ _ _ => Option TriggerRun
  | .touchInvoked _ => StoredAgentTrigger
  | .addRun _ | .record _ _ _ => Unit

def DispatchOp.invokes : DispatchOp → Bool
  | .clock | .listDue _ _ | .advanceSchedule _ _ _ => false
  | _ => true

abbrev DispatchProgram := Program DispatchOp DispatchOp.Answer DispatchError

namespace DispatchOp

abbrev ask (op : DispatchOp) : DispatchProgram op.Answer :=
  Program.perform op fun answer => answer

def refuse (refused : Prop) [Decidable refused] (error : DispatchError) : DispatchProgram Unit :=
  if refused then .raised error else .done ()

end DispatchOp

namespace DispatchService

open DispatchOp

variable (service : DispatchService)

def workloadId (triggerId : String) : String := "trigger:" ++ triggerId

variable (trigger : StoredAgentTrigger)

def sessionFor : TriggerSession where
  userId := workloadId trigger.triggerId
  agentName := trigger.agentName
  environment := service.environmentValue trigger.environment

def existingSession (sessionId : String) : DispatchProgram (Option TriggerSession) := do
  let found ← ((ask (.getSession trigger.tenantId sessionId)).bind
    fun session => done (some session)).catching fun error =>
      match error with
      | .notFound _ => done none
      | other => raised other
  match found with
  | none => return none
  | some session => do
      refuse (session.userId ≠ workloadId trigger.triggerId ∨
          session.agentName ≠ trigger.agentName ∨
          session.environment ≠ service.environmentValue trigger.environment)
        (.conflict "Trigger idempotency key resolved to another Session")
      return some session

/-- `if session is None`. -/
def createUnless (existing : Option TriggerSession) (trigger : StoredAgentTrigger)
  (sessionId : String) : DispatchProgram TriggerSession :=
  match existing with
  | some session => done session
  | none => ask (.createSession trigger.tenantId sessionId (service.sessionFor trigger))

/-- `RunService.create` in a Session of its own: no other Run there is active. -/
def createRun (run : TriggerRun) : DispatchProgram TriggerRun := do
  match ← ask (.findRun run.tenantId run.sessionId run.idempotencyKey) with
  | some existing => return existing
  | none => do
      ask (.addRun run)
      return run

def invokeStored (idempotencyKey prompt : String) (contextId : Option String) :
  DispatchProgram TriggerRun := do
  let sessionId := contextId.getD (service.sessionId trigger.triggerId idempotencyKey)
  let existing ← service.existingSession trigger sessionId
  refuse (contextId ≠ none ∧ existing = none) .taskNotFound
  let session ← service.createUnless existing trigger sessionId
  let run ← createRun
    { tenantId := trigger.tenantId, sessionId, idempotencyKey, prompt
      triggerId := trigger.triggerId }
  refuse (run.prompt ≠ prompt ∨ run.triggerId ≠ trigger.triggerId)
    (.conflict "Trigger idempotency key was reused with another payload")
  let touched ← ask (.touchInvoked trigger.triggerId)
  ask (.record touched.tenantId (workloadId trigger.triggerId) "trigger.invoke")
  refuse (session.deploymentSnapshotId = none)
    (.conflict "Trigger Session did not resolve a deployment snapshot")
  return run

def idempotencyKey (scheduledAt : Int) : String := "schedule:" ++ service.isoformat scheduledAt

/-- The loop; its `except` makes the slot eligible again and raises. -/
def dispatchEach (dispatched : Nat) : List StoredAgentTrigger → DispatchProgram Nat
  | [] => done dispatched
  | trigger :: rest =>
    match trigger.schedule, trigger.nextFireAt with
    | some schedule, some scheduledAt => do
        let nextFireAt := scheduledAt + schedule.interval
        match ← ask (.advanceSchedule trigger.triggerId scheduledAt nextFireAt) with
        | false => dispatchEach dispatched rest
        | true => do
            let _ ← (service.invokeStored trigger (service.idempotencyKey scheduledAt)
              schedule.prompt none).catching fun error => do
                let _ ← ask (.advanceSchedule trigger.triggerId nextFireAt scheduledAt)
                raised error
            dispatchEach (dispatched + 1) rest
    | _, _ => dispatchEach dispatched rest

def dispatchDue (limit : Nat) : DispatchProgram Nat := do
  let now ← ask .clock
  let due ← ask (.listDue now limit)
  service.dispatchEach 0 due

def maintain (limits : List Nat) : DispatchProgram Unit :=
  each limits fun limit =>
    ((service.dispatchDue limit).bind fun _ => done ()).catching fun _ => done ()

end DispatchService

structure DuePass where
  listed : List (String × Int) := []
  tried : List (String × Int) := []

/-- `claims` and `passes` are history: no call reads them. -/
structure DispatchRecords where
  triggers : Dict String StoredAgentTrigger
  sessions : Dict (String × String) TriggerSession := Dict.empty
  runs : List TriggerRun := []
  claims : Nat → Option (String × Int) := fun _ => none
  passes : Nat → DuePass := fun _ => {}

inductive Fault
  | absent
  | before
  | after

/-- What a step takes from outside: the time, whether the call fails, and the snapshot that a new
Session resolves. -/
structure DispatchInput where
  now : Int := 0
  fault : Fault := .absent
  snapshot : Option String := some "snapshot"

namespace DispatchRecords

/-- `order_by(next_fire_at, trigger_id)`. -/
def dueBefore (left right : StoredAgentTrigger) : Bool :=
  match left.nextFireAt, right.nextFireAt with
  | some leftAt, some rightAt =>
    leftAt < rightAt || (leftAt = rightAt && left.triggerId ≤ right.triggerId)
  | _, _ => true

def listDue (triggers : Dict String StoredAgentTrigger) (now : Int) (limit : Nat) :
  List StoredAgentTrigger :=
  ((triggers.values.filter fun trigger =>
    trigger.enabled && trigger.nextFireAt.any (· ≤ now)).insertionSort
      fun left right => dueBefore left right).take limit

def advanceSchedule (triggers : Dict String StoredAgentTrigger) (triggerId : String)
  (expectedNextFireAt nextFireAt : Int) : Bool × Dict String StoredAgentTrigger :=
  match triggers.get? triggerId with
  | none => (false, triggers)
  | some current =>
    if current.nextFireAt = some expectedNextFireAt then
      (true, triggers.set triggerId { current with nextFireAt := some nextFireAt })
    else (false, triggers)

def advance (records : DispatchRecords) (actor : Nat) (triggerId : String)
  (expectedNextFireAt nextFireAt : Int) : Bool × DispatchRecords :=
  let moved := advanceSchedule records.triggers triggerId expectedNextFireAt nextFireAt
  if expectedNextFireAt < nextFireAt then
    (moved.1,
      { records with
        triggers := moved.2
        claims := update records.claims actor
          (if moved.1 then some (triggerId, expectedNextFireAt) else none)
        passes := update records.passes actor
          { records.passes actor with
            tried := (records.passes actor).tried ++ [(triggerId, expectedNextFireAt)] } })
  else
    (moved.1,
      { records with
        triggers := moved.2, claims := update records.claims actor none })

def perform (records : DispatchRecords) (actor : Nat) (input : DispatchInput) :
    (op : DispatchOp) → Except DispatchError op.Answer × DispatchRecords
  | .clock => (.ok input.now, { records with claims := update records.claims actor none })
  | .listDue now limit =>
    (.ok (listDue records.triggers now limit),
      { records with
        passes := update records.passes actor
          { listed := (listDue records.triggers now limit).filterMap
              StoredAgentTrigger.slot? } })
  | .advanceSchedule triggerId expectedNextFireAt nextFireAt =>
    (.ok (records.advance actor triggerId expectedNextFireAt nextFireAt).1,
      (records.advance actor triggerId expectedNextFireAt nextFireAt).2)
  | .getSession tenantId sessionId =>
    match records.sessions.get? (tenantId, sessionId) with
    | none => (.error (.notFound ("Session not found: " ++ sessionId)), records)
    | some session => (.ok session, records)
  | .createSession tenantId sessionId session =>
    match records.sessions.get? (tenantId, sessionId) with
    | some _ => (.error (.conflict "Session already exists"), records)
    | none =>
      (.ok { session with deploymentSnapshotId := input.snapshot },
        { records with
          sessions := records.sessions.set (tenantId, sessionId)
            { session with deploymentSnapshotId := input.snapshot } })
  | .findRun tenantId sessionId idempotencyKey =>
    (.ok (records.runs.find? fun run =>
      decide (run.tenantId = tenantId ∧ run.sessionId = sessionId ∧
        run.idempotencyKey = idempotencyKey)), records)
  | .addRun run => (.ok (), { records with runs := records.runs ++ [run] })
  | .touchInvoked triggerId =>
    match records.triggers.get? triggerId with
    | none => (.error (.notFound ("Agent Trigger not found: " ++ triggerId)), records)
    | some trigger =>
      (.ok (trigger.touched input.now),
        { records with
          triggers := records.triggers.set triggerId (trigger.touched input.now) })
  | .record _ _ _ => (.ok (), records)

def respond (actor : Nat) (input : DispatchInput) (records : DispatchRecords)
  (op : DispatchOp) : Except DispatchError op.Answer × DispatchRecords :=
  if op.invokes then
    match input.fault with
    | .absent => records.perform actor input op
    | .before => (.error .outside, records)
    | .after => (.error .outside, (records.perform actor input op).2)
  else records.perform actor input op

def component :
  Component DispatchOp DispatchOp.Answer DispatchError Nat DispatchRecords DispatchInput where
  respond

end DispatchRecords

def DispatchService.pool (service : DispatchService) (records : DispatchRecords)
  (limits : Nat → List Nat) :
  Pool DispatchOp DispatchOp.Answer DispatchError Nat DispatchRecords Unit where
  state := records
  thread actor := service.maintain (limits actor)

end AgentHarness.Triggers
