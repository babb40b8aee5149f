import AgentHarness.Interaction.Pool
import Mathlib.Data.List.Sort

/-!
The events of Runs, and the two repositories that store them.

One list stands for the rows of `run_events`, in the order of insertion; the two dicts of the
in-memory repository are read off it.
-/

namespace AgentHarness.EventLog

open Interaction Program List

structure RunEvent (Payload : Type) where
  (eventId runId sessionId tenantId : String)
  sequence : Nat
  type : String
  timestamp : Nat
  payload : Payload
  schemaVersion : Nat := 1
  (traceId spanId : Option String)
  deriving DecidableEq

inductive EventError where
  | validation
  | conflict (message : String)
  | sequenceConflict (message : String)
  /-- An `IntegrityError` of the database. -/
  | integrity
  /-- Any failure of a store, or a cancellation, before it did something. -/
  | storage
  /-- A store did what it was asked, and its answer was lost. -/
  | unacknowledged
  | bus
  | unfinished

structure EventStores (Payload : Type) where
  events : List (RunEvent Payload) := []
  published : List (RunEvent Payload) := []

inductive Repository where
  | memory
  | postgres

inductive EventOp (Payload : Type) where
  | listAfter (repository : Repository) (tenantId runId : String) (afterSequence : Nat)
  /-- `InMemoryEventRepository.append`, under its lock. -/
  | appendLocked (event : RunEvent Payload)
  | get (eventId : String)
  | commit (event : RunEvent Payload)
  | publish (event : RunEvent Payload)

abbrev EventOp.Answer {Payload : Type} : EventOp Payload → Type
  | .listAfter _ _ _ _ => List (RunEvent Payload)
  | .get _ => Option (RunEvent Payload)
  | .appendLocked _ | .commit _ | .publish _ => Unit

abbrev EventProgram (Payload α : Type) : Type :=
  Program (EventOp Payload) EventOp.Answer EventError α

inductive Fault where
  | none
  | failed
  | unacknowledged

namespace EventStores

variable {Payload : Type} (stores : EventStores Payload)

def eventsOf (tenantId runId : String) : List (RunEvent Payload) :=
  stores.events.filter fun event => event.tenantId = tenantId ∧ event.runId = runId

def listAfter (repository : Repository) (tenantId runId : String) (afterSequence : Nat) :
  List (RunEvent Payload) :=
  let found := (stores.eventsOf tenantId runId).filter fun event => afterSequence < event.sequence
  match repository with
  | .memory => found
  | .postgres => found.insertionSort fun left right => left.sequence ≤ right.sequence

def get (eventId : String) : Option (RunEvent Payload) :=
  stores.events.find? fun event => event.eventId = eventId

def insert (stores : EventStores Payload) (event : RunEvent Payload) : EventStores Payload :=
  { stores with events := stores.events ++ [event] }

def conflictMessage (eventId : String) : String :=
  "event id already contains different data: " ++ eventId

def appendLocked [DecidableEq Payload] (event : RunEvent Payload) :
  Except EventError Unit × EventStores Payload :=
  match stores.get event.eventId with
  | some existing =>
    if existing ≠ event then (.error (.conflict (conflictMessage event.eventId)), stores)
    else (.ok (), stores)
  | none =>
    let expectedSequence := (stores.eventsOf event.tenantId event.runId).length + 1
    if event.sequence ≠ expectedSequence then
      (.error (.sequenceConflict
        s!"event sequence must be {expectedSequence}, got {event.sequence}"), stores)
    else (.ok (), stores.insert event)

/-- The primary key and `uq_event_sequence`. -/
def unique (event : RunEvent Payload) : Bool :=
  stores.events.all fun row =>
    row.eventId ≠ event.eventId ∧
      ¬(row.tenantId = event.tenantId ∧ row.runId = event.runId ∧ row.sequence = event.sequence)

def commit (event : RunEvent Payload) : Except EventError Unit × EventStores Payload :=
  if stores.unique event then (.ok (), stores.insert event) else (.error .integrity, stores)

def publish (event : RunEvent Payload) : EventStores Payload :=
  if stores.published.all (fun existing => existing.eventId ≠ event.eventId) then
    { stores with published := stores.published ++ [event] }
  else stores

def settle {α : Type} (fault : Fault) (outcome : Except EventError α × EventStores Payload) :
  Except EventError α × EventStores Payload :=
  match fault with
  | .none => outcome
  | .failed => (.error .storage, stores)
  | .unacknowledged => (.error .unacknowledged, outcome.2)

def answer [DecidableEq Payload] (fault : Fault) (stores : EventStores Payload) :
    (op : EventOp Payload) → Except EventError op.Answer × EventStores Payload
  | .listAfter repository tenantId runId afterSequence =>
    stores.settle fault (.ok (stores.listAfter repository tenantId runId afterSequence), stores)
  | .appendLocked event => stores.settle fault (stores.appendLocked event)
  | .get eventId => stores.settle fault (.ok (stores.get eventId), stores)
  | .commit event => stores.settle fault (stores.commit event)
  | .publish event =>
    match fault with
    | .none => (.ok (), stores.publish event)
    | .failed => (.error .bus, stores)
    | .unacknowledged => (.error .bus, stores.publish event)

variable (event : RunEvent Payload)

theorem eventsOf_insert (tenantId runId : String) :
  (stores.insert event).eventsOf tenantId runId = stores.eventsOf tenantId runId ++
      if event.tenantId = tenantId ∧ event.runId = runId then [event] else [] := by
  simp only [eventsOf, insert, filter_append, filter_cons, filter_nil, decide_eq_true_eq]

@[simp] theorem events_publish : (stores.publish event).events = stores.events := by
  unfold publish
  split <;> rfl

@[simp] theorem eventsOf_publish (tenantId runId : String) :
  (stores.publish event).eventsOf tenantId runId = stores.eventsOf tenantId runId := by
  rw [eventsOf, events_publish, eventsOf]

end EventStores

namespace Repository

variable {Payload : Type} [DecidableEq Payload]

/-- `append` of the in-memory or of the Postgres repository. -/
def append (repository : Repository) (event : RunEvent Payload) : EventProgram Payload Unit :=
  match repository with
  | .memory => perform (.appendLocked event) id
  | .postgres => do
      let existing ← perform (.get event.eventId) id
      match existing with
      | some row =>
        if row ≠ event then .raised (.conflict (EventStores.conflictMessage event.eventId))
        else .done ()
      | none =>
        (perform (EventOp.commit event) id).catching fun (error : EventError) =>
          match error with
          | .integrity =>
            .raised (.sequenceConflict s!"event sequence already exists: {event.sequence}")
          | other => .raised other

end Repository

/-!
`EventService.append`: a sequence is taken after the last stored one, and taken anew when another
writer was faster.
-/

open Interaction Program

structure AppendRequest (Payload : Type) where
  (tenantId runId sessionId eventType : String)
  payload : Option Payload := none

structure EventService (Appender Payload : Type) where
  repository : Repository
  idGenerator : Appender ↪ String
  clock : Appender → Nat
  traceContext : Option (Appender → Option String × Option String)

namespace EventService

variable {Appender Payload : Type} (service : EventService Appender Payload)

def draft [EmptyCollection Payload] (appender : Appender) (request : AppendRequest Payload) :
  RunEvent Payload where
  eventId := service.idGenerator appender
  runId := request.runId
  sessionId := request.sessionId
  tenantId := request.tenantId
  sequence := 1
  type := request.eventType
  timestamp := service.clock appender
  payload := request.payload.getD ∅
  traceId := service.traceContext.bind fun context => (context appender).1
  spanId := service.traceContext.bind fun context => (context appender).2

def nextSequence (current : List (RunEvent Payload)) : Nat :=
  match current.getLast? with
  | some last => last.sequence + 1
  | none => 1

variable [DecidableEq Payload]

/-- The `while True` of `append`, for as many rounds as it is given. -/
def store (service : EventService Appender Payload) :
    Nat → RunEvent Payload → EventProgram Payload (RunEvent Payload)
  | 0, _ => .raised .unfinished
  | rounds + 1, event => do
      let current ← perform (.listAfter service.repository event.tenantId event.runId 0) id
      let event := { event with sequence := nextSequence current }
      let stored ← ((service.repository.append event).bind fun _ => .done true).catching
        fun (error : EventError) =>
          match error with
          | .sequenceConflict _ => .done false
          | other => .raised other
      if stored then .done event else store service rounds event

def append [EmptyCollection Payload] (appender : Appender) (request : AppendRequest Payload)
  (rounds : Nat) : EventProgram Payload (RunEvent Payload) :=
  if request.eventType = "" then .raised .validation
  else do
    let event ← service.store rounds (service.draft appender request)
    let _ ← perform (.publish event) id
    return event

def component : Component (EventOp Payload) EventOp.Answer EventError Appender
  (EventStores Payload) Fault where
  respond _ fault stores op := stores.answer fault op

def start [EmptyCollection Payload] (requests : Appender → AppendRequest Payload)
  (rounds : Appender → Nat) :
  Pool (EventOp Payload) EventOp.Answer EventError Appender (EventStores Payload)
    (RunEvent Payload) where
  state := {}
  thread appender := service.append appender (requests appender) (rounds appender)

end EventService

end AgentHarness.EventLog
