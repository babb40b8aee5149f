import AgentHarness.Collections.Dict
import AgentHarness.Interaction.LastCall

/-!
The bindings of AG-UI threads to sessions, in Postgres and in memory.
-/

namespace AgentHarness.Agui

open Collections Interaction Program

inductive TitleSource where
  | fallback
  | model
  deriving DecidableEq

structure AguiThreadBinding where
  (tenantId userId threadId sessionId : String)
  previousSessionIds : List String
  title : Option String
  titleSource : Option TitleSource
  (titleUpdatedAt archivedAt : Option Int)
  (createdAt updatedAt : Int)
  deriving DecidableEq

abbrev BindingKey : Type := String × String × String

inductive BindingError where
  | notFound (message : String)
  | conflict (message : String)
  /-- A constraint of the table refuses the statement. -/
  | integrity
  /-- The row to be updated is gone. -/
  | stale

inductive BindingRequest where
  | add (binding : AguiThreadBinding)
  | updateTitle (thread : BindingKey) (title : String) (source : TitleSource) (generatedAt : Int)
  | setArchived (thread : BindingKey) (archivedAt : Option Int)
  | rebindSession (thread : BindingKey) (sessionId : String) (updatedAt : Int)

namespace AguiThreadBinding

variable (binding : AguiThreadBinding)

def threadKey : BindingKey := (binding.tenantId, binding.userId, binding.threadId)

def sessionIds : List String := binding.previousSessionIds ++ [binding.sessionId]

/-- `binding.title_updated_at > generated_at`. -/
def hasNewerTitle (generatedAt : Int) : Bool :=
  binding.titleUpdatedAt.any fun updatedAt => decide (generatedAt < updatedAt)

def withTitle (title : String) (source : TitleSource) (generatedAt : Int) : AguiThreadBinding :=
  { binding with
    title := some title, titleSource := some source, titleUpdatedAt := some generatedAt
    updatedAt := max binding.updatedAt generatedAt }

def withArchived (archivedAt : Option Int) : AguiThreadBinding :=
  { binding with
    archivedAt
    updatedAt :=
      match archivedAt with
      | some moment => max binding.updatedAt moment
      | none => binding.updatedAt }

def withSession (sessionId : String) (updatedAt : Int) : AguiThreadBinding :=
  { binding with
    sessionId, previousSessionIds := binding.sessionIds.eraseDups
    updatedAt := max binding.updatedAt updatedAt }

end AguiThreadBinding

def threadNotFound (thread : BindingKey) : BindingError :=
  .notFound ("AG-UI thread binding not found: " ++ thread.2.2)

/-- A row of `agui_thread_bindings` beside its primary key. -/
structure BindingRow where
  sessionId : String
  payload : AguiThreadBinding
  deriving DecidableEq

abbrev BindingTable : Type := Dict BindingKey BindingRow

inductive BindingOp where
  | insert (thread : BindingKey) (row : BindingRow)
  | get (thread : BindingKey)
  /-- The flush of a row that was read as `read` and edited into `written`. -/
  | commit (thread : BindingKey) (read written : BindingRow)

abbrev BindingOp.Answer : BindingOp → Type
  | .get _ => Option BindingRow
  | .insert _ _ | .commit _ _ _ => Unit

abbrev BindingProgram (α : Type) : Type := Program BindingOp BindingOp.Answer BindingError α

abbrev BindingOp.ask (op : BindingOp) : BindingProgram op.Answer := perform op id

namespace BindingTable

variable (table : BindingTable)

/-- `uq_agui_binding_session`: another thread of the user has the session in its column. -/
def taken (thread : BindingKey) (sessionId : String) : Bool :=
  table.entries.any fun entry =>
    decide (entry.1 ≠ thread) && decide (entry.1.1 = thread.1) &&
      decide (entry.1.2.1 = thread.2.1) && decide (entry.2.sessionId = sessionId)

def flushed (stored read written : BindingRow) : BindingRow where
  sessionId := if written.sessionId = read.sessionId then stored.sessionId else written.sessionId
  payload := if written.payload = read.payload then stored.payload else written.payload

def answer : (op : BindingOp) → Except BindingError op.Answer × BindingTable
  | .insert thread row =>
    if (table.get? thread).isSome || table.taken thread row.sessionId then
      (.error .integrity, table)
    else (.ok (), table.set thread row)
  | .get thread => (.ok (table.get? thread), table)
  | .commit thread read written =>
    if written = read then (.ok (), table)
    else
      match table.get? thread with
      | none => (.error .stale, table)
      | some stored =>
        if written.sessionId ≠ read.sessionId ∧ table.taken thread written.sessionId then
          (.error .integrity, table)
        else (.ok (), table.set thread (flushed stored read written))

def component : Component BindingOp BindingOp.Answer BindingError Nat BindingTable Unit where
  respond _ _ table op := table.answer op

def Indexed : Prop :=
  ∀ thread row, table.get? thread = some row → row.sessionId = row.payload.sessionId

def Unwritten (_actor : Nat) : BindingOp → Unit → Prop
  | .commit thread read _, _ => table.get? thread = some read
  | _, _ => True

instance (table : BindingTable) (actor : Nat) (op : BindingOp) (input : Unit) :
  Decidable (table.Unwritten actor op input) := by
  unfold Unwritten
  split <;> infer_instance

end BindingTable

namespace PostgresBindings

/-- `except IntegrityError`. -/
def conflicting (message : String) : BindingError → BindingError
  | .integrity => .conflict message
  | other => other

def write (thread : BindingKey) (read : BindingRow) (reports : BindingError → BindingError) :
    Option BindingRow → BindingProgram AguiThreadBinding
  | none => .done read.payload
  | some written =>
    .call (.commit thread read written) fun
      | .ok _ => .done written.payload
      | .error error => .raised (reports error)

variable (thread : BindingKey)

def edit (edited : BindingRow → Option BindingRow) (reports : BindingError → BindingError) :
  BindingProgram AguiThreadBinding :=
  .call (.get thread) fun
    | .ok (some row) => write thread row reports (edited row)
    | .ok none => .raised (threadNotFound thread)
    | .error error => .raised error

def add (binding : AguiThreadBinding) : BindingProgram AguiThreadBinding :=
  .call (.insert binding.threadKey ⟨binding.sessionId, binding⟩) fun
    | .ok _ => .done binding
    | .error error => .raised (conflicting "AG-UI thread binding already exists" error)

def titled (title : String) (source : TitleSource) (generatedAt : Int) (row : BindingRow) :
  Option BindingRow :=
  if row.payload.hasNewerTitle generatedAt then none
  else some { row with payload := row.payload.withTitle title source generatedAt }

def updateTitle (title : String) (source : TitleSource) (generatedAt : Int) :
  BindingProgram AguiThreadBinding :=
  edit thread (titled title source generatedAt) id

def archived (archivedAt : Option Int) (row : BindingRow) : Option BindingRow :=
  some { row with payload := row.payload.withArchived archivedAt }

def setArchived (archivedAt : Option Int) : BindingProgram AguiThreadBinding :=
  edit thread (archived archivedAt) id

def rebound (sessionId : String) (updatedAt : Int) (row : BindingRow) : Option BindingRow :=
  some { sessionId, payload := row.payload.withSession sessionId updatedAt }

def rebindSession (sessionId : String) (updatedAt : Int) : BindingProgram AguiThreadBinding :=
  edit thread (rebound sessionId updatedAt)
    (conflicting "AG-UI session binding already exists")

def serve : BindingRequest → BindingProgram AguiThreadBinding
  | .add binding => add binding
  | .updateTitle thread title source generatedAt => updateTitle thread title source generatedAt
  | .setArchived thread archivedAt => setArchived thread archivedAt
  | .rebindSession thread sessionId updatedAt => rebindSession thread sessionId updatedAt

end PostgresBindings

def bindingPool (requests : Nat → BindingRequest) :
  Pool BindingOp BindingOp.Answer BindingError Nat BindingTable AguiThreadBinding where
  state := Dict.empty
  thread actor := PostgresBindings.serve (requests actor)

structure InMemoryBindings where
  (byThread bySession : Dict BindingKey AguiThreadBinding)

namespace InMemoryBindings

def empty : InMemoryBindings := ⟨Dict.empty, Dict.empty⟩

/-- `_store_session_aliases`. -/
def aliased (bySession : Dict BindingKey AguiThreadBinding) (binding : AguiThreadBinding) :
  Dict BindingKey AguiThreadBinding :=
  binding.sessionIds.foldl
    (fun known sessionId => known.set (binding.tenantId, binding.userId, sessionId) binding)
    bySession

def store (bindings : InMemoryBindings) (thread : BindingKey) (binding : AguiThreadBinding) :
  InMemoryBindings where
  byThread := bindings.byThread.set thread binding
  bySession := aliased bindings.bySession binding

def answer (bindings : InMemoryBindings) :
    BindingRequest → Except BindingError AguiThreadBinding × InMemoryBindings
  | .add binding =>
    let session := (binding.tenantId, binding.userId, binding.sessionId)
    if (bindings.byThread.get? binding.threadKey).isSome ||
        (bindings.bySession.get? session).isSome then
      (.error (.conflict "AG-UI thread binding already exists"), bindings)
    else
      (.ok binding,
        { byThread := bindings.byThread.set binding.threadKey binding
          bySession := bindings.bySession.set session binding })
  | .updateTitle thread title source generatedAt =>
    match bindings.byThread.get? thread with
    | none => (.error (threadNotFound thread), bindings)
    | some binding =>
      if binding.hasNewerTitle generatedAt then (.ok binding, bindings)
      else
        let updated := binding.withTitle title source generatedAt
        (.ok updated, bindings.store thread updated)
  | .setArchived thread archivedAt =>
    match bindings.byThread.get? thread with
    | none => (.error (threadNotFound thread), bindings)
    | some binding =>
      let updated := binding.withArchived archivedAt
      (.ok updated, bindings.store thread updated)
  | .rebindSession thread sessionId updatedAt =>
    match bindings.byThread.get? thread with
    | none => (.error (threadNotFound thread), bindings)
    | some binding =>
      let existing := bindings.bySession.get? (thread.1, thread.2.1, sessionId)
      if existing.any (fun other => decide (other.threadId ≠ thread.2.2)) then
        (.error (.conflict "AG-UI session binding already exists"), bindings)
      else
        let updated := binding.withSession sessionId updatedAt
        (.ok updated, bindings.store thread updated)

abbrev Answer : BindingRequest → Type := fun _ => AguiThreadBinding

def component : Component BindingRequest Answer BindingError Nat InMemoryBindings Unit where
  respond _ _ bindings request := bindings.answer request

def serve (request : BindingRequest) :
  Program BindingRequest Answer BindingError AguiThreadBinding := perform request id

def pool (requests : Nat → BindingRequest) :
  Pool BindingRequest Answer BindingError Nat InMemoryBindings AguiThreadBinding where
  state := empty
  thread actor := serve (requests actor)

end InMemoryBindings

end AgentHarness.Agui
