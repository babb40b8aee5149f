import Mathlib.Data.List.Sort
import AgentHarness.Core.Ports
import AgentHarness.Interaction.Pool
import AgentHarness.Storage.TaskQueue

/-!
The durable state around one Run, and how it answers each operation.

The stores take effect atomically, one operation at a time.  Besides what the
stores hold, the state keeps a history of the run so far that no component can
read: who wrote the status last, who may still announce it, and the like.
-/

namespace AgentHarness

open Collections Interaction Function

structure RunPlatform where
  process : Nat → Nat := id
  generatedId : String → Nat → String
  visibilityTimeout : Nat := 60
  retryDelay : Nat := 1
  task : String

structure RunHistory where
  /-- The actor that wrote the stored Run and the place it wrote it from. -/
  writer : Option (Nat × WriteSite) := none
  /-- The actor that wrote the terminal status or has claimed its repair since. -/
  announcer : Option Nat := none
  /-- Another actor has appended a subagent event since this one listed the events. -/
  overtaken : Nat → Bool := fun _ => false
  /-- The actor's search for a tool call has found a pending approval. -/
  adopted : Nat → Bool := fun _ => false
  /-- The receipt that the actor's last dequeue was given. -/
  leases : Nat → Option Nat := fun _ => none
  /-- The resumed Run has been enqueued and no status was written since. -/
  awaited : Bool := false
  touched : Nat → Bool := fun _ => false

structure RunStore where
  run : Run
  events : List RunEvent := []
  approvals : Dict String ApprovalRequest := Dict.empty
  incident : Option ReliabilityIncident := none
  queue : TaskQueue := {}
  generated : Nat := 0
  /-- `_inline_waiters` of each process, with the result of each future that is done. -/
  waiters : Nat → Dict String (Option ApprovalStatus) := fun _ => Dict.empty
  /-- `_receipts` of each process. -/
  receipts : Nat → Dict String Nat := fun _ => Dict.empty
  history : RunHistory := {}

inductive Fault where
  | none
  | before (outage : Outage)
  | after (outage : Outage)

/-- What the environment contributes to one step: the time, an outage that strikes before
the call takes effect or after it, and the answers that do not come from the stores. -/
structure RunInput where
  now : Nat := 0
  fault : Fault := .none
  /-- Rows of other Runs fill the batch. -/
  crowded : Bool := false
  intervals : Nat := 0
  handle : SandboxHandle := {}
  policy : PolicyResolution := .engine ⟨[]⟩
  workspacePolicy : WorkspacePolicy := {}
  restored : Bool := false
  staged : Nat := 0
  outputs : List (String × Bool) := []
  stream : RuntimeStream := { events := [], ending := { yields := .ok () } }

namespace RunHistory

def touch (history : RunHistory) (actor : Nat) : RunHistory :=
  { history with touched := update history.touched actor true }

end RunHistory

namespace RunStore

variable (store : RunStore)

/-- `compare_and_set`: the row is written if it has the expected status and the token
before the new one. -/
def accepts (expected : RunStatus) (updated : Run) : Prop :=
  store.run.status = expected ∧ store.run.fencingToken + 1 = updated.fencingToken

instance (store : RunStore) (expected : RunStatus) (updated : Run) :
  Decidable (store.accepts expected updated) :=
  inferInstanceAs (Decidable (_ ∧ _))

def write (store : RunStore) (actor : Nat) (site : WriteSite) (updated : Run) : RunStore :=
  { store with
    run := updated
    history :=
      { store.history.touch actor with
        writer := some (actor, site)
        announcer := if updated.status.isTerminal then some actor else store.history.announcer
        awaited := false } }

def writeApproval (actor : Nat) (approval : ApprovalRequest) : RunStore :=
  { store with
    approvals := store.approvals.set approval.approvalId approval
    history := store.history.touch actor }

def append (actor : Nat) (event : RunEvent) : RunStore :=
  { store with
    events := store.events ++ [event]
    history :=
      { store.history with
        overtaken := fun other =>
          if event.subagent.isSome ∧ other ≠ actor then true
          else store.history.overtaken other } }

def resumedByApproval : Prop :=
  store.run.status = .running ∧ store.history.writer.map Prod.snd = some .approvalResume

instance (store : RunStore) : Decidable store.resumedByApproval :=
  inferInstanceAs (Decidable (_ ∧ _))

def expiredPending (expiresAtOrBefore limit : Nat) : List ApprovalRequest :=
  ((store.approvals.values.filter (fun approval =>
      approval.status = .pending ∧ approval.expiresAt ≤ expiresAtOrBefore)).insertionSort
    fun first second => first.expiresAt ≤ second.expiresAt).take limit

/-- `try_claim_incident`: an open incident without a running lease. -/
def claimable (claimedAt : Nat) : Option ReliabilityIncident :=
  store.incident.filter (fun incident =>
    incident.status = .open ∧ ∀ leaseEnd ∈ incident.recoveryLeaseExpiresAt, leaseEnd ≤ claimedAt)

end RunStore

abbrev RunPool := Pool RunOp RunOp.Answer Failure Nat RunStore Unit

namespace RunPlatform

variable (platform : RunPlatform)

def answer (actor : Nat) (input : RunInput) (store : RunStore) :
    (op : RunOp) → Except Failure op.Answer × RunStore
  | .clock => (.ok input.now, store)
  | .generateId kind =>
    (.ok (platform.generatedId kind store.generated),
      { store with generated := store.generated + 1 })
  | .getRun _ => (.ok store.run, store)
  | .compareAndSet site expected updated =>
    if store.accepts expected updated then (.ok true, store.write actor site updated)
    else (.ok false, store)
  | .listStale status updatedAtOrBefore =>
    (.ok (if ¬ input.crowded ∧ store.run.status = status ∧
        store.run.updatedAt ≤ updatedAtOrBefore then [store.run] else []), store)
  | .appendEvent _ event => (.ok (), store.append actor event)
  | .listEvents =>
    (.ok store.events,
      { store with
        history :=
          { store.history with
            overtaken := update store.history.overtaken actor false } })
  | .addApproval approval =>
    if store.approvals.get? approval.approvalId ≠ none ∨
        store.approvals.values.any (fun other => other.toolCallId = approval.toolCallId) then
      (.error (.conflict .approvalExists), store)
    else
      (.ok (), store.writeApproval actor approval)
  | .getApproval approvalId =>
    match store.approvals.get? approvalId with
    | none => (.error .notFound, store)
    | some approval => (.ok approval, store)
  | .findByToolCall toolCallId =>
    let found := store.approvals.values.find? (fun approval => approval.toolCallId = toolCallId)
    (.ok found,
      { store with
        history :=
          { store.history with
            adopted := update store.history.adopted actor
              (store.history.adopted actor ||
                found.any fun approval => approval.status = .pending) } })
  | .compareAndSetApproval expected updated =>
    match store.approvals.get? updated.approvalId with
    | none => (.error .notFound, store)
    | some current =>
      if current.status = expected then (.ok true, store.writeApproval actor updated)
      else (.ok false, store)
  | .listExpiredPending expiresAtOrBefore limit =>
    (.ok (store.expiredPending expiresAtOrBefore limit), store)
  | .registerWaiter approvalId =>
    let process := platform.process actor
    (.ok (),
      { store with
        waiters := update store.waiters process
          ((store.waiters process).setDefault approvalId none) })
  | .hasWaiter approvalId =>
    (.ok ((store.waiters (platform.process actor)).get? approvalId).isSome, store)
  | .resolveWaiter approvalId status =>
    let process := platform.process actor
    let registered := store.waiters process
    let resolved :=
      match registered.get? approvalId with
      | some none => registered.set approvalId (some status)
      | _ => registered
    (.ok (), { store with waiters := update store.waiters process resolved })
  | .readWaiter approvalId =>
    (.ok ((store.waiters (platform.process actor)).get? approvalId), store)
  | .dropWaiter approvalId =>
    let process := platform.process actor
    (.ok (),
      { store with
        waiters := update store.waiters process
          ((store.waiters process).erase approvalId) })
  | .getIncident => (.ok store.incident, store)
  | .upsertIncident incident => (.ok (), { store with incident := some incident })
  | .tryClaimIncident owner claimedAt leaseExpiresAt =>
    match store.claimable claimedAt with
    | none => (.ok none, store)
    | some incident =>
      let claimed :=
        { incident with
          recoveryOwner := some owner, recoveryLeaseExpiresAt := some leaseExpiresAt
          recoveryAttempts := incident.recoveryAttempts + 1, updatedAt := claimedAt }
      (.ok (some claimed),
        { store with
          incident := some claimed, history := { store.history with announcer := some actor } })
  | .listRecoveryIncidents =>
    (.ok (if input.crowded then []
      else (store.incident.filter fun incident => incident.status = .open).toList), store)
  | .enqueue payload =>
    (.ok (),
      { store with
        queue := store.queue.enqueue input.now payload
        history :=
          { store.history with
            awaited := store.history.awaited ||
              decide (payload = platform.task ∧ store.resumedByApproval) } })
  | .dequeue =>
    let reply := store.queue.dequeue input.now platform.visibilityTimeout store.generated
    (.ok (reply.1.map fun payload => (payload, store.generated)),
      { store with
        queue := reply.2, generated := store.generated + 1
        history :=
          { store.history with
            leases := update store.history.leases actor (some store.generated) } })
  | .rememberReceipt payload receipt =>
    let process := platform.process actor
    (.ok (),
      { store with
        receipts := update store.receipts process
          ((store.receipts process).set payload receipt) })
  | .readReceipt payload => (.ok ((store.receipts (platform.process actor)).get? payload), store)
  | .popReceipt payload =>
    let process := platform.process actor
    (.ok ((store.receipts process).get? payload),
      { store with
        receipts := update store.receipts process
          ((store.receipts process).erase payload) })
  | .acknowledge payload receipt =>
    (.ok (), { store with queue := store.queue.acknowledge payload receipt })
  | .retry payload receipt =>
    (.ok (),
      { store with
        queue := store.queue.retry input.now platform.retryDelay payload receipt })
  | .extendLease payload receipt =>
    (.ok (),
      { store with
        queue :=
          store.queue.extendLease input.now platform.visibilityTimeout payload receipt })
  | .waitIntervals => (.ok input.intervals, store)
  | .provision => (.ok input.handle, store)
  | .resolvePolicy => (.ok input.policy, store)
  | .resolveWorkspacePolicy => (.ok input.workspacePolicy, store)
  | .restoreLatest => (.ok input.restored, store)
  | .stageForRun _ => (.ok input.staged, store)
  | .workspaceOutputs => (.ok input.outputs, store)
  | .executeRuntime => (.ok input.stream, store)
  | .service _ => (.ok (), store)

def respond (actor : Nat) (input : RunInput) (store : RunStore) (op : RunOp) :
  Except Failure op.Answer × RunStore :=
  let reply := platform.answer actor input store op
  if op.isLocal then reply
  else
    match input.fault with
    | .none => reply
    | .before outage => (.error (.outage outage), store)
    | .after outage => (.error (.outage outage), reply.2)

def component : Component RunOp RunOp.Answer Failure Nat RunStore RunInput where
  respond := platform.respond

variable (actor : Nat)

theorem respond_cases (input : RunInput) (store : RunStore) (op : RunOp) :
  platform.respond actor input store op = platform.answer actor input store op ∨
    (∃ outage, platform.respond actor input store op = (.error (.outage outage), store)) ∨
    ∃ outage, platform.respond actor input store op =
    (.error (.outage outage), (platform.answer actor input store op).2) := by
  unfold respond
  split
  · exact .inl rfl
  split
  · exact .inl rfl
  · exact .inr (.inl ⟨_, rfl⟩)
  exact .inr (.inr ⟨_, rfl⟩)

def queueAfter (input : RunInput) (store : RunStore) : RunOp → TaskQueue
  | .enqueue payload => store.queue.enqueue input.now payload
  | .dequeue => (store.queue.dequeue input.now platform.visibilityTimeout store.generated).2
  | .acknowledge payload receipt => store.queue.acknowledge payload receipt
  | .retry payload receipt => store.queue.retry input.now platform.retryDelay payload receipt
  | .extendLease payload receipt =>
    store.queue.extendLease input.now platform.visibilityTimeout payload receipt
  | _ => store.queue

theorem answer_queue (input : RunInput) (store : RunStore) (op : RunOp) :
  (platform.answer actor input store op).2.queue = platform.queueAfter input store op := by
  cases op <;> simp only [answer, queueAfter, RunStore.append]
  case compareAndSet => split <;> rfl
  case addApproval => split <;> rfl
  case getApproval => split <;> rfl
  case compareAndSetApproval =>
    split
    · rfl
    split <;> rfl
  case tryClaimIncident => split <;> rfl

theorem answer_leases (input : RunInput) (store : RunStore) (op : RunOp) :
    (platform.answer actor input store op).2.history.leases =
      match op with
      | .dequeue => update store.history.leases actor (some store.generated)
      | _ => store.history.leases := by
  cases op <;> simp only [answer, RunStore.append]
  case compareAndSet => split <;> rfl
  case addApproval => split <;> rfl
  case getApproval => split <;> rfl
  case compareAndSetApproval =>
    split
    · rfl
    split <;> rfl
  case tryClaimIncident => split <;> rfl

theorem queueAfter_sound (input : RunInput) {store : RunStore} (sound : store.queue.Sound)
  (op : RunOp) : (platform.queueAfter input store op).Sound := by
  cases op with
  | enqueue payload => exact sound.enqueue _ _
  | dequeue => exact sound.dequeue _ _ _
  | acknowledge payload receipt => exact sound.acknowledge _ _
  | retry payload receipt => exact sound.retry _ _ _ _
  | extendLease payload receipt => exact sound.extendLease _ _ _ _
  | _ => exact sound

theorem respond_state (input : RunInput) (store : RunStore) (op : RunOp) :
  (platform.respond actor input store op).2 = store ∨
    (platform.respond actor input store op).2 = (platform.answer actor input store op).2 := by
  rcases platform.respond_cases actor input store op with same | ⟨_, same⟩ | ⟨_, same⟩
  · exact .inr (by rw [same])
  · exact .inl (by rw [same])
  exact .inr (by rw [same])

theorem answer_run (input : RunInput) (store : RunStore) (op : RunOp) :
  (platform.answer actor input store op).2.run = store.run ∨
    ∃ site expected updated, op = .compareAndSet site expected updated ∧
    store.accepts expected updated ∧
    (platform.answer actor input store op).2.run = updated := by
  cases op with
  | compareAndSet site expected updated =>
    simp only [RunPlatform.answer]
    split
    · rename_i accepted
      exact .inr ⟨site, expected, updated, rfl, accepted, rfl⟩
    exact .inl rfl
  | addApproval approval | getApproval approvalId =>
    simp only [RunPlatform.answer]
    split <;> exact .inl rfl
  | compareAndSetApproval expected updated =>
    simp only [RunPlatform.answer]
    split
    · exact .inl rfl
    split <;> exact .inl rfl
  | tryClaimIncident owner claimedAt leaseExpiresAt =>
    simp only [RunPlatform.answer]
    split <;> exact .inl rfl
  | _ => exact .inl rfl

theorem respond_run (input : RunInput) (store : RunStore) (op : RunOp) :
  (platform.respond actor input store op).2.run = store.run ∨
    ∃ site expected updated, op = .compareAndSet site expected updated ∧
    store.accepts expected updated ∧
    (platform.respond actor input store op).2.run = updated := by
  rcases platform.respond_state actor input store op with unchanged | changed
  · rw [unchanged]
    exact .inl rfl
  rw [changed]
  exact platform.answer_run actor input store op

theorem respond_queue (input : RunInput) (store : RunStore) (op : RunOp) :
  (platform.respond actor input store op).2.queue = store.queue ∨
    (platform.respond actor input store op).2.queue = platform.queueAfter input store op := by
  rcases platform.respond_state actor input store op with same | same
  · exact .inl (congrArg RunStore.queue same)
  refine .inr ?_
  rw [same]
  exact platform.answer_queue actor input store op

theorem respond_sound (input : RunInput) {store : RunStore}
  (sound : store.queue.Sound) (op : RunOp) :
  (platform.respond actor input store op).2.queue.Sound := by
  rcases platform.respond_queue actor input store op with same | same
  · exact same ▸ sound
  exact same ▸ platform.queueAfter_sound input sound op

open List

theorem answer_events (input : RunInput) (store : RunStore)
  (op : RunOp) : store.events <+: (platform.answer actor input store op).2.events := by
  cases op <;> simp only [answer, RunStore.append, prefix_rfl, prefix_append]
  case compareAndSet | addApproval | getApproval | tryClaimIncident =>
    split <;> exact prefix_rfl
  case compareAndSetApproval =>
    split
    · exact prefix_rfl
    split <;> exact prefix_rfl

/-- What no call can undo: the token rises with every change of the Run, and what the log has
stays in front. -/
structure Outlives (earlier later : RunStore) : Prop where
  run : Dict.Versioned Run.fencingToken earlier.run later.run
  events : earlier.events <+: later.events

instance : Trans Outlives Outlives Outlives where
  trans first second :=
    ⟨Dict.versioned_trans first.run second.run, first.events.trans second.events⟩

/-- Whatever programs share the stores, and wherever outages strike. -/
theorem stores_outlive (pool : RunPool)
  (schedule : List (Nat × RunInput)) :
  (pool.visited platform.component schedule).Pairwise Outlives := by
  refine (Pool.visited_chain_of_respond (fun _ => ⟨.inr rfl, prefix_rfl⟩) ?_ pool schedule).pairwise
  intro store actor op input
  constructor
  · rcases platform.respond_run actor input store op with same | ⟨_, _, updated, _, accepted, run⟩
    · exact .inr same
    refine .inl ?_
    change store.run.fencingToken < (platform.respond actor input store op).2.run.fencingToken
    rw [run, ← accepted.2]
    exact Nat.lt_succ_self _
  change store.events <+: (platform.respond actor input store op).2.events
  rcases platform.respond_state actor input store op with same | same
  · exact ⟨[], by rw [append_nil, same]⟩
  rw [same]
  exact platform.answer_events actor input store op

end RunPlatform

end AgentHarness
