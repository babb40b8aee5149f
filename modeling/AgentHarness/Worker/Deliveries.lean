import AgentHarness.Worker.Actors

/-!
Any number of tasks of any number of processes that share one durable queue.
-/

namespace AgentHarness

open Interaction Program Ports Function RunWorker TaskQueue RunPlatform

/-- What a task does with the queue; it settles and renews the payload that it was
delivered last. -/
inductive QueueRequest where
  | enqueue (payload : String)
  | dequeue
  | acknowledge
  | retry
  | extendLease

namespace Deliveries

def onHeld (held : Option String) (action : String → RunProgram Unit) :
  RunProgram (Option String) :=
  match held with
  | none => done none
  | some payload => (action payload).bind fun _ => done (some payload)

def serve (held : Option String) : QueueRequest → RunProgram (Option String)
  | .enqueue payload => (call (.enqueue payload)).bind fun _ => done held
  | .dequeue => takeTask
  | .acknowledge => onHeld held RunWorker.acknowledge
  | .retry => onHeld held RunWorker.retry
  | .extendLease => onHeld held RunWorker.extendLease

def task (held : Option String) : List QueueRequest → RunProgram Unit
  | [] => done ()
  | request :: rest =>
    ((serve held request).catching fun _ => done held).bind fun later => task later rest

def pool (requests : Nat → List QueueRequest) : Pool RunOp RunOp.Answer Failure Nat RunStore Unit where
  state := RunStore.created 0 none
  thread actor := task none (requests actor)

def OwnReceipt (platform : RunPlatform) (store : RunStore) (actor : Nat) (op : RunOp)
  (_ : RunInput) : Prop :=
  match op with
  | .popReceipt payload | .readReceipt payload =>
    ∀ receipt, (store.receipts (platform.process actor)).get? payload = some receipt →
      store.history.leases actor = some receipt
  | _ => True

def settled : RunOp → Option String
  | .acknowledge payload _ | .retry payload _ | .extendLease payload _ => some payload
  | _ => none

def Current (store : RunStore) (actor : Nat) (payload : String) : Prop :=
  ∃ receipt, store.queue.receipts.get? payload = some receipt ∧
    store.history.leases actor = some receipt

/-- What a call may do to the queue: a settling or renewing script changes it for the
current delivery only, and only such an acknowledgement takes a payload out. -/
structure Lawful (platform : RunPlatform) (store : RunStore) (actor : Nat) (op : RunOp)
    (input : RunInput) : Prop where
  current : ∀ payload, settled op = some payload →
    (platform.respond actor input store op).2.queue ≠ store.queue → Current store actor payload
  kept : ∀ payload ∈ store.queue.pending,
    payload ∈ (platform.respond actor input store op).2.queue.pending ∨
      (∃ receipt, op = .acknowledge payload receipt) ∧ Current store actor payload

abbrev Taken := Option (String × Option Nat)

def contract : Contract RunOp RunOp.Answer Failure Taken where
  allowed taken op :=
    match op with
    | .acknowledge payload receipt | .retry payload receipt | .extendLease payload receipt =>
      taken = some (payload, receipt)
    | _ => True
  learns taken op answer later :=
    match op, answer with
    | .popReceipt payload, .ok receipt => later = some (payload, receipt)
    | .readReceipt payload, .ok receipt => later = some (payload, receipt)
    | .dequeue, _ => later = none
    | _, _ => later = taken

structure Authentic (store : RunStore) (taken : Nat → Taken) : Prop where
  sound : store.queue.Sound
  own : ∀ actor payload receipt, taken actor = some (payload, some receipt) →
    store.history.leases actor = some receipt

section

variable {taken : Taken} {α : Type}

def Careful (program : RunProgram α) : Prop :=
  ∀ taken, program.wp contract (fun _ _ => True) (fun _ _ => True) taken

theorem careful_take : Careful takeTask := by
  intro taken
  simp only [takeTask, wp_do, wp_perform]
  refine ⟨trivial, fun delivery later _ => ?_, fun _ _ _ => trivial⟩
  cases delivery with
  | none => exact trivial
  | some delivery =>
    simp only [wp_bind, wp_perform, wp_done]
    exact ⟨trivial, fun _ _ _ => trivial, fun _ _ _ => trivial⟩

theorem careful_onHeld (held : Option String) {action : String → RunProgram Unit}
  (careful : ∀ payload, Careful (action payload)) : Careful (onHeld held action) := by
  intro taken
  cases held with
  | none => exact trivial
  | some payload =>
    simp only [onHeld, wp_bind, wp_done]
    exact careful payload taken

variable (payload : String)

theorem careful_acknowledge : Careful (RunWorker.acknowledge payload) := by
  intro taken
  simp only [RunWorker.acknowledge, wp_do, wp_perform]
  refine ⟨trivial, fun receipt later learned => ?_, fun _ _ _ => trivial⟩
  exact ⟨learned, fun _ _ _ => trivial, fun _ _ _ => trivial⟩

theorem careful_retry : Careful (RunWorker.retry payload) := by
  intro taken
  simp only [RunWorker.retry, wp_do, wp_perform]
  refine ⟨trivial, fun receipt later learned => ?_, fun _ _ _ => trivial⟩
  exact ⟨learned, fun _ _ _ => trivial, fun _ _ _ => trivial⟩

theorem careful_extendLease : Careful (RunWorker.extendLease payload) := by
  intro taken
  simp only [RunWorker.extendLease, wp_do, wp_perform]
  refine ⟨trivial, fun receipt later learned => ?_, fun _ _ _ => trivial⟩
  exact ⟨learned, fun _ _ _ => trivial, fun _ _ _ => trivial⟩

theorem careful_serve (held : Option String) (request : QueueRequest) :
  Careful (serve held request) := by
  cases request with
  | enqueue payload =>
    intro taken
    simp only [serve, wp_bind, wp_perform, wp_done]
    exact ⟨trivial, fun _ _ _ => trivial, fun _ _ _ => trivial⟩
  | dequeue => exact careful_take
  | acknowledge => exact careful_onHeld held careful_acknowledge
  | retry => exact careful_onHeld held careful_retry
  | extendLease => exact careful_onHeld held careful_extendLease

theorem careful_task (requests : List QueueRequest) (held : Option String) :
  Careful (task held requests) := by
  induction requests generalizing held with
  | nil => exact fun _ => trivial
  | cons request rest ih =>
    intro taken
    rw [task, wp_bind, wp_catching]
    refine wp_mono (careful_serve held request taken) ?_ ?_
    · intro later value _
      exact ih value later
    intro later _ _
    exact ih held later

end

section

variable {platform : RunPlatform} {store : RunStore} {taken : Nat → Taken} {op : RunOp}
  {payload : String} {actor : Nat}

theorem authentic_dequeue (authentic : Authentic store taken) (actor : Nat) (input : RunInput) :
  Authentic (platform.respond actor input store .dequeue).2
    (update taken actor none) := by
  refine ⟨platform.respond_sound actor input authentic.sound _, ?_⟩
  intro other payload receipt present
  by_cases same : other = actor
  · subst other
    rw [update_self] at present
    cases present
  rw [update_of_ne same] at present
  have before := authentic.own other payload receipt present
  rcases platform.respond_state actor input store .dequeue with unchanged | changed
  · rw [unchanged]
    exact before
  rw [changed, platform.answer_leases]
  exact (update_of_ne same _ _).trans before

theorem respond_leases (other : op ≠ .dequeue) (actor : Nat) (input : RunInput) (store : RunStore) :
  (platform.respond actor input store op).2.history.leases = store.history.leases := by
  rcases platform.respond_state actor input store op with unchanged | changed
  · rw [unchanged]
  rw [changed, platform.answer_leases]
  cases op with
  | dequeue => exact absurd rfl other
  | _ => rfl

theorem authentic_keep (platform : RunPlatform) (authentic : Authentic store taken)
  (other : op ≠ .dequeue) (actor : Nat) (input : RunInput) :
  Authentic (platform.respond actor input store op).2
    (update taken actor (taken actor)) := by
  rw [update_eq_self]
  refine ⟨platform.respond_sound actor input authentic.sound _, ?_⟩
  rw [respond_leases other]
  exact authentic.own

theorem authentic_take (authentic : Authentic store taken) (other : op ≠ .dequeue)
  (actor : Nat) (input : RunInput) {receipt : Option Nat}
  (own : ∀ found, receipt = some found → store.history.leases actor = some found) :
  Authentic (platform.respond actor input store op).2
    (update taken actor (some (payload, receipt))) := by
  refine ⟨platform.respond_sound actor input authentic.sound _, ?_⟩
  rw [respond_leases other]
  intro third about found present
  by_cases same : third = actor
  · subst third
    rw [update_self] at present
    cases present
    exact own found rfl
  rw [update_of_ne same] at present
  exact authentic.own third about found present

theorem adheres :
  Pool.Adheres platform.component (fun _ => contract) Authentic (OwnReceipt platform) := by
  intro store taken actor op input authentic guarded _
  cases op with
  | dequeue => exact ⟨none, rfl, authentic_dequeue authentic actor input⟩
  | popReceipt payload | readReceipt payload =>
    refine ⟨some (payload, (store.receipts (platform.process actor)).get? payload), rfl, ?_⟩
    exact authentic_take authentic (fun impossible => by cases impossible) actor input guarded
  | _ =>
    refine ⟨taken actor, rfl, ?_⟩
    exact authentic_keep platform authentic (fun impossible => by cases impossible) actor input

theorem authentic_created (requests : Nat → List QueueRequest) :
  Authentic (pool requests).state (fun _ => none) where
  sound := sound_empty
  own _ _ _ impossible := by cases impossible

section

variable (authentic : Authentic store taken)

include authentic

theorem current_of_holds {receipt : Option Nat}
  (presented : taken actor = some (payload, receipt)) (held : store.queue.Holds payload receipt) :
  Current store actor payload := by
  obtain ⟨found, rfl⟩ := Option.isSome_iff_exists.mp held.1
  exact ⟨found, held.2, authentic.own actor payload found presented⟩

theorem current_of_change {input : RunInput} (allowed : contract.allowed (taken actor) op)
  (about : settled op = some payload)
  (changed : platform.queueAfter input store op ≠ store.queue) : Current store actor payload := by
  have settles : ∀ receipt, taken actor = some (payload, receipt) →
    store.queue.Holds payload receipt → Current store actor payload :=
    fun _ => current_of_holds authentic
  cases op with
  | acknowledge about' receipt =>
    cases about
    by_contra idle
    exact changed (if_neg fun held => idle (settles receipt allowed held))
  | retry about' receipt | extendLease about' receipt =>
    cases about
    by_contra idle
    exact changed (if_neg fun held => idle (settles receipt allowed held.1))
  | _ => cases about

theorem pending_kept (input : RunInput) (allowed : contract.allowed (taken actor) op)
  (pending : payload ∈ store.queue.pending) :
  payload ∈ (platform.queueAfter input store op).pending ∨
    (∃ receipt, op = .acknowledge payload receipt) ∧ Current store actor payload := by
  cases op with
  | enqueue other => exact .inl (pending_enqueue pending _ other)
  | dequeue =>
    refine .inl ?_
    rw [queueAfter, pending_dequeue]
    exact pending
  | acknowledge other receipt =>
    by_cases held : other = payload ∧ store.queue.Holds payload receipt
    · obtain ⟨rfl, held⟩ := held
      exact .inr ⟨⟨receipt, rfl⟩, current_of_holds authentic allowed held⟩
    exact .inl (pending_acknowledge pending fun same present => held ⟨same, present⟩)
  | retry other receipt =>
    refine .inl ?_
    rw [queueAfter, pending_retry]
    exact pending
  | extendLease other receipt =>
    refine .inl ?_
    rw [queueAfter, pending_extendLease]
    exact pending
  | _ => exact .inl pending

theorem lawful_of_authentic (input : RunInput)
  (allowed : contract.allowed (taken actor) op) : Lawful platform store actor op input := by
  constructor
  · intro payload about changed
    rcases platform.respond_queue actor input store op with same | same
    · exact absurd same changed
    exact current_of_change authentic allowed about (same ▸ changed)
  intro payload pending
  rcases platform.respond_queue actor input store op with same | same
  · exact .inl (same ▸ pending)
  rw [same]
  exact pending_kept authentic input allowed pending

end

/-- Whatever the tasks do, every pending payload is ready or leased and never both, no
payload gets lost, and only the current delivery of a payload settles or renews it, as
long as no process presents the receipt of a later delivery. -/
theorem settled_by_current_delivery (platform : RunPlatform)
  (requests : Nat → List QueueRequest) (schedule : List (Nat × RunInput))
  (own : (pool requests).Along platform.component (OwnReceipt platform) schedule) :
  let reached := (pool requests).run platform.component schedule
  reached.state.queue.Sound ∧ ∀ actor op next, reached.thread actor = .call op next →
      ∀ input, Lawful platform reached.state actor op input := by
  have ready : (pool requests).Ready (fun _ => contract) Authentic
    (fun _ _ _ => True) (fun _ _ _ => True) (fun _ => none) :=
    ⟨authentic_created requests, fun actor => careful_task (requests actor) none none⟩
  obtain ⟨taken, authentic, threads⟩ := Pool.run_ready adheres ready schedule own
  refine ⟨authentic.sound, ?_⟩
  intro actor op next calls input
  have allowed := threads actor
  rw [calls] at allowed
  exact lawful_of_authentic authentic input allowed.1

end

section

def sharedProcess : RunPlatform where
  process _ := 0
  generatedId kind _ := kind
  task := "run-1"

def deliveredTwice : Nat → List QueueRequest
  | 0 => [.enqueue "run-1", .dequeue, .acknowledge]
  | 1 => [.dequeue]
  | _ => []

/-- The second task takes over once the lease of the first has run out; then the first
one acknowledges. -/
def takenOver : List (Nat × RunInput) :=
  [(0, {}), (0, {}), (0, {}), (1, { now := 100 }), (1, { now := 100 }), (0, { now := 101 })]

theorem settled_by_stale_delivery : ∃ platform requests schedule actor op input,
  let reached := (pool requests).run platform.component schedule
  (∃ next, reached.thread actor = .call op next) ∧
    ¬ Lawful platform reached.state actor op input := by
  refine ⟨sharedProcess, deliveredTwice, takenOver, 0, .acknowledge "run-1" (some 1),
    { now := 101 }, ⟨_, rfl⟩, ?_⟩
  intro lawful
  obtain ⟨receipt, leased, delivered⟩ :=
    lawful.current "run-1" rfl fun same => absurd (congrArg TaskQueue.pending same) (by decide)
  cases leased
  cases delivered

end

theorem settled_by_first_delivery :
  let reached := (pool fun _ => [.enqueue "run-1", .dequeue, .extendLease, .acknowledge]).run
    sharedProcess.component (List.replicate 7 (0, {}))
  reached.state.queue.Sound ∧ ∀ actor op next, reached.thread actor = .call op next →
      ∀ input, Lawful sharedProcess reached.state actor op input :=
  settled_by_current_delivery sharedProcess _ (List.replicate 7 (0, {}))
    ⟨fun _ _ calls => by cases calls; trivial, fun _ _ calls => by cases calls; trivial,
      fun _ _ calls => by cases calls; trivial, fun _ _ calls => by cases calls; exact fun _ => id,
      fun _ _ calls => by cases calls; trivial, fun _ _ calls => by cases calls; exact fun _ => id,
      fun _ _ calls => by cases calls; trivial, trivial⟩

end Deliveries

end AgentHarness
