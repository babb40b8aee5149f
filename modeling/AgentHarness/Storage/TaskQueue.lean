import AgentHarness.Collections.Dict

/-!
The durable task queue and its scripts, each of which runs atomically.
-/

namespace AgentHarness

open Collections Dict List Option

structure TaskQueue where
  pending : List String := []
  ready : Dict String Nat := Dict.empty
  processing : Dict String Nat := Dict.empty
  receipts : Dict String Nat := Dict.empty

namespace TaskQueue

def enqueue (queue : TaskQueue) (now : Nat) (payload : String) : TaskQueue :=
  if payload ∈ queue.pending then queue
  else
    { queue with
      pending := queue.pending ++ [payload], ready := queue.ready.set payload now }

/-- One expired lease of `_DEQUEUE` goes back to the ready set. -/
def redeliver (now : Nat) (queue : TaskQueue) (payload : String) : TaskQueue :=
  { queue with
    processing := queue.processing.erase payload, receipts := queue.receipts.erase payload
    ready := queue.ready.set payload now }

def expired (queue : TaskQueue) (now : Nat) : List String :=
  (queue.processing.entries.filter fun entry => entry.2 ≤ now).map Prod.fst

def earliest : List (String × Nat) → Option (String × Nat)
  | [] => none
  | entry :: rest =>
    match earliest rest with
    | none => some entry
    | some best =>
      if best.2 < entry.2 ∨ best.2 = entry.2 ∧ best.1 < entry.1 then some best else some entry

def firstReady (queue : TaskQueue) (now : Nat) : Option String :=
  (earliest (queue.ready.entries.filter fun entry => entry.2 ≤ now)).map Prod.fst

def lease (queue : TaskQueue) (payload : String) (leaseEnd receipt : Nat) : TaskQueue :=
  { queue with
    ready := queue.ready.erase payload, processing := queue.processing.set payload leaseEnd
    receipts := queue.receipts.set payload receipt }

def dequeue (queue : TaskQueue) (now visibility receipt : Nat) : Option String × TaskQueue :=
  let recovered := (queue.expired now).foldl (redeliver now) queue
  match recovered.firstReady now with
  | none => (none, recovered)
  | some payload => (some payload, recovered.lease payload (now + visibility) receipt)

def Holds (queue : TaskQueue) (payload : String) (receipt : Option Nat) : Prop :=
  receipt.isSome ∧ queue.receipts.get? payload = receipt

instance (queue : TaskQueue) (payload : String) (receipt : Option Nat) :
  Decidable (queue.Holds payload receipt) :=
  inferInstanceAs (Decidable (_ ∧ _))

def acknowledge (queue : TaskQueue) (payload : String) (receipt : Option Nat) : TaskQueue :=
  if queue.Holds payload receipt then
    { queue with
      processing := queue.processing.erase payload, receipts := queue.receipts.erase payload
      pending := queue.pending.filter (· ≠ payload) }
  else queue

def retry (queue : TaskQueue) (now delay : Nat) (payload : String) (receipt : Option Nat) :
  TaskQueue :=
  if queue.Holds payload receipt ∧ (queue.processing.get? payload).isSome then
    { queue with
      processing := queue.processing.erase payload, receipts := queue.receipts.erase payload
      ready := queue.ready.set payload (now + delay) }
  else queue

def extendLease (queue : TaskQueue) (now visibility : Nat) (payload : String)
  (receipt : Option Nat) : TaskQueue :=
  if queue.Holds payload receipt ∧ (queue.processing.get? payload).isSome then
    { queue with processing := queue.processing.set payload (now + visibility) }
  else queue

structure Sound (queue : TaskQueue) : Prop where
  pending : ∀ payload, payload ∈ queue.pending ↔
    (queue.ready.get? payload).isSome ∨ (queue.processing.get? payload).isSome
  apart : ∀ payload, (queue.ready.get? payload).isSome → queue.processing.get? payload = none
  leased : ∀ payload, (queue.receipts.get? payload).isSome ↔ (queue.processing.get? payload).isSome

section

variable (now : Nat) (payloads : List String) (queue : TaskQueue)

theorem redeliver_pending : (payloads.foldl (redeliver now) queue).pending = queue.pending := by
  induction payloads generalizing queue with
  | nil => rfl
  | cons payload rest ih => exact ih (redeliver now queue payload)

theorem redeliver_receipts (payload : String) :
  (payloads.foldl (redeliver now) queue).receipts.get? payload =
    if payload ∈ payloads then none else queue.receipts.get? payload := by
  induction payloads generalizing queue with
  | nil => rfl
  | cons first rest ih =>
    rw [foldl_cons, ih, redeliver, get?_erase]
    by_cases same : payload = first
    · simp [same]
    simp [same]

theorem redeliver_processing (payload : String) :
  (payloads.foldl (redeliver now) queue).processing.get? payload =
    if payload ∈ payloads then none else queue.processing.get? payload := by
  induction payloads generalizing queue with
  | nil => rfl
  | cons first rest ih =>
    rw [foldl_cons, ih, redeliver, get?_erase]
    by_cases same : payload = first
    · simp [same]
    simp [same]

theorem redeliver_ready (payload : String) :
  (payloads.foldl (redeliver now) queue).ready.get? payload =
    if payload ∈ payloads then some now else queue.ready.get? payload := by
  induction payloads generalizing queue with
  | nil => rfl
  | cons first rest ih =>
    rw [foldl_cons, ih, redeliver, get?_set]
    by_cases same : payload = first
    · simp [same]
    simp [same]

end

variable {now found : Nat} {payload other : String} {queue : TaskQueue} {receipt : Option Nat}

theorem mem_expired (member : payload ∈ queue.expired now) : (queue.processing.get? payload).isSome := by
  obtain ⟨⟨found, leaseEnd⟩, kept, rfl⟩ := mem_map.mp member
  rw [get?_eq_some.mpr (mem_of_mem_filter kept)]
  rfl

theorem earliest_mem {entries : List (String × Nat)} {entry : String × Nat}
  (found : earliest entries = some entry) : entry ∈ entries := by
  induction entries with
  | nil => cases found
  | cons first rest ih =>
    unfold earliest at found
    split at found
    · cases found
      exact mem_cons_self
    rename_i best tail
    split at found
    · cases found
      exact mem_cons_of_mem first (ih tail)
    cases found
    exact mem_cons_self

theorem firstReady_ready (found : queue.firstReady now = some payload) : (queue.ready.get? payload).isSome := by
  obtain ⟨⟨first, score⟩, best, rfl⟩ := map_eq_some_iff.mp found
  rw [get?_eq_some.mpr (mem_of_mem_filter (earliest_mem best))]
  rfl

theorem sound_empty : Sound {} where
  pending payload := by simp
  apart payload impossible := by cases impossible
  leased payload := by simp

section

variable (sound : queue.Sound)

include sound

theorem Sound.enqueue (now : Nat) (payload : String) : (queue.enqueue now payload).Sound := by
  unfold TaskQueue.enqueue
  split
  · exact sound
  rename_i absent
  have idle := mt (sound.pending payload).mpr absent
  refine ⟨fun other => ?_, fun other => ?_, fun other => sound.leased other⟩
  · rw [get?_set, mem_append, mem_singleton, sound.pending other]
    by_cases same : other = payload
    · simp [same]
    simp [same]
  rw [get?_set]
  by_cases same : other = payload
  · subst other
    intro _
    exact not_isSome_iff_eq_none.mp fun leased => idle (.inr leased)
  rw [if_neg same]
  exact sound.apart other

theorem Sound.recover (now : Nat) : ((queue.expired now).foldl (redeliver now) queue).Sound := by
  refine ⟨fun payload => ?_, fun payload => ?_, fun payload => ?_⟩
  · rw [redeliver_pending, redeliver_ready, redeliver_processing, sound.pending]
    by_cases member : payload ∈ queue.expired now
    · simp [member, mem_expired member]
    simp [member]
  · rw [redeliver_ready, redeliver_processing]
    by_cases member : payload ∈ queue.expired now
    · simp [member]
    simpa [member] using sound.apart payload
  rw [redeliver_receipts, redeliver_processing]
  by_cases member : payload ∈ queue.expired now
  · simp [member]
  simpa [member] using sound.leased payload

theorem Sound.lease (ready : (queue.ready.get? payload).isSome) (leaseEnd receipt : Nat) :
  (queue.lease payload leaseEnd receipt).Sound := by
  refine ⟨fun other => ?_, fun other => ?_, fun other => ?_⟩
  · rw [TaskQueue.lease, get?_erase, get?_set, sound.pending]
    by_cases same : other = payload
    · simp [same, ready]
    simp [same]
  · rw [TaskQueue.lease, get?_erase, get?_set]
    by_cases same : other = payload
    · simp [same]
    simpa [same] using sound.apart other
  rw [TaskQueue.lease, get?_set, get?_set]
  by_cases same : other = payload
  · simp [same]
  simpa [same] using sound.leased other

theorem Sound.dequeue (now visibility receipt : Nat) :
  (queue.dequeue now visibility receipt).2.Sound := by
  unfold TaskQueue.dequeue
  dsimp only
  split
  · exact sound.recover now
  rename_i found
  exact (sound.recover now).lease (firstReady_ready found) _ _

theorem Sound.acknowledge_held (payload : String)
  (leased : (queue.processing.get? payload).isSome) :
  Sound { queue with
    processing := queue.processing.erase payload, receipts := queue.receipts.erase payload
    pending := queue.pending.filter (· ≠ payload) } := by
  have idle : queue.ready.get? payload = none := by
    refine not_isSome_iff_eq_none.mp fun ready => ?_
    rw [sound.apart payload ready] at leased
    cases leased
  refine ⟨fun other => ?_, fun other => ?_, fun other => ?_⟩
  · rw [get?_erase, mem_filter, sound.pending]
    by_cases same : other = payload
    · simp [same, idle]
    simp [same]
  · rw [get?_erase]
    by_cases same : other = payload
    · simp [same]
    simpa [same] using sound.apart other
  rw [get?_erase, get?_erase]
  by_cases same : other = payload
  · simp [same]
  simpa [same] using sound.leased other

theorem Holds.leased (held : queue.Holds payload receipt) :
  (queue.processing.get? payload).isSome :=
  (sound.leased payload).mp (held.2 ▸ held.1)

theorem Sound.acknowledge (payload : String) (receipt : Option Nat) :
  (queue.acknowledge payload receipt).Sound := by
  unfold TaskQueue.acknowledge
  split
  · rename_i held
    exact sound.acknowledge_held payload (held.leased sound)
  exact sound

theorem Sound.retry (now delay : Nat) (payload : String) (receipt : Option Nat) :
  (queue.retry now delay payload receipt).Sound := by
  unfold TaskQueue.retry
  split
  · rename_i held
    refine ⟨fun other => ?_, fun other => ?_, fun other => ?_⟩
    · rw [get?_erase, get?_set, sound.pending]
      by_cases same : other = payload
      · simp [same, held.2]
      simp [same]
    · rw [get?_erase, get?_set]
      by_cases same : other = payload
      · simp [same]
      simpa [same] using sound.apart other
    rw [get?_erase, get?_erase]
    by_cases same : other = payload
    · simp [same]
    simpa [same] using sound.leased other
  exact sound

theorem Sound.extendLease (now visibility : Nat) (payload : String) (receipt : Option Nat) :
  (queue.extendLease now visibility payload receipt).Sound := by
  unfold TaskQueue.extendLease
  split
  · rename_i held
    have same : ∀ other, ((queue.processing.set payload (now + visibility)).get? other).isSome =
      (queue.processing.get? other).isSome := by
      intro other
      rw [get?_set]
      by_cases equal : other = payload
      · simp [equal, held.2]
      simp [equal]
    refine ⟨fun other => ?_, fun other ready => ?_, fun other => ?_⟩
    · rw [sound.pending, same]
    · have free := sound.apart other ready
      have still := same other
      rw [free, isSome_none] at still
      exact not_isSome_iff_eq_none.mp (by rw [still]; decide)
    rw [sound.leased, same]
  exact sound

end

theorem enqueue_pending (queue : TaskQueue) (now : Nat) (payload : String) :
  payload ∈ (queue.enqueue now payload).pending := by
  unfold enqueue
  split
  · assumption
  exact mem_append_right _ (mem_singleton_self payload)

theorem pending_enqueue (pending : payload ∈ queue.pending) (now : Nat) (other : String) :
  payload ∈ (queue.enqueue now other).pending := by
  unfold enqueue
  split
  · exact pending
  exact mem_append_left _ pending

@[simp] theorem receipts_enqueue (queue : TaskQueue) (now : Nat) (payload : String) :
  (queue.enqueue now payload).receipts = queue.receipts := by
  unfold enqueue
  split <;> rfl

@[simp] theorem pending_dequeue (queue : TaskQueue) (now visibility receipt : Nat) :
  (queue.dequeue now visibility receipt).2.pending = queue.pending := by
  unfold dequeue
  dsimp only
  split
  · exact redeliver_pending now _ queue
  exact redeliver_pending now _ queue

theorem receipts_dequeue {visibility receipt : Nat}
  (leased : (queue.dequeue now visibility receipt).2.receipts.get? payload = some found) :
  (queue.dequeue now visibility receipt).1 = some payload ∧ found = receipt ∨
    queue.receipts.get? payload = some found := by
  have before : ∀ found,
    ((queue.expired now).foldl (redeliver now) queue).receipts.get? payload = some found →
      queue.receipts.get? payload = some found := by
    intro found present
    rw [redeliver_receipts] at present
    by_cases member : payload ∈ queue.expired now
    · rw [if_pos member] at present
      cases present
    rwa [if_neg member] at present
  unfold dequeue at leased ⊢
  dsimp only at leased ⊢
  split at leased
  · exact .inr (before found leased)
  rename_i taken _
  rw [lease, get?_set] at leased
  by_cases same : payload = taken
  · subst payload
    rw [if_pos rfl] at leased
    exact .inl ⟨rfl, (some.inj leased).symm⟩
  rw [if_neg same] at leased
  exact .inr (before found leased)

theorem pending_acknowledge (pending : payload ∈ queue.pending)
  (spared : other = payload → ¬ queue.Holds payload receipt) :
  payload ∈ (queue.acknowledge other receipt).pending := by
  unfold acknowledge
  split
  · rename_i held
    refine mem_filter.mpr ⟨pending, ?_⟩
    simp only [decide_eq_true_eq]
    intro same
    exact spared same.symm (same ▸ held)
  exact pending

theorem receipts_acknowledge
  (leased : (queue.acknowledge other receipt).receipts.get? payload = some found) :
  queue.receipts.get? payload = some found := by
  unfold acknowledge at leased
  split at leased
  · exact get?_of_erase leased
  exact leased

@[simp] theorem pending_retry (queue : TaskQueue) (now delay : Nat) (payload : String)
  (receipt : Option Nat) : (queue.retry now delay payload receipt).pending = queue.pending := by
  unfold retry
  split <;> rfl

theorem receipts_retry {delay : Nat}
  (leased : (queue.retry now delay other receipt).receipts.get? payload = some found) :
  queue.receipts.get? payload = some found := by
  unfold retry at leased
  split at leased
  · exact get?_of_erase leased
  exact leased

@[simp] theorem pending_extendLease (queue : TaskQueue) (now visibility : Nat)
  (payload : String) (receipt : Option Nat) :
  (queue.extendLease now visibility payload receipt).pending = queue.pending := by
  unfold extendLease
  split <;> rfl

@[simp] theorem receipts_extendLease (queue : TaskQueue) (now visibility : Nat)
  (payload : String) (receipt : Option Nat) :
  (queue.extendLease now visibility payload receipt).receipts = queue.receipts := by
  unfold extendLease
  split <;> rfl

end TaskQueue

end AgentHarness
