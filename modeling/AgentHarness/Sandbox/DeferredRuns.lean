import AgentHarness.Sandbox.DeferredConduct

/-!
Every remote sandbox is given back, every slot is released and every change is collected, as long
as two things never happen.

A handle must not be destroyed while a task is still getting its lease a remote sandbox, for the
task would store the sandbox in a lease that nobody looks up again.  And a command that changes
files must be one of those that `_may_mutate_workspace` recognises.
-/

namespace AgentHarness.Deferred

open Collections Interaction Dict Function List DeferredState Option

variable (state : DeferredState)

def Unblocked (_ : Nat) (op : DeferredOp) (input : DeferredInput) : Prop :=
  match op with
  | .acquireSlot => input.failed = false → state.heldSlots < state.maxActiveRuns
  | .enter lease => input.failed = false → state.held.get? lease = none
  | _ => True

def Harmless (op : DeferredOp) (input : DeferredInput) : Prop :=
  match op with
  | .popLease sandboxId =>
    ∀ lease ∈ state.leases.get? sandboxId, ∀ task ∈ state.getting, task.2 ≠ lease
  | .executeRemote _ _ argv => mayMutateWorkspace argv = false → input.changes = []
  | _ => True

def Orderly (actor : Nat) (op : DeferredOp) (input : DeferredInput) : Prop :=
  Unblocked state actor op input ∧ Harmless state op input

instance (state : DeferredState) (actor : Nat) (op : DeferredOp) (input : DeferredInput) :
  Decidable (Unblocked state actor op input) := by
  unfold Unblocked
  split <;> infer_instance

instance (state : DeferredState) (op : DeferredOp) (input : DeferredInput) :
  Decidable (Harmless state op input) := by
  unfold Harmless
  split <;> infer_instance

instance (state : DeferredState) (actor : Nat) (op : DeferredOp) (input : DeferredInput) :
  Decidable (Orderly state actor op input) := by
  unfold Orderly
  infer_instance

def Active (lease : Lease) : Prop := ∃ sandboxId, state.leases.get? sandboxId = some lease

def Mine (requests : Nat → DeferredRequest) (state : DeferredState) (actor : Nat)
  (lease : Lease) : Prop :=
  lease < state.nextLease ∧ ∀ sandboxId, state.leases.get? sandboxId = some lease →
    ∃ argv, requests actor = .execute sandboxId argv

def Placed (requests : Nat → DeferredRequest) (state : DeferredState) (actor : Nat) : Phase → Prop
  | .idle | .slot | .releasing => True
  | .named sandboxId => state.names.get? sandboxId = some actor ∧ state.leases.get? sandboxId = none
  | .looked lease => Mine requests state actor lease ∧ (actor, lease) ∈ state.getting
  | .inside lease => Mine requests state actor lease ∧ (actor, lease) ∈ state.getting ∧
      state.held.get? lease = some actor
  | .empty lease | .prepared lease _ =>
    Mine requests state actor lease ∧ (actor, lease) ∈ state.getting ∧
      state.held.get? lease = some actor ∧ (state.records lease).remote = none
  | .kept lease remote => Mine requests state actor lease ∧ (actor, lease) ∈ state.getting ∧
      state.held.get? lease = some actor ∧ (state.records lease).remote = some remote
  | .holding lease remote =>
    Mine requests state actor lease ∧ (state.records lease).remote = some remote
  | .marked lease remote =>
    Mine requests state actor lease ∧ (state.records lease).remote = some remote ∧
      (Active state lease → (state.records lease).workspaceMayBeDirty = true)
  | .collecting lease _ => lease < state.nextLease ∧
      ∃ changes, state.asked.get? actor = some (lease, changes) ∧
        ∀ change ∈ changes, change ∈ (state.records lease).made
  | .gathered => ∃ lease changes, lease < state.nextLease ∧
      state.asked.get? actor = some (lease, changes) ∧
        ∀ change ∈ changes, change ∈ (state.records lease).gathered
  | .removing lease _ => state.poppedBy.get? lease = some actor

def Tracked (known : Nat → Phase) (remote : Remote) (lease : Lease) : Prop :=
  lease < state.nextLease ∧ (remote ∈ state.destroyed ∨
      ((state.records lease).remote = some remote ∧
        (Active state lease ∨ ∃ actor, known actor = .removing lease remote)) ∨
      ∃ actor, known actor = .prepared lease remote)

structure Kept (requests : Nat → DeferredRequest) (state : DeferredState)
    (known : Nat → Phase) : Prop where
  slots : state.heldSlots = state.leases.countWhere (fun _ _ => true) + state.between.length
  distinct : state.between.Nodup
  between : ∀ actor, actor ∈ state.between ↔ (known actor).occupied = true
  filed : ∀ sandboxId lease, state.leases.get? sandboxId = some lease →
    lease < state.nextLease ∧ (state.names.get? sandboxId).isSome = true
  apart : ∀ sandboxId other lease, state.leases.get? sandboxId = some lease →
    state.leases.get? other = some lease → sandboxId = other
  waits : ∀ actor lease, (actor, lease) ∈ state.getting → Active state lease
  tracked : ∀ remote lease, (remote, lease) ∈ state.provisioned → Tracked state known remote lease
  popped : ∀ lease actor, state.poppedBy.get? lease = some actor →
    lease < state.nextLease ∧ ¬Active state lease
  dirty : ∀ lease, Active state lease → (state.records lease).made ≠ [] →
    (state.records lease).workspaceMayBeDirty = true ∧ (state.records lease).remote ≠ none
  placed : ∀ actor, Placed requests state actor (known actor)

/-- What the phase of a task that does not move is built on goes on to hold. -/
structure Grows (state later : DeferredState) (other : Nat) : Prop where
  nextLease : state.nextLease ≤ later.nextLease
  leases : ∀ sandboxId lease, lease < state.nextLease →
    later.leases.get? sandboxId = some lease → state.leases.get? sandboxId = some lease
  named : ∀ sandboxId, state.names.get? sandboxId = some other →
    state.leases.get? sandboxId = none →
      later.names.get? sandboxId = some other ∧ later.leases.get? sandboxId = none
  getting : ∀ lease, (other, lease) ∈ state.getting → (other, lease) ∈ later.getting
  held : ∀ lease, state.held.get? lease = some other → later.held.get? lease = some other
  empty : ∀ lease, lease < state.nextLease → state.held.get? lease = some other →
    (state.records lease).remote = none → (later.records lease).remote = none
  remote : ∀ lease remote, lease < state.nextLease →
    (state.records lease).remote = some remote → (later.records lease).remote = some remote
  dirty : ∀ lease, lease < state.nextLease → (state.records lease).workspaceMayBeDirty = true →
      (later.records lease).workspaceMayBeDirty = true
  made : ∀ lease change, lease < state.nextLease → change ∈ (state.records lease).made →
    change ∈ (later.records lease).made
  gathered : ∀ lease change, lease < state.nextLease → change ∈ (state.records lease).gathered →
    change ∈ (later.records lease).gathered
  asked : later.asked.get? other = state.asked.get? other
  poppedBy : ∀ lease, state.poppedBy.get? lease = some other →
    later.poppedBy.get? lease = some other

section

variable {requests : Nat → DeferredRequest} {state later : DeferredState} {known : Nat → Phase}
  {actor other : Nat} {phase : Phase} {lease : Lease}

theorem Grows.active (grows : Grows state later other) (old : lease < state.nextLease)
  (active : Active later lease) : Active state lease := by
  obtain ⟨sandboxId, found⟩ := active
  exact ⟨sandboxId, grows.leases sandboxId lease old found⟩

theorem Grows.mine (grows : Grows state later other)
  (mine : Mine requests state other lease) : Mine requests later other lease := by
  refine ⟨Nat.lt_of_lt_of_le mine.1 grows.nextLease, ?_⟩
  intro sandboxId found
  exact mine.2 sandboxId (grows.leases sandboxId lease mine.1 found)

theorem Grows.placed (grows : Grows state later other)
  (placed : Placed requests state other phase) : Placed requests later other phase := by
  cases phase with
  | idle | slot | releasing => trivial
  | named sandboxId => exact grows.named sandboxId placed.1 placed.2
  | looked lease => exact ⟨grows.mine placed.1, grows.getting lease placed.2⟩
  | inside lease =>
    obtain ⟨mine, getting, held⟩ := placed
    exact ⟨grows.mine mine, grows.getting lease getting, grows.held lease held⟩
  | empty lease | prepared lease _ =>
    obtain ⟨mine, getting, held, none⟩ := placed
    exact ⟨grows.mine mine, grows.getting lease getting, grows.held lease held,
      grows.empty lease mine.1 held none⟩
  | kept lease remote =>
    obtain ⟨mine, getting, held, kept⟩ := placed
    exact ⟨grows.mine mine, grows.getting lease getting, grows.held lease held,
      grows.remote lease remote mine.1 kept⟩
  | holding lease remote =>
    exact ⟨grows.mine placed.1, grows.remote lease remote placed.1.1 placed.2⟩
  | marked lease remote =>
    obtain ⟨mine, kept, dirty⟩ := placed
    exact ⟨grows.mine mine, grows.remote lease remote mine.1 kept, fun active =>
      grows.dirty lease mine.1 (dirty (grows.active mine.1 active))⟩
  | collecting lease remote =>
    obtain ⟨old, changes, asked, made⟩ := placed
    exact ⟨Nat.lt_of_lt_of_le old grows.nextLease, changes, grows.asked.trans asked,
      fun change member => grows.made lease change old (made change member)⟩
  | gathered =>
    obtain ⟨lease, changes, old, asked, gathered⟩ := placed
    exact ⟨lease, changes, Nat.lt_of_lt_of_le old grows.nextLease, grows.asked.trans asked,
      fun change member => grows.gathered lease change old (gathered change member)⟩
  | removing lease remote => exact grows.poppedBy lease placed

theorem Tracked.stays {remote : Remote} (tracked : Tracked state known remote lease)
  (nextLease : state.nextLease ≤ later.nextLease)
  (destroyed : ∀ remote ∈ state.destroyed, remote ∈ later.destroyed)
  (remotes : (state.records lease).remote = some remote →
    (later.records lease).remote = some remote) (active : Active state lease → Active later lease)
  (removing : known actor ≠ .removing lease remote)
  (prepared : known actor ≠ .prepared lease remote) :
  Tracked later (update known actor phase) remote lease := by
  have others : ∀ other, known other ≠ known actor →
    update known actor phase other = known other := by
    intro other different
    exact update_of_ne (fun same => different (congrArg known same)) ..
  obtain ⟨old, gone | ⟨kept, seen⟩ | ⟨other, here⟩⟩ := tracked
  · exact ⟨Nat.lt_of_lt_of_le old nextLease, .inl (destroyed remote gone)⟩
  · refine ⟨Nat.lt_of_lt_of_le old nextLease, .inr (.inl ⟨remotes kept, ?_⟩)⟩
    rcases seen with here | ⟨other, here⟩
    · exact .inl (active here)
    refine .inr ⟨other, ?_⟩
    rw [others other (by rw [here]; exact removing.symm), here]
  refine ⟨Nat.lt_of_lt_of_le old nextLease, .inr (.inr ⟨other, ?_⟩)⟩
  rw [others other (by rw [here]; exact prepared.symm), here]

theorem placed_update (placed : ∀ other, Placed requests state other (known other))
  (grows : ∀ other, other ≠ actor → Grows state later other)
  (own : Placed requests later actor phase) (other : Nat) :
  Placed requests later other (update known actor phase other) := by
  by_cases same : other = actor
  · subst other
    rw [update_self]
    exact own
  rw [update_of_ne same]
  exact (grows other same).placed (placed other)

theorem Kept.moves (kept : Kept requests state known)
  (heldSlots : later.heldSlots = state.heldSlots) (leases : later.leases = state.leases)
  (names : later.names = state.names) (nextLease : later.nextLease = state.nextLease)
  (between : later.between = state.between) (poppedBy : later.poppedBy = state.poppedBy)
  (occupied : phase.occupied = (known actor).occupied)
  (waits : ∀ other lease, (other, lease) ∈ later.getting → Active state lease)
  (tracked : ∀ remote lease, (remote, lease) ∈ later.provisioned →
    Tracked later (update known actor phase) remote lease)
  (dirty : ∀ lease, Active state lease → (later.records lease).made ≠ [] →
    (later.records lease).workspaceMayBeDirty = true ∧ (later.records lease).remote ≠ none)
  (grows : ∀ other, other ≠ actor → Grows state later other)
  (own : Placed requests later actor phase) :
  Kept requests later (update known actor phase) := by
  have active : ∀ lease, Active later lease ↔ Active state lease := by
    intro lease
    unfold Active
    rw [leases]
  constructor
  · rw [heldSlots, leases, between]
    exact kept.slots
  · rw [between]
    exact kept.distinct
  · intro other
    rw [between, kept.between]
    by_cases same : other = actor
    · subst other
      rw [update_self, occupied]
    rw [update_of_ne same]
  · intro sandboxId lease
    rw [leases, names, nextLease]
    exact kept.filed sandboxId lease
  · intro sandboxId other lease
    rw [leases]
    exact kept.apart sandboxId other lease
  · intro other lease member
    exact (active lease).mpr (waits other lease member)
  · exact tracked
  · intro lease other
    rw [poppedBy, nextLease, active]
    exact kept.popped lease other
  · intro lease here
    exact dirty lease ((active lease).mp here)
  exact placed_update kept.placed grows own

theorem Kept.same (kept : Kept requests state known) :
  Kept requests state (update known actor (known actor)) := by
  rw [update_eq_self]
  exact kept

end

section

variable {requests : Nat → DeferredRequest} {state : DeferredState} {known : Nat → Phase}
  {actor other : Nat}

def Follows (requests : Nat → DeferredRequest) (known : Nat → Phase) (actor : Nat)
  (op : DeferredOp) (reply : Except DeferredError op.Answer × DeferredState) : Prop :=
  Foreseen op reply.1 ∧ Kept requests reply.2 (update known actor (after (known actor) op reply.1))

variable {argv : List String} {lease : Lease} {sandboxId : String} {phase : Phase} {remote : Remote}
  {input : DeferredInput} {op : DeferredOp}

theorem Kept.mine (kept : Kept requests state known)
  (found : state.leases.get? sandboxId = some lease)
  (asks : requests actor = .execute sandboxId argv) : Mine requests state actor lease := by
  refine ⟨(kept.filed sandboxId lease found).1, ?_⟩
  intro other there
  rw [kept.apart other sandboxId lease there found]
  exact ⟨argv, asks⟩

theorem Grows.refl : Grows state state other where
  nextLease := Nat.le_refl _
  leases _ _ _ found := found
  named _ named free := ⟨named, free⟩
  getting _ member := member
  held _ held := held
  empty _ _ _ none := none
  remote _ _ _ kept := kept
  dirty _ _ dirty := dirty
  made _ _ _ made := made
  gathered _ _ _ gathered := gathered
  asked := rfl
  poppedBy _ popped := popped

section

variable (kept : Kept requests state known)

include kept

theorem kept_acquired (here : known actor = .idle) : Kept requests
  { state with
    heldSlots := state.heldSlots + 1
    between := actor :: state.between } (update known actor .slot) := by
  have absent : actor ∉ state.between := by
    rw [kept.between, here]
    decide
  constructor
  · have slots := kept.slots
    dsimp only
    rw [length_cons]
    omega
  · exact nodup_cons.mpr ⟨absent, kept.distinct⟩
  · intro other
    by_cases same : other = actor
    · subst other
      simp [Phase.occupied]
    rw [update_of_ne same, ← kept.between, mem_cons]
    simp [same]
  · exact kept.filed
  · exact kept.apart
  · exact kept.waits
  · intro remote lease member
    exact (kept.tracked remote lease member).stays (Nat.le_refl _) (fun _ => id)
      id id (by rw [here]; nofun) (by rw [here]; nofun)
  · exact kept.popped
  · exact kept.dirty
  exact placed_update kept.placed (fun other _ => { Grows.refl with }) trivial

theorem between_erase (here : (known actor).occupied = true) (free : phase.occupied = false) :
  (state.between.erase actor).length + 1 = state.between.length ∧
    (state.between.erase actor).Nodup ∧
    ∀ other, other ∈ state.between.erase actor ↔
    (update known actor phase other).occupied = true := by
  have member : actor ∈ state.between := (kept.between actor).mpr here
  refine ⟨?_, kept.distinct.erase actor, ?_⟩
  · rw [length_erase_of_mem member]
    have positive := length_pos_of_mem member
    omega
  intro other
  rw [kept.distinct.mem_erase_iff, kept.between]
  by_cases same : other = actor
  · subst other
    simp [free]
  rw [update_of_ne same]
  simp [same]

theorem kept_released (here : known actor = .slot ∨ known actor = .releasing) : Kept requests
    { state with
      heldSlots := state.heldSlots - 1
      between := state.between.erase actor } (update known actor .idle) := by
  have occupied : (known actor).occupied = true := by
    rcases here with slot | releasing
    · rw [slot]; rfl
    rw [releasing]; rfl
  obtain ⟨length, distinct, between⟩ :=
    between_erase kept occupied (show Phase.idle.occupied = false from rfl)
  constructor
  · have slots := kept.slots
    dsimp only
    omega
  · exact distinct
  · exact between
  · exact kept.filed
  · exact kept.apart
  · exact kept.waits
  · intro remote lease member
    refine (kept.tracked remote lease member).stays (Nat.le_refl _) (fun _ => id)
      id id ?_ ?_
    · rcases here with slot | releasing
      · rw [slot]; nofun
      rw [releasing]; nofun
    rcases here with slot | releasing
    · rw [slot]; nofun
    rw [releasing]; nofun
  · exact kept.popped
  · exact kept.dirty
  exact placed_update kept.placed (fun other _ => { Grows.refl with }) trivial

theorem kept_named (here : known actor = .slot) (fresh : state.names.get? sandboxId = none) :
  Kept requests { state with names := state.names.set sandboxId actor }
    (update known actor (.named sandboxId)) := by
  have free : state.leases.get? sandboxId = none := by
    cases found : state.leases.get? sandboxId with
    | none => rfl
    | some lease =>
      have named := (kept.filed sandboxId lease found).2
      rw [fresh] at named
      cases named
  constructor
  · exact kept.slots
  · exact kept.distinct
  · intro other
    rw [kept.between]
    by_cases same : other = actor
    · subst other
      rw [update_self, here]
      rfl
    rw [update_of_ne same]
  · intro other lease found
    refine ⟨(kept.filed other lease found).1, ?_⟩
    rw [get?_set]
    split
    · rfl
    exact (kept.filed other lease found).2
  · exact kept.apart
  · exact kept.waits
  · intro remote lease member
    exact (kept.tracked remote lease member).stays (Nat.le_refl _) (fun _ => id)
      id id (by rw [here]; rintro ⟨⟩) (by rw [here]; rintro ⟨⟩)
  · exact kept.popped
  · exact kept.dirty
  refine placed_update kept.placed (fun other _ => { Grows.refl with named := ?_ })
    ⟨get?_set_self .., free⟩
  intro otherId named unused
  refine ⟨?_, unused⟩
  rw [get?_set_other]
  · exact named
  rintro rfl
  rw [fresh] at named
  cases named

theorem kept_stored (here : known actor = .named sandboxId) : Kept requests
  { state with
    leases := state.leases.set sandboxId state.nextLease
    records := update state.records state.nextLease {}, nextLease := state.nextLease + 1
    between := state.between.erase actor } (update known actor .idle) := by
  have placed := kept.placed actor
  rw [here] at placed
  obtain ⟨named, free⟩ := placed
  obtain ⟨length, distinct, between⟩ := between_erase kept (by rw [here]; rfl)
    (show Phase.idle.occupied = false from rfl)
  have found : ∀ other lease, (state.leases.set sandboxId state.nextLease).get? other = some lease →
        other = sandboxId ∧ lease = state.nextLease ∨
          other ≠ sandboxId ∧ state.leases.get? other = some lease := by
    intro other lease found
    rw [get?_set] at found
    by_cases same : other = sandboxId
    · subst other
      rw [if_pos rfl] at found
      exact .inl ⟨rfl, (some.inj found).symm⟩
    rw [if_neg same] at found
    exact .inr ⟨same, found⟩
  have stays : ∀ other lease, state.leases.get? other = some lease →
    (state.leases.set sandboxId state.nextLease).get? other = some lease := by
    intro other lease there
    rw [get?_set_other]
    · exact there
    rintro rfl
    rw [free] at there
    cases there
  have records : ∀ lease < state.nextLease,
    update state.records state.nextLease {} lease = state.records lease :=
    fun lease old => update_of_ne (Nat.ne_of_lt old) ..
  have grows : ∀ other, other ≠ actor → Grows state
      { state with
        leases := state.leases.set sandboxId state.nextLease
        records := update state.records state.nextLease {}, nextLease := state.nextLease + 1
        between := state.between.erase actor } other := by
    intro other different
    refine
      { Grows.refl with
        nextLease := Nat.le_succ _, leases := ?_, named := ?_, empty := ?_, remote := ?_
        dirty := ?_, made := ?_, gathered := ?_ }
    · intro otherId lease old there
      rcases found otherId lease there with ⟨_, new⟩ | ⟨_, before⟩
      · exact absurd new (Nat.ne_of_lt old)
      exact before
    · intro otherId owned unused
      refine ⟨owned, ?_⟩
      rw [get?_set_other]
      · exact unused
      rintro rfl
      exact different (some.inj (owned.symm.trans named))
    · intro lease old _ none
      dsimp only
      rw [records lease old]
      exact none
    · intro lease remote old kept
      dsimp only
      rw [records lease old]
      exact kept
    · intro lease old dirty
      dsimp only
      rw [records lease old]
      exact dirty
    · intro lease change old made
      dsimp only
      rw [records lease old]
      exact made
    intro lease change old gathered
    dsimp only
    rw [records lease old]
    exact gathered
  constructor
  · have slots := kept.slots
    have counted := @countWhere_set _ _ _ (fun _ _ => true) state.leases sandboxId
      state.nextLease
    rw [free] at counted
    simp only [Dict.weigh, any_none, any_some] at counted
    dsimp only
    simp only [Bool.false_eq_true, if_false, if_true] at counted
    omega
  · exact distinct
  · exact between
  · intro other lease there
    rcases found other lease there with ⟨rfl, rfl⟩ | ⟨_, before⟩
    · exact ⟨Nat.lt_succ_self _, by rw [named]; rfl⟩
    exact ⟨Nat.lt_succ_of_lt (kept.filed other lease before).1, (kept.filed other lease before).2⟩
  · intro first second lease there there'
    rcases found first lease there with ⟨rfl, new⟩ | ⟨_, before⟩
    · rcases found second lease there' with ⟨rfl, _⟩ | ⟨_, before'⟩
      · rfl
      exact absurd new (Nat.ne_of_lt (kept.filed second lease before').1)
    rcases found second lease there' with ⟨rfl, new⟩ | ⟨_, before'⟩
    · exact absurd new (Nat.ne_of_lt (kept.filed first lease before).1)
    exact kept.apart first second lease before before'
  · intro other lease member
    obtain ⟨otherId, there⟩ := kept.waits other lease member
    exact ⟨otherId, stays otherId lease there⟩
  · intro remote lease member
    have tracked := kept.tracked remote lease member
    refine tracked.stays (Nat.le_succ _) (fun _ => id) ?_ ?_ (by rw [here]; rintro ⟨⟩)
      (by rw [here]; rintro ⟨⟩)
    · intro kept
      dsimp only
      rw [records lease tracked.1]
      exact kept
    rintro ⟨otherId, there⟩
    exact ⟨otherId, stays otherId lease there⟩
  · intro lease other popped
    obtain ⟨old, inactive⟩ := kept.popped lease other popped
    refine ⟨Nat.lt_succ_of_lt old, ?_⟩
    rintro ⟨otherId, there⟩
    rcases found otherId lease there with ⟨_, new⟩ | ⟨_, before⟩
    · exact absurd new (Nat.ne_of_lt old)
    exact inactive ⟨otherId, before⟩
  · rintro lease ⟨otherId, there⟩ made
    rcases found otherId lease there with ⟨_, rfl⟩ | ⟨_, before⟩
    · simp at made
    have old := (kept.filed otherId lease before).1
    dsimp only at made ⊢
    rw [records lease old] at made ⊢
    exact kept.dirty lease ⟨otherId, before⟩ made
  exact placed_update kept.placed grows trivial

theorem kept_popped (here : known actor = .idle) (found : state.leases.get? sandboxId = some lease)
  (quiet : ∀ task ∈ state.getting, task.2 ≠ lease)
  (next : (∃ remote, (state.records lease).remote = some remote ∧ phase = .removing lease remote) ∨
    (state.records lease).remote = none ∧ phase = .releasing) :
  Kept requests
    { state with
      leases := state.leases.erase sandboxId, poppedBy := state.poppedBy.set lease actor
      between := actor :: state.between } (update known actor phase) := by
  have absent : actor ∉ state.between := by
    rw [kept.between, here]
    decide
  have occupied : phase.occupied = true := by
    rcases next with ⟨remote, _, rfl⟩ | ⟨_, rfl⟩
    · rfl
    rfl
  have before : ∀ other lease', (state.leases.erase sandboxId).get? other = some lease' →
    other ≠ sandboxId ∧ state.leases.get? other = some lease' := by
    intro other lease' there
    rw [get?_erase] at there
    split at there
    · cases there
    rename_i different
    exact ⟨different, there⟩
  have stays : ∀ lease', lease' ≠ lease → Active state lease' →
    ∃ other, (state.leases.erase sandboxId).get? other = some lease' := by
    rintro lease' different ⟨other, there⟩
    refine ⟨other, ?_⟩
    rw [get?_erase, if_neg]
    · exact there
    rintro rfl
    exact different (some.inj (there.symm.trans found))
  have gone : ¬∃ other, (state.leases.erase sandboxId).get? other = some lease := by
    rintro ⟨other, there⟩
    obtain ⟨different, old⟩ := before other lease there
    exact different (kept.apart other sandboxId lease old found)
  constructor
  · have slots := kept.slots
    have counted := @countWhere_erase _ _ _ (fun _ _ => true) state.leases sandboxId
    rw [found] at counted
    simp only [Dict.weigh, any_some, if_true] at counted
    dsimp only
    rw [length_cons]
    omega
  · exact nodup_cons.mpr ⟨absent, kept.distinct⟩
  · intro other
    by_cases same : other = actor
    · subst other
      simp [occupied]
    rw [update_of_ne same, ← kept.between, mem_cons]
    simp [same]
  · intro other lease' there
    exact kept.filed other lease' (before other lease' there).2
  · intro first second lease' there there'
    exact kept.apart first second lease' (before first lease' there).2
      (before second lease' there').2
  · intro other lease' member
    exact stays lease' (quiet (other, lease') member) (kept.waits other lease' member)
  · intro remote lease' member
    have tracked := kept.tracked remote lease' member
    by_cases same : lease' = lease
    · subst lease'
      obtain ⟨old, done | ⟨stored, _⟩ | ⟨other, getting⟩⟩ := tracked
      · exact ⟨old, .inl done⟩
      · refine ⟨old, .inr (.inl ⟨stored, .inr ⟨actor, ?_⟩⟩)⟩
        rw [update_self]
        rcases next with ⟨remote', stored', rfl⟩ | ⟨none, _⟩
        · rw [some.inj (stored.symm.trans stored')]
        rw [none] at stored
        cases stored
      have placed := kept.placed other
      rw [getting] at placed
      exact absurd rfl (quiet (other, lease) placed.2.1)
    exact tracked.stays (Nat.le_refl _) (fun _ => id) id
      (stays lease' same) (by rw [here]; rintro ⟨⟩) (by rw [here]; rintro ⟨⟩)
  · intro lease' other popped
    dsimp only at popped
    by_cases same : lease' = lease
    · subst lease'
      exact ⟨(kept.filed sandboxId lease found).1, gone⟩
    rw [get?_set_other _ _ same] at popped
    obtain ⟨old, inactive⟩ := kept.popped lease' other popped
    refine ⟨old, ?_⟩
    rintro ⟨otherId, there⟩
    exact inactive ⟨otherId, (before otherId lease' there).2⟩
  · rintro lease' ⟨otherId, there⟩ made
    exact kept.dirty lease' ⟨otherId, (before otherId lease' there).2⟩ made
  refine placed_update kept.placed (fun other _ =>
    { Grows.refl with
      leases := ?_, named := ?_, poppedBy := ?_ }) ?_
  · exact fun otherId lease' _ there => (before otherId lease' there).2
  · intro otherId named unused
    refine ⟨named, ?_⟩
    rw [get?_erase]
    split
    · rfl
    exact unused
  · intro lease' popped
    rw [get?_set_other]
    · exact popped
    rintro rfl
    exact (kept.popped _ _ popped).2 ⟨sandboxId, found⟩
  rcases next with ⟨remote, _, rfl⟩ | ⟨_, rfl⟩
  · exact get?_set_self ..
  trivial

theorem Kept.tracks {later : DeferredState} (provisioned : later.provisioned = state.provisioned)
  (destroyed : later.destroyed = state.destroyed) (leases : later.leases = state.leases)
  (nextLease : later.nextLease = state.nextLease)
  (remotes : ∀ lease remote, (state.records lease).remote = some remote →
    (later.records lease).remote = some remote) (free : ∀ lease remote,
    known actor ≠ .removing lease remote ∧ known actor ≠ .prepared lease remote) :
  ∀ remote lease, (remote, lease) ∈ later.provisioned →
    Tracked later (update known actor phase) remote lease := by
  intro remote lease member
  rw [provisioned] at member
  refine (kept.tracked remote lease member).stays (Nat.le_of_eq nextLease.symm) ?_
    (remotes lease remote) ?_ (free lease remote).1 (free lease remote).2
  · rw [destroyed]
    exact fun _ => id
  unfold Active
  rw [leases]
  exact id

theorem Kept.learns (occupied : phase.occupied = (known actor).occupied) (free : ∀ lease remote,
    known actor ≠ .removing lease remote ∧ known actor ≠ .prepared lease remote)
  (own : Placed requests state actor phase) :
  Kept requests state (update known actor phase) :=
  kept.moves rfl rfl rfl rfl rfl rfl occupied kept.waits
    (kept.tracks rfl rfl rfl rfl (fun _ _ => id) free) kept.dirty
    (fun _ _ => Grows.refl) own

theorem kept_looked (here : known actor = .idle) (mine : Mine requests state actor lease)
  (active : Active state lease) :
  Kept requests { state with getting := (actor, lease) :: state.getting }
    (update known actor (.looked lease)) := by
  refine kept.moves rfl rfl rfl rfl rfl rfl (by rw [here]; rfl) ?_ ?_ kept.dirty ?_ ?_
  · intro other lease' member
    rcases mem_cons.mp member with same | before
    · rw [(Prod.mk.inj same).2]
      exact active
    exact kept.waits other lease' before
  · exact kept.tracks rfl rfl rfl rfl (fun _ _ => id)
      (by rw [here]; exact fun _ _ => ⟨nofun, nofun⟩)
  · exact fun other _ => { Grows.refl with getting := fun _ member => mem_cons_of_mem _ member }
  exact ⟨mine, mem_cons_self ..⟩

end

theorem getting_erase (different : other ≠ actor) {lease' : Lease}
  (member : (other, lease') ∈ state.getting) :
  (other, lease') ∈ state.getting.erase (actor, lease) := by
  refine (mem_erase_of_ne ?_).mpr member
  intro same
  exact different (Prod.mk.inj same).1

section

variable (kept : Kept requests state known)

include kept

theorem kept_refused (here : known actor = .looked lease) :
  Kept requests { state with getting := state.getting.erase (actor, lease) }
    (update known actor .idle) := by
  refine kept.moves rfl rfl rfl rfl rfl rfl (by rw [here]; rfl) ?_ ?_ kept.dirty ?_ trivial
  · exact fun other lease' member => kept.waits other lease' (mem_of_mem_erase member)
  · exact kept.tracks rfl rfl rfl rfl (fun _ _ => id)
      (by rw [here]; exact fun _ _ => ⟨nofun, nofun⟩)
  exact fun other different =>
    { Grows.refl with getting := fun _ member => getting_erase different member }

theorem kept_entered (here : known actor = .looked lease) (free : state.held.get? lease = none) :
  Kept requests { state with held := state.held.set lease actor }
    (update known actor (.inside lease)) := by
  have placed := kept.placed actor
  rw [here] at placed
  have held : ∀ other lease', state.held.get? lease' = some other →
    (state.held.set lease actor).get? lease' = some other := by
    intro other lease' holds
    rw [get?_set_other]
    · exact holds
    rintro rfl
    rw [free] at holds
    cases holds
  refine kept.moves rfl rfl rfl rfl rfl rfl (by rw [here]; rfl) kept.waits ?_ kept.dirty ?_ ?_
  · exact kept.tracks rfl rfl rfl rfl (fun _ _ => id)
      (by rw [here]; exact fun _ _ => ⟨nofun, nofun⟩)
  · exact fun other _ => { Grows.refl with held := held other }
  exact ⟨placed.1, placed.2, get?_set_self ..⟩

theorem kept_left (here : known actor = .inside lease ∧ phase = .idle ∨
    known actor = .empty lease ∧ phase = .idle ∨
      ∃ remote, known actor = .kept lease remote ∧ phase = .holding lease remote) :
  Kept requests
    { state with
      held := state.held.erase lease, getting := state.getting.erase (actor, lease) }
    (update known actor phase) := by
  have placed := kept.placed actor
  have mine : state.held.get? lease = some actor := by
    rcases here with ⟨inside, _⟩ | ⟨empty, _⟩ | ⟨remote, keeps, _⟩
    · rw [inside] at placed
      exact placed.2.2
    · rw [empty] at placed
      exact placed.2.2.1
    rw [keeps] at placed
    exact placed.2.2.1
  have held : ∀ other, other ≠ actor → ∀ lease', state.held.get? lease' = some other →
    (state.held.erase lease).get? lease' = some other := by
    intro other different lease' holds
    rw [get?_erase, if_neg]
    · exact holds
    rintro rfl
    exact different (some.inj (holds.symm.trans mine))
  refine kept.moves rfl rfl rfl rfl rfl rfl ?_ ?_ ?_ kept.dirty ?_ ?_
  · rcases here with ⟨inside, rfl⟩ | ⟨empty, rfl⟩ | ⟨remote, keeps, rfl⟩
    · rw [inside]; rfl
    · rw [empty]; rfl
    rw [keeps]; rfl
  · exact fun other lease' member => kept.waits other lease' (mem_of_mem_erase member)
  · refine kept.tracks rfl rfl rfl rfl (fun _ _ => id) ?_
    rcases here with ⟨inside, _⟩ | ⟨empty, _⟩ | ⟨remote, keeps, _⟩
    · rw [inside]; exact fun _ _ => ⟨nofun, nofun⟩
    · rw [empty]; exact fun _ _ => ⟨nofun, nofun⟩
    rw [keeps]; exact fun _ _ => ⟨nofun, nofun⟩
  · exact fun other different =>
      { Grows.refl with
        getting := fun _ member => getting_erase different member
        held := held other different }
  rcases here with ⟨_, rfl⟩ | ⟨_, rfl⟩ | ⟨remote, keeps, rfl⟩
  · trivial
  · trivial
  rw [keeps] at placed
  exact ⟨placed.1, placed.2.2.2⟩

theorem kept_provisioned (here : known actor = .empty lease) : Kept requests
  { state with
    nextRemote := state.nextRemote + 1
    provisioned := (state.nextRemote, lease) :: state.provisioned }
  (update known actor (.prepared lease state.nextRemote)) := by
  have placed := kept.placed actor
  rw [here] at placed
  refine kept.moves rfl rfl rfl rfl rfl rfl (by rw [here]; rfl) kept.waits ?_ kept.dirty
    (fun _ _ => { Grows.refl with }) placed
  intro remote lease' member
  rcases mem_cons.mp member with same | before
  · obtain ⟨rfl, rfl⟩ := Prod.mk.inj same
    exact ⟨placed.1.1, .inr (.inr ⟨actor, update_self ..⟩)⟩
  exact (kept.tracked remote lease' before).stays (Nat.le_refl _) (fun _ => id)
    id id (by rw [here]; nofun) (by rw [here]; nofun)

end

section

variable {lease : Lease} {change : LeaseRecord → LeaseRecord}

theorem records_updated (holds : LeaseRecord → LeaseRecord → Prop)
  (same : ∀ record, holds record record)
  (changed : holds (state.records lease) (change (state.records lease))) (lease' : Lease) :
  holds (state.records lease') ((state.update lease change).records lease') := by
  unfold DeferredState.update
  dsimp only
  by_cases here : lease' = lease
  · subst lease'
    rw [update_self]
    exact changed
  rw [update_of_ne here]
  exact same _

structure Extends (record later : LeaseRecord) : Prop where
  remote : later.remote = record.remote
  dirty : record.workspaceMayBeDirty = true → later.workspaceMayBeDirty = true
  made : ∀ change ∈ record.made, change ∈ later.made
  gathered : ∀ change ∈ record.gathered, change ∈ later.gathered

theorem Extends.grows (wider : Extends (state.records lease) (change (state.records lease))) :
  Grows state (state.update lease change) other := by
  have all := records_updated Extends (fun _ => ⟨rfl, id, fun _ => id, fun _ => id⟩) wider
  exact
    { Grows.refl with
      empty := fun lease' _ _ none => (all lease').remote.trans none
      remote := fun lease' _ _ kept => (all lease').remote.trans kept
      dirty := fun lease' _ => (all lease').dirty
      made := fun lease' change _ => (all lease').made change
      gathered := fun lease' change _ => (all lease').gathered change }

theorem Kept.extended (kept : Kept requests state known) {phase : Phase}
  (wider : Extends (state.records lease) (change (state.records lease)))
  (occupied : phase.occupied = (known actor).occupied)
  (free : ∀ lease remote,
    known actor ≠ .removing lease remote ∧ known actor ≠ .prepared lease remote)
  (dirty : Active state lease → (change (state.records lease)).made ≠ [] →
    (change (state.records lease)).workspaceMayBeDirty = true ∧
    (change (state.records lease)).remote ≠ none)
  (own : Placed requests (state.update lease change) actor phase) :
  Kept requests (state.update lease change) (update known actor phase) := by
  have all := records_updated Extends (fun _ => ⟨rfl, id, fun _ => id, fun _ => id⟩) wider
  refine kept.moves rfl rfl rfl rfl rfl rfl occupied kept.waits ?_ ?_
    (fun _ _ => wider.grows) own
  · exact kept.tracks rfl rfl rfl rfl (fun lease' _ kept => (all lease').remote.trans kept) free
  intro lease' active made
  by_cases here : lease' = lease
  · subst lease'
    unfold DeferredState.update at made ⊢
    dsimp only at made ⊢
    rw [update_self] at made ⊢
    exact dirty active made
  unfold DeferredState.update at made ⊢
  dsimp only at made ⊢
  rw [update_of_ne here] at made ⊢
  exact kept.dirty lease' active made

end

section

variable (kept : Kept requests state known)

include kept

theorem kept_filled (here : known actor = .prepared lease remote) :
  Kept requests (state.update lease fun record => { record with remote := some remote })
    (update known actor (.kept lease remote)) := by
  have placed := kept.placed actor
  rw [here] at placed
  obtain ⟨mine, getting, held, none⟩ := placed
  have stored : ((state.update lease fun record => { record with remote := some remote }).records
      lease).remote = some remote := by
    unfold DeferredState.update
    dsimp only
    rw [update_self]
  have others : ∀ lease', lease' ≠ lease →
      (state.update lease fun record => { record with remote := some remote }).records lease' =
        state.records lease' :=
    fun lease' different => update_of_ne different ..
  have rest := @records_updated state lease (fun record => { record with remote := some remote })
    (fun record later => later.workspaceMayBeDirty = record.workspaceMayBeDirty ∧
      later.made = record.made ∧ later.gathered = record.gathered)
    (fun _ => ⟨rfl, rfl, rfl⟩) ⟨rfl, rfl, rfl⟩
  have remotes : ∀ lease' remote', (state.records lease').remote = some remote' →
      ((state.update lease fun record => { record with remote := some remote }).records
        lease').remote = some remote' := by
    intro lease' remote' before
    rw [others]
    · exact before
    rintro rfl
    rw [none] at before
    cases before
  refine kept.moves rfl rfl rfl rfl rfl rfl (by rw [here]; rfl) kept.waits ?_ ?_ ?_ ?_
  · intro remote' lease' member
    obtain ⟨old, gone | ⟨before, active | ⟨task, removes⟩⟩ | ⟨task, prepares⟩⟩ :=
      kept.tracked remote' lease' member
    · exact ⟨old, .inl gone⟩
    · exact ⟨old, .inr (.inl ⟨remotes lease' remote' before, .inl active⟩)⟩
    · refine ⟨old, .inr (.inl ⟨remotes lease' remote' before, .inr ⟨task, ?_⟩⟩)⟩
      rw [update_of_ne, removes]
      rintro rfl
      rw [here] at removes
      cases removes
    by_cases same : task = actor
    · subst task
      obtain ⟨rfl, rfl⟩ := Phase.prepared.inj (here.symm.trans prepares)
      exact ⟨old, .inr (.inl ⟨stored, .inl (kept.waits actor lease getting)⟩)⟩
    refine ⟨old, .inr (.inr ⟨task, ?_⟩)⟩
    rw [update_of_ne same, prepares]
  · intro lease' active made
    rw [(rest lease').2.1] at made
    obtain ⟨dirty, filled⟩ := kept.dirty lease' active made
    refine ⟨(rest lease').1.trans dirty, ?_⟩
    obtain ⟨remote', before⟩ := ne_none_iff_exists'.mp filled
    rw [remotes lease' remote' before]
    nofun
  · intro other different
    exact
      { Grows.refl with
        empty := by
          intro lease' _ holds before
          rw [others]
          · exact before
          rintro rfl
          exact different (some.inj (holds.symm.trans held))
        remote := fun lease' remote' _ => remotes lease' remote'
        dirty := fun lease' _ dirty => (rest lease').1.trans dirty
        made := by
          intro lease' change _ made
          rw [(rest lease').2.1]
          exact made
        gathered := by
          intro lease' change _ gathered
          rw [(rest lease').2.2]
          exact gathered }
  exact ⟨mine, getting, held, stored⟩

theorem kept_marked {found : Lease} (here : known actor = .holding lease remote)
  (asks : requests actor = .execute sandboxId argv)
  (there : state.leases.get? sandboxId = some found) :
  Kept requests
    (state.update found fun record => { record with workspaceMayBeDirty := true })
    (update known actor (.marked lease remote)) := by
  have placed := kept.placed actor
  rw [here] at placed
  obtain ⟨mine, stored⟩ := placed
  have same := @records_updated state found
    (fun record => { record with workspaceMayBeDirty := true })
    (fun record later => later.remote = record.remote) (fun _ => rfl) rfl
  refine kept.extended ⟨rfl, fun _ => rfl, fun _ => id, fun _ => id⟩ (by rw [here]; rfl)
    (by rw [here]; exact fun _ _ => ⟨nofun, nofun⟩) ?_ ⟨mine, (same lease).trans stored, ?_⟩
  · exact fun active made => ⟨rfl, (kept.dirty found active made).2⟩
  rintro ⟨other, active⟩
  obtain ⟨argv', asked⟩ := mine.2 other active
  obtain ⟨rfl, _⟩ := DeferredRequest.execute.inj (asked.symm.trans asks)
  obtain rfl := some.inj (active.symm.trans there)
  unfold DeferredState.update
  dsimp only
  rw [update_self]

theorem kept_executed {changes : List Change} (here : known actor = .marked lease remote ∨
    known actor = .holding lease remote ∧ changes = []) :
  Kept requests (state.update lease fun record => { record with made := changes ++ record.made })
    (update known actor .idle) := by
  have placed := kept.placed actor
  refine kept.extended ⟨rfl, id, fun _ made => mem_append_right _ made, fun _ => id⟩
    ?_ ?_ ?_ trivial
  · rcases here with marked | ⟨holding, _⟩
    · rw [marked]; rfl
    rw [holding]; rfl
  · rcases here with marked | ⟨holding, _⟩
    · rw [marked]; exact fun _ _ => ⟨nofun, nofun⟩
    rw [holding]; exact fun _ _ => ⟨nofun, nofun⟩
  intro active made
  rcases here with marked | ⟨_, rfl⟩
  · rw [marked] at placed
    obtain ⟨_, stored, dirty⟩ := placed
    exact ⟨dirty active, by rw [stored]; nofun⟩
  exact kept.dirty lease active made

theorem kept_asked (here : known actor = .idle) (found : state.leases.get? sandboxId = some lease)
  (next : (∃ remote, phase = .collecting lease remote) ∨
    phase = .gathered ∧ ((state.records lease).remote = none ∨
    (state.records lease).workspaceMayBeDirty = false)) :
  Kept requests
    { state with asked := state.asked.set actor (lease, (state.records lease).made) }
    (update known actor phase) := by
  have old := (kept.filed sandboxId lease found).1
  refine kept.moves rfl rfl rfl rfl rfl rfl ?_ kept.waits ?_ kept.dirty ?_ ?_
  · rcases next with ⟨remote, rfl⟩ | ⟨rfl, _⟩
    · rw [here]; rfl
    rw [here]; rfl
  · exact kept.tracks rfl rfl rfl rfl (fun _ _ => id)
      (by rw [here]; exact fun _ _ => ⟨nofun, nofun⟩)
  · exact fun other different => { Grows.refl with asked := get?_set_other _ _ different }
  rcases next with ⟨remote, rfl⟩ | ⟨rfl, clean⟩
  · exact ⟨old, _, get?_set_self .., fun _ => id⟩
  refine ⟨lease, _, old, get?_set_self .., ?_⟩
  have nothing : (state.records lease).made = [] := by
    by_contra made
    obtain ⟨dirty, stored⟩ := kept.dirty lease ⟨sandboxId, found⟩ made
    rcases clean with none | undirty
    · exact stored none
    rw [dirty] at undirty
    cases undirty
  rw [nothing]
  nofun

theorem kept_collected (here : known actor = .collecting lease remote) : Kept requests
  (state.update lease fun record => { record with gathered := record.made ++ record.gathered })
  (update known actor .gathered) := by
  have placed := kept.placed actor
  rw [here] at placed
  obtain ⟨old, changes, asked, made⟩ := placed
  refine kept.extended ⟨rfl, id, fun _ => id, fun _ member => mem_append_right _ member⟩
    (by rw [here]; rfl) (by rw [here]; exact fun _ _ => ⟨nofun, nofun⟩)
    (fun active => kept.dirty lease active) ⟨lease, changes, old, asked, ?_⟩
  intro change member
  unfold DeferredState.update
  dsimp only
  rw [update_self]
  exact mem_append_left _ (made change member)

theorem kept_destroyed (here : known actor = .prepared lease remote ∧ phase = .inside lease ∨
    known actor = .removing lease remote ∧ phase = .releasing) :
  Kept requests { state with destroyed := remote :: state.destroyed }
    (update known actor phase) := by
  have placed := kept.placed actor
  refine kept.moves rfl rfl rfl rfl rfl rfl ?_ kept.waits ?_ kept.dirty
    (fun _ _ => { Grows.refl with }) ?_
  · rcases here with ⟨prepared, rfl⟩ | ⟨removing, rfl⟩
    · rw [prepared]; rfl
    rw [removing]; rfl
  · intro remote' lease' member
    have tracked := kept.tracked remote' lease' member
    by_cases same : remote' = remote
    · subst remote'
      exact ⟨tracked.1, .inl (mem_cons_self ..)⟩
    refine tracked.stays (Nat.le_refl _) (fun _ gone => mem_cons_of_mem _ gone)
      id id ?_ ?_
    · intro removes
      rcases here with ⟨prepared, _⟩ | ⟨removing, _⟩
      · rw [prepared] at removes
        cases removes
      exact same (Phase.removing.inj (removes.symm.trans removing)).2
    intro prepares
    rcases here with ⟨prepared, _⟩ | ⟨removing, _⟩
    · exact same (Phase.prepared.inj (prepares.symm.trans prepared)).2
    rw [removing] at prepares
    cases prepares
  rcases here with ⟨prepared, rfl⟩ | ⟨_, rfl⟩
  · rw [prepared] at placed
    obtain ⟨mine, getting, held, _⟩ := placed
    exact ⟨mine, getting, held⟩
  trivial

theorem follows_attempt {reply : Except DeferredError op.Answer × DeferredState}
  (failed : Foreseen op (.error .interrupted) ∧
    after (known actor) op (.error .interrupted) = known actor)
  (replied : Follows requests known actor op reply) :
  Follows requests known actor op (attempt input state reply) := by
  unfold attempt
  split
  · refine ⟨failed.1, ?_⟩
    rw [failed.2]
    exact kept.same
  exact replied

theorem follows_same {answer : Except DeferredError op.Answer}
  (foreseen : Foreseen op answer) (same : after (known actor) op answer = known actor) :
  Follows requests known actor op (answer, state) := by
  refine ⟨foreseen, ?_⟩
  rw [same]
  exact kept.same

theorem follows_makePath (here : known actor = .slot) (input : DeferredInput) :
  Follows requests known actor .makePath (state.respond actor input .makePath) := by
  by_cases refused : input.failed ∨ (state.names.get? input.newId).isSome
  · have reply : state.respond actor input .makePath = (.error .directory, state) := if_pos refused
    rw [reply]
    exact follows_same kept trivial rfl
  have reply : state.respond actor input .makePath =
      (.ok input.newId, { state with names := state.names.set input.newId actor }) :=
    if_neg refused
  have fresh : state.names.get? input.newId = none := by
    simpa using (not_or.mp refused).2
  rw [reply]
  exact ⟨trivial, kept_named kept here fresh⟩

theorem follows_enter (here : known actor = .looked lease)
  (unblocked : input.failed = false → state.held.get? lease = none) :
  Follows requests known actor (.enter lease) (state.respond actor input (.enter lease)) := by
  cases failed : input.failed with
  | true =>
    have reply : state.respond actor input (.enter lease) = (.error .interrupted,
          { state with getting := state.getting.erase (actor, lease) }) := if_pos failed
    rw [reply]
    exact ⟨trivial, kept_refused kept here⟩
  | false =>
    have reply : state.respond actor input (.enter lease) =
        (.ok (), { state with held := state.held.set lease actor }) :=
      if_neg (ne_true_of_eq_false failed)
    rw [reply]
    exact ⟨trivial, kept_entered kept here (unblocked failed)⟩

theorem follows_lookUp (here : known actor = .idle)
  (asks : requests actor = .execute sandboxId argv) (input : DeferredInput) :
  Follows requests known actor (.lookUp sandboxId)
    (state.respond actor input (.lookUp sandboxId)) := by
  cases found : state.leases.get? sandboxId with
  | none =>
    have reply : state.respond actor input (.lookUp sandboxId) = (.error .notActive, state) := by
      simp [respond, found]
    rw [reply]
    exact follows_same kept trivial rfl
  | some lease =>
    have mine := kept.mine found asks
    cases stored : (state.records lease).remote with
    | none =>
      have reply : state.respond actor input (.lookUp sandboxId) =
          (.ok (lease, none), { state with getting := (actor, lease) :: state.getting }) := by
        simp [respond, found, stored]
      rw [reply]
      exact ⟨trivial, kept_looked kept here mine ⟨sandboxId, found⟩⟩
    | some remote =>
      have reply : state.respond actor input (.lookUp sandboxId) =
        (.ok (lease, some remote), state) := by
        simp [respond, found, stored]
      rw [reply]
      refine ⟨trivial, kept.learns ?_ ?_ ⟨mine, stored⟩⟩
      · rw [here]; rfl
      rw [here]; exact fun _ _ => ⟨by rintro ⟨⟩, by rintro ⟨⟩⟩

theorem follows_leave (admits : Admits (requests actor) (known actor) (.leave lease))
  (input : DeferredInput) :
  Follows requests known actor (.leave lease) (state.respond actor input (.leave lease)) := by
  refine ⟨trivial, ?_⟩
  rcases admits with inside | empty | ⟨remote, keeps⟩
  · refine kept_left kept (.inl ⟨inside, ?_⟩)
    rw [inside]
    rfl
  · refine kept_left kept (.inr (.inl ⟨empty, ?_⟩))
    rw [empty]
    rfl
  refine kept_left kept (.inr (.inr ⟨remote, keeps, ?_⟩))
  rw [keeps]
  rfl

theorem follows_readRemote (here : known actor = .inside lease) (input : DeferredInput) :
  Follows requests known actor (.readRemote lease)
    (state.respond actor input (.readRemote lease)) := by
  have placed := kept.placed actor
  rw [here] at placed
  obtain ⟨mine, getting, held⟩ := placed
  have free : ∀ lease remote,
    known actor ≠ .removing lease remote ∧ known actor ≠ .prepared lease remote := by
    rw [here]
    exact fun _ _ => ⟨nofun, nofun⟩
  have reply : state.respond actor input (.readRemote lease) =
    (.ok (state.records lease).remote, state) := rfl
  cases stored : (state.records lease).remote with
  | none | some remote =>
    rw [reply, stored]
    exact ⟨trivial, kept.learns (by rw [here]; rfl) free ⟨mine, getting, held, stored⟩⟩

theorem follows_markDirty (admits : Admits (requests actor) (known actor) (.markDirty sandboxId))
  (input : DeferredInput) :
  Follows requests known actor (.markDirty sandboxId)
    (state.respond actor input (.markDirty sandboxId)) := by
  obtain ⟨⟨argv, asks⟩, lease, remote, here⟩ := admits
  cases found : state.leases.get? sandboxId with
  | none =>
    have reply : state.respond actor input (.markDirty sandboxId) = (.error .notActive, state) := by
      simp [respond, found]
    rw [reply]
    exact follows_same kept trivial rfl
  | some lease' =>
    have reply : state.respond actor input (.markDirty sandboxId) =
        (.ok (), state.update lease' fun record =>
          { record with workspaceMayBeDirty := true }) := by
      simp [respond, found]
    rw [reply]
    refine ⟨trivial, ?_⟩
    rw [here]
    exact kept_marked kept here asks found

theorem follows_inspect (here : known actor = .idle) (sandboxId : String) (input : DeferredInput) :
  Follows requests known actor (.inspect sandboxId)
    (state.respond actor input (.inspect sandboxId)) := by
  cases found : state.leases.get? sandboxId with
  | none =>
    have reply : state.respond actor input (.inspect sandboxId) = (.error .notActive, state) := by
      simp [respond, found]
    rw [reply]
    exact follows_same kept trivial rfl
  | some lease =>
    have reply : state.respond actor input (.inspect sandboxId) =
        (.ok (lease, (state.records lease).remote, (state.records lease).workspaceMayBeDirty),
          { state with asked := state.asked.set actor (lease, (state.records lease).made) }) := by
      simp [respond, found]
    rw [reply]
    refine ⟨trivial, ?_⟩
    cases stored : (state.records lease).remote with
    | none => exact kept_asked kept here found (.inr ⟨rfl, .inl stored⟩)
    | some remote =>
      cases dirty : (state.records lease).workspaceMayBeDirty with
      | false => exact kept_asked kept here found (.inr ⟨rfl, .inr dirty⟩)
      | true => exact kept_asked kept here found (.inl ⟨remote, rfl⟩)

theorem follows_popLease (here : known actor = .idle)
  (harmless : Harmless state (.popLease sandboxId) input) :
  Follows requests known actor (.popLease sandboxId)
    (state.respond actor input (.popLease sandboxId)) := by
  cases found : state.leases.get? sandboxId with
  | none =>
    have reply : state.respond actor input (.popLease sandboxId) = (.ok none, state) := by
      simp [respond, found]
    rw [reply]
    exact follows_same kept trivial rfl
  | some lease =>
    have quiet := harmless lease found
    have reply : state.respond actor input (.popLease sandboxId) =
        (.ok (some (lease, (state.records lease).remote)),
          { state with
            leases := state.leases.erase sandboxId, poppedBy := state.poppedBy.set lease actor
            between := actor :: state.between }) := by
      simp [respond, found]
    rw [reply]
    refine ⟨trivial, ?_⟩
    cases stored : (state.records lease).remote with
    | none => exact kept_popped kept here found quiet (.inr ⟨stored, rfl⟩)
    | some remote => exact kept_popped kept here found quiet (.inl ⟨remote, stored, rfl⟩)

theorem follows_executeRemote
  (admits : Admits (requests actor) (known actor) (.executeRemote lease remote argv))
  (harmless : Harmless state (.executeRemote lease remote argv) input) :
  Follows requests known actor (.executeRemote lease remote argv)
    (state.respond actor input (.executeRemote lease remote argv)) := by
  have here : known actor = .marked lease remote ∨
    known actor = .holding lease remote ∧ input.changes = [] := by
    rcases admits with marked | ⟨holding, mutates⟩
    · exact .inl marked
    exact .inr ⟨holding, harmless mutates⟩
  exact ⟨trivial, kept_executed kept here⟩

theorem follows_destroyRemote
  (admits : Admits (requests actor) (known actor) (.destroyRemote remote)) (input : DeferredInput) :
  Follows requests known actor (.destroyRemote remote)
    (state.respond actor input (.destroyRemote remote)) := by
  refine ⟨trivial, ?_⟩
  obtain ⟨lease, prepared | removing⟩ := admits
  · refine kept_destroyed kept (.inl ⟨prepared, ?_⟩)
    dsimp only [after]
    rw [prepared]
  refine kept_destroyed kept (.inr ⟨removing, ?_⟩)
  dsimp only [after]
  rw [removing]

theorem answered (orderly : Orderly state actor op input)
  (admits : Admits (requests actor) (known actor) op) :
  Follows requests known actor op (state.respond actor input op) := by
  obtain ⟨unblocked, harmless⟩ := orderly
  cases op with
  | acquireSlot => exact follows_attempt kept ⟨trivial, rfl⟩ ⟨trivial, kept_acquired kept admits⟩
  | releaseSlot => exact ⟨trivial, kept_released kept admits⟩
  | makePath => exact follows_makePath kept admits input
  | storeLease sandboxId => exact ⟨trivial, kept_stored kept admits⟩
  | lookUp sandboxId =>
    obtain ⟨here, argv, asks⟩ := admits
    exact follows_lookUp kept here asks input
  | enter lease => exact follows_enter kept admits unblocked
  | leave lease => exact follows_leave kept admits input
  | readRemote lease => exact follows_readRemote kept admits input
  | provisionRemote lease =>
    exact follows_attempt kept ⟨trivial, rfl⟩ ⟨trivial, kept_provisioned kept admits⟩
  | prepareRemote lease remote => exact follows_same kept trivial rfl
  | keepRemote lease remote => exact ⟨trivial, kept_filled kept admits⟩
  | markDirty sandboxId => exact follows_markDirty kept admits input
  | executeRemote lease remote argv => exact follows_executeRemote kept admits harmless
  | inspect sandboxId => exact follows_inspect kept admits sandboxId input
  | collectRemote lease remote =>
    exact follows_attempt kept ⟨trivial, rfl⟩ ⟨trivial, kept_collected kept admits⟩
  | popLease sandboxId => exact follows_popLease kept admits harmless
  | destroyRemote remote => exact follows_destroyRemote kept admits input
  | removePath sandboxId => exact follows_same kept trivial rfl

end

theorem adheres : Pool.Adheres component
  (fun actor => contract (requests actor)) (Kept requests) Orderly := by
  intro state known actor op input kept orderly admits
  obtain ⟨foreseen, next⟩ := answered kept orderly admits
  exact ⟨_, ⟨foreseen, rfl⟩, next⟩

end

def Ended : DeferredProgram Unit → Prop
  | .done _ | .raised _ => True
  | .call _ _ => False

theorem kept_start (maxActiveRuns : Nat) (requests : Nat → DeferredRequest) :
  Kept requests { maxActiveRuns } (fun _ => .idle) where
  slots := rfl
  distinct := nodup_nil
  between _ := ⟨nofun, nofun⟩
  filed := nofun
  apart := nofun
  waits := nofun
  tracked := nofun
  popped := nofun
  dirty := nofun
  placed _ := trivial

/-- When a handle's destruction has ended, the backend was asked to destroy every sandbox that it
provisioned for its lease; the slots that are held are those of the leases and of the tasks that
have not ended; and a collection that returned has gathered whatever the commands had changed
when it began. -/
theorem sandboxes_settled (maxActiveRuns : Nat) (requests : Nat → DeferredRequest)
  (schedule : List (Nat × DeferredInput))
  (orderly : (start maxActiveRuns requests).Along component Orderly schedule) :
  let pool := (start maxActiveRuns requests).run component schedule
  (∀ remote lease actor, (remote, lease) ∈ pool.state.provisioned →
      pool.state.poppedBy.get? lease = some actor → Ended (pool.thread actor) →
        remote ∈ pool.state.destroyed) ∧
    (pool.state.heldSlots =
        pool.state.leases.countWhere (fun _ _ => true) + pool.state.between.length ∧
      pool.state.between.Nodup ∧ ∀ actor ∈ pool.state.between, ¬Ended (pool.thread actor)) ∧
    ∀ actor sandboxId, requests actor = .collect sandboxId → pool.thread actor = .done () →
      ∃ lease changes, pool.state.asked.get? actor = some (lease, changes) ∧
        ∀ change ∈ changes, change ∈ (pool.state.records lease).gathered := by
  intro pool
  have ready : (start maxActiveRuns requests).Ready (fun actor => contract (requests actor))
    (Kept requests) (fun actor later _ => Returned (requests actor) later)
    (fun _ later _ => Failed later) (fun _ => .idle) :=
    ⟨kept_start maxActiveRuns requests, fun actor => wp_serve (requests actor)⟩
  obtain ⟨known, kept, threads⟩ := Pool.run_ready adheres ready schedule orderly
  have free : ∀ actor, Ended (pool.thread actor) → (known actor).occupied = false := by
    intro actor ended
    have own := threads actor
    cases thread : pool.thread actor with
    | done value =>
      rw [thread] at own
      exact own.1
    | raised error =>
      rw [thread] at own
      exact own
    | call op next =>
      rw [thread] at ended
      cases ended
  refine ⟨?_, ⟨kept.slots, kept.distinct, ?_⟩, ?_⟩
  · intro remote lease actor provisioned popped ended
    obtain ⟨_, gone | ⟨_, active | ⟨other, removes⟩⟩ | ⟨other, prepares⟩⟩ :=
      kept.tracked remote lease provisioned
    · exact gone
    · exact absurd active (kept.popped lease actor popped).2
    · have placed := kept.placed other
      rw [removes] at placed
      obtain rfl := some.inj (popped.symm.trans placed)
      have idle := free actor ended
      rw [removes] at idle
      cases idle
    have placed := kept.placed other
    rw [prepares] at placed
    exact absurd (kept.waits other lease placed.2.1) (kept.popped lease actor popped).2
  · intro actor member ended
    have occupied := (kept.between actor).mp member
    rw [free actor ended] at occupied
    cases occupied
  intro actor sandboxId asks returned
  have own := threads actor
  rw [returned] at own
  have gathered := own.2 sandboxId asks
  have placed := kept.placed actor
  rw [gathered] at placed
  obtain ⟨lease, changes, _, asked, all⟩ := placed
  exact ⟨lease, changes, asked, all⟩

def paced (turns : List (Nat × Nat × DeferredInput)) : List (Nat × DeferredInput) :=
  turns.flatMap fun turn => List.replicate turn.2.1 (turn.1, turn.2.2)

def settling : Nat → DeferredRequest
  | 0 => .provision
  | 1 => .execute "run-1" ["bash", "-c", "make"]
  | 2 => .collect "run-1"
  | 3 => .destroy "run-1"
  | _ => .provision

def settlingSchedule : List (Nat × DeferredInput) :=
  paced [(0, 3, { newId := "run-1" }), (1, 8, {}), (1, 1, { changes := [7] }), (2, 2, {}),
    (3, 4, {})]

theorem sandboxes_settled_in_turn : let pool := (start 2 settling).run component settlingSchedule
  (∀ remote lease actor, (remote, lease) ∈ pool.state.provisioned →
      pool.state.poppedBy.get? lease = some actor → Ended (pool.thread actor) →
        remote ∈ pool.state.destroyed) ∧
    (pool.state.heldSlots =
        pool.state.leases.countWhere (fun _ _ => true) + pool.state.between.length ∧
      pool.state.between.Nodup ∧ ∀ actor ∈ pool.state.between, ¬Ended (pool.thread actor)) ∧
    ∀ actor sandboxId, settling actor = .collect sandboxId → pool.thread actor = .done () →
      ∃ lease changes, pool.state.asked.get? actor = some (lease, changes) ∧
        ∀ change ∈ changes, change ∈ (pool.state.records lease).gathered :=
  sandboxes_settled 2 settling settlingSchedule (by decide +kernel)

def abandoned : Nat → DeferredRequest
  | 1 => .execute "run-1" ["bash", "-c", "make"]
  | 2 => .destroy "run-1"
  | _ => .provision

def abandonedSchedule : List (Nat × DeferredInput) :=
  paced [(0, 3, { newId := "run-1" }), (1, 3, {}), (2, 3, {}), (1, 5, {})]

def uncollected : Nat → DeferredRequest
  | 1 => .execute "run-1" (bundlePythonTool "runner" "/workspace/tools/report.py" "e30=")
  | 2 => .collect "run-1"
  | _ => .provision

def uncollectedSchedule : List (Nat × DeferredInput) :=
  paced [(0, 3, { newId := "run-1" }), (1, 7, {}), (1, 1, { changes := [7] }), (2, 1, {})]

/-- A sandbox that is stored in a lease already destroyed is never given back, and the file that a
tool of a bundle wrote is not collected. -/
theorem sandboxes_unsettled : (¬∀ (maxActiveRuns : Nat) (requests : Nat → DeferredRequest)
    (schedule : List (Nat × DeferredInput)),
  (start maxActiveRuns requests).Along component Unblocked schedule →
    let pool := (start maxActiveRuns requests).run component schedule
    ∀ remote lease actor, (remote, lease) ∈ pool.state.provisioned →
      pool.state.poppedBy.get? lease = some actor → Ended (pool.thread actor) →
        (∀ other sandboxId argv, requests other = .execute sandboxId argv →
          Ended (pool.thread other)) → remote ∈ pool.state.destroyed) ∧
  ¬∀ (maxActiveRuns : Nat) (requests : Nat → DeferredRequest)
      (schedule : List (Nat × DeferredInput)),
    (start maxActiveRuns requests).Along component Unblocked schedule →
      let pool := (start maxActiveRuns requests).run component schedule
      ∀ actor sandboxId, requests actor = .collect sandboxId → pool.thread actor = .done () →
        ∃ lease changes, pool.state.asked.get? actor = some (lease, changes) ∧
          ∀ change ∈ changes, change ∈ (pool.state.records lease).gathered := by
  constructor
  · intro destroyed
    have gone := destroyed 2 abandoned abandonedSchedule (by decide +kernel) 0 0 2
      (by decide +kernel) (by decide +kernel) trivial
    refine absurd (gone ?_) (by decide +kernel)
    intro other sandboxId argv asks
    match other with
    | 1 => trivial
    | 0 => cases asks
    | 2 => cases asks
    | _ + 3 => cases asks
  intro collected
  obtain ⟨lease, changes, asked, gathered⟩ :=
    collected 2 uncollected uncollectedSchedule (by decide +kernel) 2 "run-1" rfl rfl
  obtain ⟨rfl, rfl⟩ := Prod.mk.inj (some.inj (show some (0, [7]) = some _ from asked))
  exact absurd (gathered 7 (mem_cons_self ..)) (by decide +kernel)

end AgentHarness.Deferred
