import AgentHarness.Sandbox.Leases

/-!
A session's lock keeps its sandbox to one coroutine.

That needs two things of a run: no process takes up a session that another one has, and a lock is
forgotten only when nobody waits for it.
-/

namespace AgentHarness.Sandbox

open Collections Interaction Dict Function List Processes Hold DaytonaPlatform

def Unawaited (processes : Processes) (worker : Nat) (key : SessionKey) (lock : LockId) : Prop :=
  (processes.provider worker).sessionSandboxes.get? key = none →
    ∀ state ∈ processes.locks.get? lock, state.waiters = []

def Served (platform : DaytonaPlatform) (processes : Processes) (task : Nat) :
    DaytonaOp → DaytonaInput → Prop
  | .enter key, _ =>
    ∀ other : Fin platform.workers, other ≠ platform.worker task →
      (processes.provider other).sessionLocks.get? key = none
  | .get (.explicit _), input => platform.sessionOf input.sandboxId = none
  | .leave lease, _ =>
    ∀ key ∈ lease.entry.sessionKey, ∀ lock ∈ lease.sessionLock,
      Unawaited processes (platform.worker task) key lock
  | .leaveReaper key lock, _ => Unawaited processes (platform.worker task) key lock
  | _, _ => True

instance (processes : Processes) (worker : Nat) (key : SessionKey) (lock : LockId) :
  Decidable (Unawaited processes worker key lock) := by
  unfold Unawaited
  infer_instance

instance (platform : DaytonaPlatform) (processes : Processes) (task : Nat) (op : DaytonaOp)
  (input : DaytonaInput) : Decidable (Served platform processes task op input) := by
  unfold Served
  split <;> infer_instance

structure Kept (platform : DaytonaPlatform) (processes : Processes) (known : Nat → Hold) : Prop where
  locks : LocksKept platform processes known
  leases : LeasesKept platform processes known

section

variable {platform : DaytonaPlatform} {processes : Processes} {known : Nat → Hold} {task : Nat}
  {hold : Hold}

theorem update_field {β : Type} (field : Hold → β) (same : field hold = field (known task))
  (other : Nat) : field (update known task hold other) = field (known other) := by
  by_cases here : other = task
  · rw [here, update_self, same]
  rw [update_of_ne here]

theorem kept_same (kept : Kept platform processes known) :
  Kept platform processes (update known task (known task)) := by
  rw [update_eq_self]
  exact kept

variable {next : DaytonaSandboxProvider} {worker : Nat}

theorem registry_provided
  (registry : next.sessionLocks = (processes.provider worker).sessionLocks) (other : Nat) :
  ((processes.withProvider worker next).provider other).sessionLocks =
    (processes.provider other).sessionLocks := by
  rw [provider_withProvider]
  split
  case isTrue same => rw [same, registry]
  · rfl

theorem kept_provided (kept : Kept platform processes known)
  (registry : next.sessionLocks = (processes.provider worker).sessionLocks)
  (leases : next.leases = (processes.provider worker).leases)
  (names : ∀ key sandboxId, next.sessionSandboxes.get? key = some sandboxId →
    (processes.provider worker).sessionSandboxes.get? key = some sandboxId)
  (entries : ∀ sandboxId entry, next.sandboxes.get? sandboxId = some entry →
    (processes.provider worker).sandboxes.get? sandboxId = some entry) :
  Kept platform (processes.withProvider worker next) known := by
  constructor
  · exact kept.locks.framed rfl rfl (registry_provided registry) (fun _ => rfl) fun _ => rfl
  apply kept.leases.provides
  · exact fun key sandboxId found => kept.leases.named worker key sandboxId (names _ _ found)
  · exact fun sandboxId entry found => kept.leases.placed worker sandboxId entry (entries _ _ found)
  · rw [leases]
    exact kept.leases.leases worker
  intro _ _ _ _
  rw [leases]

theorem kept_part (kept : Kept platform processes known) (worker now : Nat)
  (entry : SandboxEntry) (parting : Parting) :
  Kept platform (platform.part processes worker now entry parting) known := by
  cases parting with
  | parked | cleaned => exact kept_provided kept rfl rfl (fun _ _ => id) fun _ _ => id

theorem kept_dropEntry (kept : Kept platform processes known) {entry : SandboxEntry}
  (holds : ∀ key ∈ entry.sessionKey, ∃ lock, (known task).holding = some (key, lock)) :
  Kept platform (processes.dropEntry (platform.worker task) entry) known := by
  unfold Processes.dropEntry
  cases session : entry.sessionKey with
  | none => exact kept_provided kept rfl rfl (fun _ _ => id) fun _ _ => get?_of_erase
  | some key =>
    obtain ⟨lock, held⟩ := holds key session
    have registered := kept.locks.engaged task key lock (.inl held)
    have locked : processes.isLocked lock = true := by
      cases free : processes.isLocked lock with
      | true => rfl
      | false =>
        have holder := kept.locks.holds task key lock held
        rw [isLocked_iff.mp free] at holder
        cases holder
    dsimp only
    rw [registered]
    dsimp only
    rw [if_pos locked]
    split
    · exact kept_provided kept rfl rfl (fun _ _ => get?_of_erase) fun _ _ => get?_of_erase
    exact kept_provided kept rfl rfl (fun _ _ => id) fun _ _ => get?_of_erase

variable {sandboxId : String}

theorem kept_leaseExplicit (kept : Kept platform processes known)
  (plain : platform.sessionOf sandboxId = none) (worker : Nat) :
  Kept platform (DaytonaPlatform.leaseExplicit processes worker sandboxId) known := by
  have unleased : ∀ other, (known other).leased ≠ some sandboxId := by
    intro other leased
    obtain ⟨_, _, _, _, session, _⟩ := kept.leases.own other sandboxId leased
    rw [plain] at session
    cases session
  let entry : SandboxEntry :=
    { entryId := processes.madeEntries, sandboxId, owned := false, sessionKey := none }
  let lease : SandboxLease := { entry, sessionLock := none, reusable := false }
  let provider := processes.provider worker
  have given : Kept platform
      (processes.withProvider worker
        { provider with
          sandboxes := provider.sandboxes.set sandboxId entry
          leases := provider.leases.set sandboxId lease }) known := by
    constructor
    · exact kept.locks.framed rfl rfl (registry_provided rfl) (fun _ => rfl) fun _ => rfl
    apply kept.leases.provides
    · exact kept.leases.named worker
    · exact forall_set ⟨rfl, plain.symm⟩ (kept.leases.placed worker)
    · exact forall_set ⟨rfl, plain.symm, fun _ => ⟨rfl, rfl⟩⟩ (kept.leases.leases worker)
    intro other id _ leased
    apply get?_set_other
    rintro rfl
    exact unleased other leased
  constructor
  · exact given.locks.framed rfl rfl (fun _ => rfl) (fun _ => rfl) fun _ => rfl
  exact given.leases.framed (fun _ _ _ => id) (fun _ _ _ => id)
    (fun _ => rfl) rfl (fun _ => rfl) fun _ _ => rfl

theorem kept_lease (kept : Kept platform processes known) {entry : SandboxEntry}
  {key : SessionKey} {lock : LockId} (bare : known task = Hold.only key lock)
  (genuine : Genuine platform entry) (named : entry.sessionKey = some key) :
  Kept platform (DaytonaPlatform.lease processes task (platform.worker task) entry lock)
    (update known task { Hold.only key lock with leased := some entry.sandboxId }) := by
  constructor
  · refine kept.locks.framed rfl rfl ?_ ?_ ?_
    · exact registry_provided rfl
    · exact update_field Hold.holding (by rw [bare])
    exact update_field waiting (by rw [bare])
  exact kept.leases.lends kept.locks bare genuine named

theorem kept_leaseCreated (kept : Kept platform processes known)
  {key : SessionKey} {lock : LockId} (bare : known task = Hold.only key lock)
  (session : platform.sessionOf sandboxId = some key) : Kept platform
    (DaytonaPlatform.leaseCreated processes task (platform.worker task) key sandboxId lock)
    (update known task { Hold.only key lock with leased := some sandboxId }) := by
  let worker := platform.worker task
  let provider := processes.provider worker
  let entry : SandboxEntry :=
    { entryId := processes.madeEntries, sandboxId, owned := true, sessionKey := some key }
  let adopted : Processes :=
    { processes.withProvider worker
        { provider with
          sandboxes := provider.sandboxes.set sandboxId entry
          sessionSandboxes := provider.sessionSandboxes.set key sandboxId } with
      madeEntries := processes.madeEntries + 1 }
  have given : LeasesKept platform
      (processes.withProvider worker
        { provider with
          sandboxes := provider.sandboxes.set sandboxId entry
          sessionSandboxes := provider.sessionSandboxes.set key sandboxId }) known := by
    apply kept.leases.provides
    · exact forall_set session (kept.leases.named worker)
    · exact forall_set ⟨rfl, session.symm⟩ (kept.leases.placed worker)
    · exact kept.leases.leases worker
    exact fun _ _ _ _ => rfl
  have both : Kept platform adopted known := by
    constructor
    · exact kept.locks.framed rfl rfl (registry_provided rfl) (fun _ => rfl) fun _ => rfl
    exact given.framed (fun _ _ _ => id) (fun _ _ _ => id)
      (fun _ => rfl) rfl (fun _ => rfl) fun _ _ => rfl
  exact @kept_lease platform adopted known task both entry key lock bare session.symm rfl

theorem own_lease (kept : Kept platform processes known) (sandboxId : String) :
  OwnLease platform (known task) sandboxId
    ((processes.provider (platform.worker task)).leases.get? sandboxId) := by
  refine ⟨?_, ?_, ?_⟩
  · intro leased
    obtain ⟨key, lock, lease, holds, session, recorded, reusable, locked⟩ :=
      kept.leases.own task sandboxId leased
    obtain ⟨located, genuine, _⟩ := kept.leases.leases _ sandboxId lease recorded
    refine ⟨lease, recorded, reusable, key, lock, holds, locked, ?_⟩
    rw [genuine, located]
    exact session
  · exact fun plain lease found => (kept.leases.leases _ sandboxId lease found).2.2 plain
  exact fun lease found =>
    ⟨(kept.leases.leases _ sandboxId lease found).1,
      (kept.leases.leases _ sandboxId lease found).2.1⟩

theorem kept_popLease (kept : Kept platform processes known)
  (admits : Admits platform (known task) (.popLease sandboxId)) : Kept platform
    (DaytonaPlatform.popLease processes task (platform.worker task) sandboxId).2
    (update known task { known task with leased := none }) := by
  constructor
  · refine kept.locks.framed rfl rfl ?_ ?_ ?_
    · exact registry_provided rfl
    · exact update_field Hold.holding rfl
    exact update_field waiting rfl
  apply kept.leases.returns sandboxId rfl
  intro other distinct leased
  cases admits with
  | inl own =>
    obtain ⟨key, lock, _, holds, session, _⟩ := kept.leases.own task sandboxId own
    exact distinct (kept.leases.unleased kept.locks holds session leased)
  | inr explicit =>
    obtain ⟨_, _, _, _, session, _⟩ := kept.leases.own other sandboxId leased
    rw [explicit.2] at session
    cases session

theorem waitersOf_release (lock : LockId) {state : SessionLock} (worker : Nat)
  (key : SessionKey) (unawaited : Unawaited processes worker key lock)
  (found : processes.locks.get? lock = some state)
  (unnamed : ((processes.release lock).provider worker).sessionSandboxes.get? key = none) :
  (processes.release lock).waitersOf lock = [] := by
  have same := (SameSandboxes.release processes lock).names worker
  rw [same] at unnamed
  have empty := unawaited unnamed state found
  unfold Processes.release
  rw [found]
  exact (waitersOf_relock processes lock lock _).trans ((if_pos rfl).trans empty)

section

variable (kept : Kept platform processes known)

include kept

theorem kept_left {key : SessionKey} {lock : LockId} (bare : known task = Hold.only key lock)
  (unawaited : Unawaited processes (platform.worker task) key lock) :
  Kept platform ((processes.release lock).forgetLock (platform.worker task) key lock)
    (update known task {}) := by
  have registered := kept.locks.engaged task key lock (.inl (by rw [bare]; rfl))
  obtain ⟨state, found⟩ := kept.locks.registered _ key lock registered
  have released := kept.locks.releases bare
  have still : ((processes.release lock).provider (platform.worker task)).sessionLocks.get? key =
    some lock := by
    unfold Processes.release
    rw [found]
    exact registered
  constructor
  · exact released.forgets still (waitersOf_release lock _ key unawaited found)
  apply kept.leases.relearned
  · rw [bare]
    rfl
  · rfl
  exact (SameSandboxes.release processes lock).trans (SameSandboxes.forgetLock _ _ _ _)

theorem genuine_warm (worker : Nat) (key : SessionKey) :
  ∀ entry ∈ ((processes.provider worker).sessionSandboxes.get? key).bind
    (processes.provider worker).sandboxes.get?,
    Genuine platform entry ∧ entry.sessionKey = some key := by
  intro entry found
  obtain ⟨sandboxId, listed, placed⟩ := Option.bind_eq_some_iff.mp found
  obtain ⟨located, genuine⟩ := kept.leases.placed worker sandboxId entry placed
  refine ⟨genuine, ?_⟩
  rw [genuine, located]
  exact kept.leases.named worker key sandboxId listed

theorem genuine_value (worker : Nat) {entry : SandboxEntry}
  (listed : entry ∈ (processes.provider worker).sandboxes.values) : Genuine platform entry := by
  obtain ⟨sandboxId, placed⟩ := mem_values.mp listed
  exact (kept.leases.placed worker sandboxId entry placed).2

theorem genuine_excess (worker now limit : Nat) :
  ∀ entry ∈ Processes.excess (processes.provider worker) now limit, Genuine platform entry := by
  intro entry member
  have sorted := mem_of_mem_take member
  have warm := (mergeSort_perm _ _).mem_iff.mp sorted
  exact genuine_value kept worker (mem_filter.mp warm).1

theorem answered (op : DaytonaOp) (input : DaytonaInput)
  (served : Served platform processes task op input) (admits : Admits platform (known task) op) :
  Foreseen platform (known task) op (platform.answer task input processes op).1 ∧
    Kept platform (platform.answer task input processes op).2
    (update known task
    ((known task).after op (platform.answer task input processes op).1)) := by
  cases op with
  | enter key =>
    have bare : known task = {} := admits
    refine ⟨trivial, ?_, ?_⟩
    · exact kept.locks.enters bare served (by rw [bare]; rfl)
    apply kept.leases.relearned
    · rw [bare]
    · dsimp only [DaytonaPlatform.answer, Hold.after]
      rw [bare]
      split <;> rfl
    exact SameSandboxes.enter _ _ _ _
  | resume lock =>
    obtain ⟨key, waits⟩ := admits
    refine ⟨trivial, kept.locks.resumes waits rfl, ?_⟩
    apply kept.leases.relearned
    · rw [waits]
    · dsimp only [DaytonaPlatform.answer, Hold.after]
      rw [waits]
      split <;> rfl
    exact SameSandboxes.resume _ _ _
  | cancel lock =>
    obtain ⟨key, waits⟩ := admits
    have left : (known task).after (.cancel lock) (.ok ()) = {} := by
      rw [waits]
      rfl
    dsimp only [DaytonaPlatform.answer]
    rw [left]
    refine ⟨trivial, kept.locks.cancels waits, ?_⟩
    apply kept.leases.relearned
    · rw [waits]
    · rfl
    exact SameSandboxes.cancel _ _ _
  | abandon lock =>
    obtain ⟨key, bare⟩ := admits
    have left : (known task).after (.abandon lock) (.ok ()) = {} := by
      rw [bare]
      rfl
    dsimp only [DaytonaPlatform.answer]
    rw [left]
    refine ⟨trivial, kept.locks.releases bare, ?_⟩
    apply kept.leases.relearned
    · rw [bare]
      rfl
    · rfl
    exact SameSandboxes.release _ _
  | get name =>
    cases name with
    | session key =>
      dsimp only [DaytonaPlatform.answer, DaytonaPlatform.locate]
      split
      case isTrue session => exact ⟨session, kept_same kept⟩
      · exact ⟨rfl, kept_same kept⟩
    | explicit name => exact ⟨served, kept_same kept⟩
  | create key =>
    dsimp only [DaytonaPlatform.answer, DaytonaPlatform.locate]
    split
    case isTrue session => exact ⟨session, kept_same kept⟩
    · exact ⟨rfl, kept_same kept⟩
  | start _ | stop _ | delete _ | removeTree _ | healthcheck _ | stillWarm _ _ =>
    exact ⟨trivial, kept_same kept⟩
  | warm key => exact ⟨genuine_warm kept _ key, kept_same kept⟩
  | leaseExplicit sandboxId => exact ⟨trivial, kept_same (kept_leaseExplicit kept admits _)⟩
  | leaseCreated key sandboxId lock =>
    obtain ⟨bare, session⟩ := admits
    have leased : (known task).after (.leaseCreated key sandboxId lock) (.ok ()) =
        { Hold.only key lock with leased := some sandboxId } := by
      rw [bare]
      rfl
    dsimp only [DaytonaPlatform.answer]
    rw [leased]
    exact ⟨trivial, kept_leaseCreated kept bare session⟩
  | leaseWarm entry lock =>
    obtain ⟨genuine, key, named, bare⟩ := admits
    have leased : (known task).after (.leaseWarm entry lock) (.ok ()) =
        { Hold.only key lock with leased := some entry.sandboxId } := by
      rw [bare]
      rfl
    dsimp only [DaytonaPlatform.answer]
    rw [leased]
    exact ⟨trivial, kept_lease kept bare genuine named⟩
  | popLease sandboxId => exact ⟨own_lease kept sandboxId, kept_popLease kept admits⟩
  | part entry parting => exact ⟨trivial, kept_same (kept_part kept _ _ entry parting)⟩
  | dropEntry entry => exact ⟨trivial, kept_same (kept_dropEntry kept admits)⟩
  | leave lease =>
    refine ⟨trivial, ?_⟩
    dsimp only [DaytonaPlatform.answer]
    unfold Processes.leave
    have holding := admits.2
    cases locked : lease.sessionLock with
    | none =>
      rw [locked] at holding
      have same : (known task).after (.leave lease) (.ok ()) = known task := by
        have none : (known task).holding = none := holding
        exact congrArg (fun holding => { known task with holding }) none.symm
      rw [same]
      exact kept_same kept
    | some lock =>
      rw [locked] at holding
      obtain ⟨key, session, bare⟩ := holding
      have left : (known task).after (.leave lease) (.ok ()) = {} := by
        rw [bare]
        rfl
      rw [left, session]
      exact kept_left kept bare (served key session lock locked)
  | excess => exact ⟨genuine_excess kept _ _ _, kept_same kept⟩
  | expired =>
    refine ⟨?_, kept_same kept⟩
    exact fun entry member => genuine_value kept _ (mem_filter.mp member).1
  | leaveReaper key lock =>
    have bare : known task = Hold.only key lock := admits
    have left : (known task).after (.leaveReaper key lock) (.ok ()) = {} := by
      rw [bare]
      rfl
    dsimp only [DaytonaPlatform.answer]
    rw [left]
    exact ⟨trivial, kept_left kept bare served⟩

end

theorem after_failed (op : DaytonaOp) (error : DaytonaError) :
  hold.after op (.error error) = hold := by
  cases op <;> rfl

theorem foreseen_failed {op : DaytonaOp} (remote : op.isRemote = true)
  (error : DaytonaError) : Foreseen platform hold op (.error error) := by
  cases op with
  | get name => cases name with
    | session _ | explicit _ => rfl
  | create _ | start _ | stop _ | delete _ | healthcheck _ | removeTree _ => rfl
  | _ => cases remote

end

theorem kept_adheres (platform : DaytonaPlatform) :
  Pool.Adheres platform.component (fun _ => sandboxContract platform) (Kept platform)
    (Served platform) := by
  intro processes known task op input kept served admits
  have reply := answered kept op input served admits
  refine ⟨_, ⟨rfl, ?_⟩, ?_⟩
  · dsimp only [component, respond]
    split
    case h_1 failure remote => exact foreseen_failed remote _
    · exact reply.1
  dsimp only [component, respond]
  split
  · rw [after_failed]
    exact kept_same kept
  exact reply.2

theorem kept_start (platform : DaytonaPlatform) (calls : Nat → SandboxCall) :
  (sandboxPool platform calls).Ready (fun _ => sandboxContract platform) (Kept platform)
    (fun _ later _ => later = {}) (fun _ => Stays {}) (fun _ => {}) := by
  refine ⟨⟨?_, ?_⟩, fun task => serve_ends (calls task)⟩
  · exact
      { made := fun _ _ => rfl
        registered := fun _ _ _ found => (nomatch found)
        single := fun _ _ _ _ _ found => (nomatch found)
        engaged := fun _ _ _ engaged => by cases engaged <;> contradiction
        holds := fun _ _ _ found => (nomatch found)
        held := fun _ _ found => (nomatch found)
        waits := fun _ _ _ found => (nomatch found) }
  exact
    { named := fun _ _ _ found => (nomatch found)
      placed := fun _ _ _ found => (nomatch found)
      leases := fun _ _ _ found => (nomatch found)
      own := fun _ _ found => (nomatch found)
      out := fun _ member => (nomatch member)
      once := nodup_nil }

def AtMostOneLease (platform : DaytonaPlatform) (processes : Processes) : Prop :=
  processes.outstanding.Pairwise (fun first second =>
    ¬ (platform.worker first.1 = platform.worker second.1 ∧ first.2.1 = second.2.1))

instance (platform : DaytonaPlatform) (processes : Processes) :
  Decidable (AtMostOneLease platform processes) := by
  unfold AtMostOneLease
  infer_instance

def Proper (processes : Processes) (task : Nat) : DaytonaOp → DaytonaInput → Prop
  | .stop sandboxId, _ => ∀ given ∈ processes.outstanding, given.2.2 ≠ sandboxId
  | .delete sandboxId, _ => ∀ given ∈ processes.outstanding, given.2.2 ≠ sandboxId
  | .leave lease, _ => ∀ lock, lease.sessionLock = some lock ↔ processes.holderOf lock = some task
  | _, _ => True

def LeftNothing (processes : Processes) (task : Nat) : Prop :=
  (∀ lock, processes.holderOf lock ≠ some task) ∧ ∀ given ∈ processes.outstanding, given.1 ≠ task

section

variable {platform : DaytonaPlatform} {processes : Processes} {known : Nat → Hold}

theorem atMostOne (kept : Kept platform processes known) : AtMostOneLease platform processes := by
  have distinct : processes.outstanding.Pairwise (fun first second => first.1 ≠ second.1) :=
    pairwise_map.mp kept.leases.once
  refine distinct.imp_of_mem ?_
  rintro ⟨first, key, sandboxId⟩ ⟨second, key', sandboxId'⟩ one two apart ⟨_, same⟩
  obtain ⟨leased, session⟩ := kept.leases.out _ one
  obtain ⟨leased', session'⟩ := kept.leases.out _ two
  obtain ⟨other, lock, _, holds, named, _⟩ := kept.leases.own first sandboxId leased
  obtain ⟨other', lock', _, holds', named', _⟩ := kept.leases.own second sandboxId' leased'
  cases named.symm.trans session
  cases named'.symm.trans session'
  subst same
  exact apart (kept.locks.one holds' holds)

theorem stops_unleased (kept : Kept platform processes known) {task : Nat}
  {sandboxId : String} (stops : MayStop platform (known task) sandboxId) :
  ∀ given ∈ processes.outstanding, given.2.2 ≠ sandboxId := by
  rintro given member rfl
  obtain ⟨leased, session⟩ := kept.leases.out given member
  obtain ⟨bare, lock, holds⟩ := stops given.2.1 session
  have same := kept.leases.unleased kept.locks holds session leased
  rw [same, bare] at leased
  cases leased

theorem proper (kept : Kept platform processes known) (task : Nat) (op : DaytonaOp)
  (input : DaytonaInput) (admits : Admits platform (known task) op) :
  Proper processes task op input := by
  cases op with
  | stop sandboxId | delete sandboxId => exact stops_unleased kept admits
  | leave lease =>
    intro lock
    have holding := admits.2
    constructor
    · intro locked
      rw [locked] at holding
      obtain ⟨key, _, bare⟩ := holding
      exact kept.locks.holds task key lock (by rw [bare]; rfl)
    intro holder
    obtain ⟨key, own⟩ := kept.locks.held task lock holder
    cases locked : lease.sessionLock with
    | none =>
      rw [locked] at holding
      rw [show (known task).holding = none from holding] at own
      cases own
    | some other =>
      rw [locked] at holding
      obtain ⟨key', _, bare⟩ := holding
      rw [bare] at own
      cases own
      rfl
  | _ => trivial

/-- Where no process takes up a session that another one has, no run names a session's sandbox, and
a lock is forgotten only when nobody waits for it, every lease is alone. -/
theorem sessions_exclusive (platform : DaytonaPlatform) (calls : Nat → SandboxCall)
  (schedule : List (Nat × DaytonaInput))
  (served : (sandboxPool platform calls).Along platform.component (Served platform) schedule) :
  (∀ state ∈ (sandboxPool platform calls).visited platform.component schedule,
    AtMostOneLease platform state) ∧
  (sandboxPool platform calls).Along platform.component Proper schedule ∧
  ∀ task error,
    ((sandboxPool platform calls).run platform.component schedule).thread task = .raised error →
    LeftNothing ((sandboxPool platform calls).run platform.component schedule).state task := by
  have start := kept_start platform calls
  refine ⟨?_, ?_, ?_⟩
  · intro state member
    obtain ⟨known, kept⟩ :=
      Pool.visited_ready (kept_adheres platform) start schedule served state member
    exact atMostOne kept
  · exact Pool.along_ready (kept_adheres platform)
      (fun _ _ task op input kept _ admits => proper kept task op input admits) start schedule
      served
  intro task error raised
  obtain ⟨known, kept, threads⟩ := Pool.run_ready (kept_adheres platform) start schedule served
  have ended := threads task
  rw [raised] at ended
  have bare : known task = {} := ended
  constructor
  · intro lock holder
    obtain ⟨key, own⟩ := kept.locks.held task lock holder
    rw [bare] at own
    cases own
  rintro given member rfl
  have leased := (kept.leases.out given member).1
  rw [bare] at leased
  cases leased

end

namespace Sessions

def platform : DaytonaPlatform where
  workers := 1
  worker _ := 0
  sessionOf sandboxId :=
    if sandboxId = "harness-session" then some { tenantId := "tenant", sessionId := "session" }
    else none
  deleteOnDestroy := false
  idleTimeout := 600
  warmPoolMaxSessions := 3
  recoveryRetention := 3600

def calls (_ : Nat) : SandboxCall :=
  .run 1 { tenantId := "tenant", sessionId := "session" } none false

def ok : DaytonaInput := { sandboxId := "harness-session" }

def fails : DaytonaInput := { failure := some (.failed "RuntimeError") }

def handover : List (Nat × DaytonaInput) :=
  List.replicate 3 (0, ok) ++ [(1, ok)] ++ List.replicate 6 (0, ok) ++ List.replicate 4 (1, ok)

theorem exclusive_handover :
  (∀ state ∈ (sandboxPool platform calls).visited platform.component handover,
    AtMostOneLease platform state) ∧
  (sandboxPool platform calls).Along platform.component Proper handover ∧
  ∀ task error, ((sandboxPool platform calls).run platform.component handover).thread task =
    .raised error →
    LeftNothing ((sandboxPool platform calls).run platform.component handover).state task :=
  sessions_exclusive platform calls handover (by decide +kernel)

/-- The first run retires its sandbox and forgets the lock that the second one was woken for; the
third makes a new lock. -/
def forgotten : List (Nat × DaytonaInput) :=
  List.replicate 6 (0, ok) ++ [(1, ok), (0, fails)] ++ List.replicate 4 (0, ok) ++
    List.replicate 5 (2, ok) ++ List.replicate 4 (1, ok)

theorem forgotten_leases_twice :
  ¬ ∀ state ∈ (sandboxPool platform calls).visited platform.component forgotten,
    AtMostOneLease platform state := by
  decide +kernel

end Sessions

end AgentHarness.Sandbox
