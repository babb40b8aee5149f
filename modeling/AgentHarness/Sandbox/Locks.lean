import AgentHarness.Sandbox.Holding

/-!
The session locks of all processes, and what the coroutines have to do with them.
-/

namespace AgentHarness.Sandbox

open Collections Interaction Dict Function List Processes Option

namespace Processes

variable (processes : Processes)

def holderOf (lock : LockId) : Option Nat := (processes.locks.get? lock).bind SessionLock.holder

def waitersOf (lock : LockId) : List Nat := (processes.locks.get? lock).elim [] SessionLock.waiters

def relock (lock : LockId) (state : SessionLock) : Processes :=
  { processes with locks := processes.locks.set lock state }

@[simp] theorem holderOf_relock (lock other : LockId) (state : SessionLock) :
  (processes.relock lock state).holderOf other =
    if other = lock then state.holder else processes.holderOf other := by
  unfold holderOf relock
  rw [get?_set]
  split <;> rfl

@[simp] theorem waitersOf_relock (lock other : LockId) (state : SessionLock) :
  (processes.relock lock state).waitersOf other =
    if other = lock then state.waiters else processes.waitersOf other := by
  unfold waitersOf relock
  rw [get?_set]
  split <;> rfl

@[simp] theorem provider_withProvider (worker other : Nat) (provider : DaytonaSandboxProvider) :
  (processes.withProvider worker provider).provider other =
    if other = worker then provider else processes.provider other := by
  exact update_apply _ _ _ _

theorem isLocked_iff {processes : Processes} {lock : LockId} :
  processes.isLocked lock = false ↔ processes.holderOf lock = none := by
  unfold isLocked holderOf
  cases processes.locks.get? lock with
  | none | some state => simp

end Processes

def Hold.Engaged (hold : Hold) (key : SessionKey) (lock : LockId) : Prop :=
  hold.holding = some (key, lock) ∨ hold.waiting = some (key, lock)

structure LocksKept (platform : DaytonaPlatform) (processes : Processes) (known : Nat → Hold) :
    Prop where
  made : ∀ lock, processes.madeLocks ≤ lock → processes.locks.get? lock = none
  registered : ∀ worker key lock, (processes.provider worker).sessionLocks.get? key = some lock →
      ∃ state, processes.locks.get? lock = some state
  single : ∀ first second : Fin platform.workers, ∀ key lock lock',
    (processes.provider first).sessionLocks.get? key = some lock →
      (processes.provider second).sessionLocks.get? key = some lock' → first = second
  engaged : ∀ task key lock, (known task).Engaged key lock →
    (processes.provider (platform.worker task)).sessionLocks.get? key = some lock
  holds : ∀ task key lock, (known task).holding = some (key, lock) →
    processes.holderOf lock = some task
  held : ∀ task lock, processes.holderOf lock = some task →
    ∃ key, (known task).holding = some (key, lock)
  waits : ∀ task key lock, (known task).waiting = some (key, lock) → task ∈ processes.waitersOf lock

namespace LocksKept

variable {platform : DaytonaPlatform} {processes later : Processes} {known learned : Nat → Hold}
  {task : Nat} {key : SessionKey} {lock : LockId} {hold : Hold}

section

variable (kept : LocksKept platform processes known)

include kept

theorem one {other : Nat} {lock' : LockId} (own : (known task).holding = some (key, lock))
  (second : (known other).holding = some (key, lock')) : other = task := by
  have here := kept.engaged task key lock (.inl own)
  have there := kept.engaged other key lock' (.inl second)
  have together := kept.single _ _ key lock lock' here there
  rw [← together, here] at there
  cases there
  have first := kept.holds task key lock own
  rw [kept.holds other key lock second] at first
  exact some.inj first

theorem framed (locks : later.locks = processes.locks)
  (made : later.madeLocks = processes.madeLocks) (registry : ∀ worker,
    (later.provider worker).sessionLocks = (processes.provider worker).sessionLocks)
  (holding : ∀ task, (learned task).holding = (known task).holding)
  (waiting : ∀ task, (learned task).waiting = (known task).waiting) :
  LocksKept platform later learned where
  made lock fresh := by
    rw [locks]
    rw [made] at fresh
    exact kept.made lock fresh
  registered worker key lock found := by
    rw [registry] at found
    rw [locks]
    exact kept.registered worker key lock found
  single first second key lock lock' one two := by
    rw [registry] at one two
    exact kept.single first second key lock lock' one two
  engaged task key lock engaged := by
    rw [registry]
    unfold Hold.Engaged at engaged
    rw [holding, waiting] at engaged
    exact kept.engaged task key lock engaged
  holds task key lock own := by
    rw [holding] at own
    unfold Processes.holderOf
    rw [locks]
    exact kept.holds task key lock own
  held task lock own := by
    unfold Processes.holderOf at own
    rw [locks] at own
    rw [holding]
    exact kept.held task lock own
  waits task key lock own := by
    rw [waiting] at own
    unfold Processes.waitersOf
    rw [locks]
    exact kept.waits task key lock own

theorem relocked {state next : SessionLock} (found : processes.locks.get? lock = some state)
  (engaged : ∀ key other, hold.Engaged key other →
    (processes.provider (platform.worker task)).sessionLocks.get? key = some other)
  (before : ∀ key other, (known task).holding = some (key, other) → other = lock)
  (holding : ∀ other, (∃ key, hold.holding = some (key, other)) ↔
    other = lock ∧ next.holder = some task)
  (waiting : ∀ key other, hold.waiting = some (key, other) → other = lock ∧ task ∈ next.waiters)
  (holders : ∀ other, other ≠ task → (next.holder = some other ↔ state.holder = some other))
  (waiters : ∀ other, other ≠ task → other ∈ state.waiters → other ∈ next.waiters) :
  LocksKept platform (processes.relock lock next) (update known task hold) where
  made other fresh := by
    have distinct : other ≠ lock := by
      rintro rfl
      rw [kept.made other fresh] at found
      cases found
    have absent := kept.made other fresh
    unfold Processes.relock
    rw [get?_set_other _ _ distinct]
    exact absent
  registered worker key other named := by
    unfold Processes.relock
    rw [get?_set]
    split
    · exact ⟨next, rfl⟩
    exact kept.registered worker key other named
  single := kept.single
  engaged other key' lock' own := by
    by_cases same : other = task
    · subst other
      rw [update_self] at own
      exact engaged key' lock' own
    rw [update_of_ne same] at own
    exact kept.engaged other key' lock' own
  holds other key' lock' own := by
    rw [Processes.holderOf_relock]
    by_cases same : other = task
    · subst other
      rw [update_self] at own
      obtain ⟨rfl, holder⟩ := (holding lock').mp ⟨key', own⟩
      rw [if_pos rfl, holder]
    rw [update_of_ne same] at own
    have holder := kept.holds other key' lock' own
    split
    case isTrue named =>
      subst named
      unfold Processes.holderOf at holder
      rw [found] at holder
      exact (holders other same).mpr holder
    · exact holder
  held other lock' own := by
    rw [Processes.holderOf_relock] at own
    by_cases same : other = task
    · subst other
      rw [update_self]
      split at own
      case isTrue named => exact (holding lock').mpr ⟨named, own⟩
      case isFalse distinct =>
        obtain ⟨key', had⟩ := kept.held task lock' own
        exact absurd (before key' lock' had) distinct
    rw [update_of_ne same]
    split at own
    case isTrue named =>
      subst named
      apply kept.held other lock'
      unfold Processes.holderOf
      rw [found]
      exact (holders other same).mp own
    · exact kept.held other lock' own
  waits other key' lock' own := by
    rw [Processes.waitersOf_relock]
    by_cases same : other = task
    · subst other
      rw [update_self] at own
      obtain ⟨rfl, queued⟩ := waiting key' lock' own
      rw [if_pos rfl]
      exact queued
    rw [update_of_ne same] at own
    have queued := kept.waits other key' lock' own
    split
    case isTrue named =>
      subst named
      unfold Processes.waitersOf at queued
      rw [found] at queued
      exact waiters other same queued
    · exact queued

end

theorem reregistered (kept : LocksKept platform processes known) {worker : Fin platform.workers}
  {next : Dict SessionKey LockId}
  (registered : ∀ key lock, next.get? key = some lock →
    ∃ state, processes.locks.get? lock = some state)
  (alone : ∀ key lock, next.get? key = some lock → ∀ other : Fin platform.workers,
    other ≠ worker → (processes.provider other).sessionLocks.get? key = none)
  (engaged : ∀ task key lock, platform.worker task = worker → (known task).Engaged key lock →
    next.get? key = some lock) :
  LocksKept platform
    (processes.withProvider worker
    { processes.provider worker with sessionLocks := next }) known where
  made := kept.made
  registered other key lock found := by
    rw [Processes.provider_withProvider] at found
    split at found
    · exact registered key lock found
    exact kept.registered other key lock found
  single first second key lock lock' one two := by
    rw [Processes.provider_withProvider] at one two
    by_cases here : first = worker
    · by_cases there : second = worker
      · rw [here, there]
      rw [if_pos (congrArg Fin.val here)] at one
      rw [if_neg (fun same => there (Fin.ext same)), alone key lock one second there] at two
      cases two
    rw [if_neg fun same => here (Fin.ext same)] at one
    by_cases there : second = worker
    · rw [if_pos (congrArg Fin.val there)] at two
      rw [alone key lock' two first here] at one
      cases one
    rw [if_neg fun same => there (Fin.ext same)] at two
    exact kept.single first second key lock lock' one two
  engaged task key lock own := by
    rw [Processes.provider_withProvider]
    split
    case isTrue same => exact engaged task key lock (Fin.ext same) own
    · exact kept.engaged task key lock own
  holds := kept.holds
  held := kept.held
  waits := kept.waits

section

variable (kept : LocksKept platform processes known)

include kept

theorem makes (key : SessionKey) : LocksKept platform
  { processes with
    madeLocks := processes.madeLocks + 1
    locks := processes.locks.set processes.madeLocks { key } } known := by
  have absent := kept.made processes.madeLocks (le_refl _)
  have older : ∀ lock state, processes.locks.get? lock = some state →
    lock ≠ processes.madeLocks := by
    rintro lock state found rfl
    rw [absent] at found
    cases found
  have unheld : processes.holderOf processes.madeLocks = none := by
    unfold Processes.holderOf
    rw [absent]
    rfl
  have empty : processes.waitersOf processes.madeLocks = [] := by
    unfold Processes.waitersOf
    rw [absent]
    rfl
  constructor
  · intro lock fresh
    have distinct : lock ≠ processes.madeLocks := by
      dsimp only at fresh
      omega
    have unmade := kept.made lock (by dsimp only at fresh; omega)
    rw [get?_set_other _ _ distinct]
    exact unmade
  · intro worker key' lock named
    obtain ⟨state, found⟩ := kept.registered worker key' lock named
    refine ⟨state, ?_⟩
    rw [get?_set_other _ _ (older lock state found)]
    exact found
  · exact kept.single
  · exact kept.engaged
  · intro task key' lock own
    have holder := kept.holds task key' lock own
    have distinct : lock ≠ processes.madeLocks := by
      rintro rfl
      rw [unheld] at holder
      cases holder
    have other := Processes.holderOf_relock processes processes.madeLocks lock { key }
    rw [if_neg distinct, holder] at other
    exact other
  · intro task lock own
    have other := Processes.holderOf_relock processes processes.madeLocks lock { key }
    have holder : processes.holderOf lock = some task := by
      split at other
      · have none : (none : Option Nat) = some task := other.symm.trans own
        cases none
      exact other.symm.trans own
    exact kept.held task lock holder
  intro task key' lock own
  have queued := kept.waits task key' lock own
  have distinct : lock ≠ processes.madeLocks := by
    rintro rfl
    rw [empty] at queued
    cases queued
  have other := Processes.waitersOf_relock processes processes.madeLocks lock { key }
  rw [if_neg distinct] at other
  rw [← other] at queued
  exact queued

theorem unheld {state : SessionLock} (found : processes.locks.get? lock = some state)
  (bare : (known task).holding = none) : state.holder ≠ some task := by
  intro holder
  have own : processes.holderOf lock = some task := by
    unfold Processes.holderOf
    rw [found]
    exact holder
  obtain ⟨key', holding⟩ := kept.held task lock own
  rw [bare] at holding
  cases holding

theorem takes {state : SessionLock} {rest : List Nat}
  (found : processes.locks.get? lock = some state) (free : state.holder = none)
  (named : (processes.provider (platform.worker task)).sessionLocks.get? key = some lock)
  (bare : (known task).holding = none)
  (waiters : ∀ other, other ≠ task → other ∈ state.waiters → other ∈ rest) :
  LocksKept platform
    (processes.relock lock { state with holder := some task, waiters := rest })
    (update known task (Hold.only key lock)) := by
  apply kept.relocked found
  · rintro key' other (engaged | engaged)
    · cases engaged
      exact named
    cases engaged
  · intro key' other had
    rw [bare] at had
    cases had
  · intro other
    constructor
    · rintro ⟨key', own⟩
      cases own
      exact ⟨rfl, rfl⟩
    rintro ⟨rfl, _⟩
    exact ⟨key, rfl⟩
  · intro key' other waiting
    cases waiting
  · intro other distinct
    rw [free]
    constructor
    · intro same
      exact absurd (some.inj same).symm distinct
    intro none
    cases none
  exact waiters

theorem acquires (bare : known task = {})
  (named : (processes.provider (platform.worker task)).sessionLocks.get? key = some lock)
  {hold : Hold}
  (entered : hold = Hold.after {} (.enter key) (.ok (lock, (processes.acquire task lock).1))) :
  LocksKept platform (processes.acquire task lock).2 (update known task hold) := by
  obtain ⟨state, found⟩ := kept.registered _ key lock named
  have before : ∀ key other, (known task).holding = some (key, other) → other = lock := by
    intro key other had
    rw [bare] at had
    cases had
  unfold acquire at entered ⊢
  rw [found] at entered ⊢
  dsimp only at entered ⊢
  split at entered
  case isTrue free =>
    rw [if_pos free]
    have taken : hold = Hold.only key lock := entered
    rw [taken]
    exact kept.takes found free.1 named (by rw [bare]) fun _ _ => id
  case isFalse busy =>
    rw [if_neg busy]
    have waits : hold = { waiting := some (key, lock) } := entered
    subst waits
    have unheld := kept.unheld found (by rw [bare])
    apply kept.relocked found
    · rintro key' other (engaged | engaged)
      · cases engaged
      cases engaged
      exact named
    · exact before
    · intro other
      constructor
      · rintro ⟨key', own⟩
        cases own
      rintro ⟨_, holder⟩
      exact absurd holder unheld
    · intro key' other waiting
      cases waiting
      exact ⟨rfl, mem_append_right _ (mem_singleton_self task)⟩
    · exact fun other _ => Iff.rfl
    exact fun other _ queued => mem_append_left _ queued

theorem enters (bare : known task = {})
  (alone : ∀ other : Fin platform.workers, other ≠ platform.worker task →
    (processes.provider other).sessionLocks.get? key = none)
  (entered : hold = Hold.after {} (.enter key)
    (.ok (processes.enter (platform.worker task) task key).1)) :
  LocksKept platform (processes.enter (platform.worker task) task key).2
    (update known task hold) := by
  unfold enter at entered ⊢
  cases registered : (processes.provider (platform.worker task)).sessionLocks.get? key with
  | some lock =>
    rw [registered] at entered
    exact kept.acquires bare registered entered
  | none =>
    rw [registered] at entered
    have made := kept.makes key
    have unengaged : ∀ other lock, platform.worker other = platform.worker task →
      ¬ (known other).Engaged key lock := by
      intro other lock together engaged
      have named := kept.engaged other key lock engaged
      rw [together, registered] at named
      cases named
    refine acquires (made.reregistered ?_ ?_ ?_) bare ?_ entered
    · exact forall_set ⟨_, get?_set_self _ _ _⟩ (made.registered _)
    · intro key' lock found other distinct
      rw [get?_set] at found
      split at found
      case isTrue same =>
        subst same
        exact alone other distinct
      · cases elsewhere : (processes.provider other).sessionLocks.get? key' with
        | none => exact elsewhere
        | some lock' => exact absurd (kept.single _ _ key' lock' lock elsewhere found) distinct
    · intro other key' lock together engaged
      rw [get?_set]
      split
      case isTrue same =>
        subst same
        exact absurd engaged (unengaged other lock together)
      · rw [← together]
        exact kept.engaged other key' lock engaged
    rw [Processes.provider_withProvider, if_pos rfl]
    exact get?_set_self _ _ _

theorem resumes (waits : known task = { waiting := some (key, lock) })
  (resumed : hold = Hold.after (known task) (.resume lock) (.ok (processes.resume task lock).1)) :
  LocksKept platform (processes.resume task lock).2 (update known task hold) := by
  have named := kept.engaged task key lock (.inr (by rw [waits]))
  obtain ⟨state, found⟩ := kept.registered _ key lock named
  unfold resume at resumed ⊢
  rw [found, waits] at resumed
  rw [found]
  dsimp only at resumed ⊢
  split at resumed
  case isTrue free =>
    rw [if_pos free]
    have taken : hold = Hold.only key lock := resumed
    rw [taken]
    obtain ⟨rest, queue⟩ := head?_eq_some_iff.mp free.2
    apply kept.takes found free.1 named (by rw [waits])
    intro other distinct queued
    rw [queue] at queued ⊢
    exact mem_of_ne_of_mem distinct queued
  case isFalse busy =>
    rw [if_neg busy]
    have same : hold = known task := resumed.trans waits.symm
    rw [same, update_eq_self]
    exact kept

theorem cancels (waits : known task = { waiting := some (key, lock) }) :
  LocksKept platform (processes.cancel task lock) (update known task {}) := by
  have named := kept.engaged task key lock (.inr (by rw [waits]))
  obtain ⟨state, found⟩ := kept.registered _ key lock named
  have unheld := kept.unheld found (by rw [waits])
  unfold cancel
  rw [found]
  apply kept.relocked found
  · rintro key' other (engaged | engaged)
    · cases engaged
    cases engaged
  · intro key' other had
    rw [waits] at had
    cases had
  · intro other
    constructor
    · rintro ⟨key', own⟩
      cases own
    rintro ⟨_, holder⟩
    exact absurd holder unheld
  · intro key' other waiting
    cases waiting
  · exact fun other _ => Iff.rfl
  intro other distinct queued
  exact mem_filter.mpr ⟨queued, decide_eq_true distinct⟩

theorem releases (holds : known task = Hold.only key lock) :
  LocksKept platform (processes.release lock) (update known task {}) := by
  have named := kept.engaged task key lock (.inl (by rw [holds]; rfl))
  obtain ⟨state, found⟩ := kept.registered _ key lock named
  have own := kept.holds task key lock (by rw [holds]; rfl)
  unfold Processes.holderOf at own
  rw [found] at own
  have holder : state.holder = some task := own
  unfold release
  rw [found]
  apply kept.relocked found
  · rintro key' other (engaged | engaged)
    · cases engaged
    cases engaged
  · intro key' other had
    rw [holds] at had
    cases had
    rfl
  · intro other
    constructor
    · rintro ⟨key', own⟩
      cases own
    rintro ⟨_, none⟩
    cases none
  · intro key' other waiting
    cases waiting
  · intro other distinct
    rw [holder]
    constructor
    · intro none
      cases none
    intro same
    exact absurd (some.inj same).symm distinct
  exact fun other _ => id

theorem forgets {worker : Fin platform.workers}
  (registered : (processes.provider worker).sessionLocks.get? key = some lock)
  (unawaited : (processes.provider worker).sessionSandboxes.get? key = none →
    processes.waitersOf lock = []) :
  LocksKept platform (processes.forgetLock worker key lock) known := by
  unfold forgetLock
  dsimp only
  split
  case isFalse => exact kept
  case isTrue unused =>
    apply kept.reregistered
    · exact fun key' lock' found => kept.registered _ key' lock' (get?_of_erase found)
    · intro key' lock' found other distinct
      rw [get?_erase] at found
      split at found
      · cases found
      cases elsewhere : (processes.provider other).sessionLocks.get? key' with
      | none => rfl
      | some second => exact absurd (kept.single _ _ key' second lock' elsewhere found) distinct
    intro task key' lock' here engaged
    have named := kept.engaged task key' lock' engaged
    rw [here] at named
    rw [get?_erase]
    split
    case isFalse => exact named
    case isTrue same =>
      subst same
      rw [registered] at named
      cases named
      cases engaged with
      | inl holding =>
        have holder := kept.holds task key' lock holding
        rw [Processes.isLocked_iff.mp unused.2] at holder
        cases holder
      | inr waiting =>
        have queued := kept.waits task key' lock waiting
        rw [unawaited unused.1] at queued
        cases queued

end

end LocksKept

end AgentHarness.Sandbox
