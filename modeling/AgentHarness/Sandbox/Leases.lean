import AgentHarness.Sandbox.Locks

/-!
The leases of all processes: a leased sandbox belongs to the coroutine that holds its session.
-/

namespace AgentHarness.Sandbox

open Collections Interaction Dict Function List Processes

def Owns (platform : DaytonaPlatform) (provider : DaytonaSandboxProvider) (hold : Hold)
  (sandboxId : String) : Prop :=
  ∃ key lock lease, hold.holding = some (key, lock) ∧ platform.sessionOf sandboxId = some key ∧
    provider.leases.get? sandboxId = some lease ∧ lease.reusable = true ∧
      lease.sessionLock = some lock

structure LeasesKept (platform : DaytonaPlatform) (processes : Processes) (known : Nat → Hold) :
    Prop where
  named : ∀ worker key sandboxId,
    (processes.provider worker).sessionSandboxes.get? key = some sandboxId →
      platform.sessionOf sandboxId = some key
  placed : ∀ worker sandboxId entry,
    (processes.provider worker).sandboxes.get? sandboxId = some entry →
      entry.sandboxId = sandboxId ∧ Genuine platform entry
  leases : ∀ worker sandboxId lease,
    (processes.provider worker).leases.get? sandboxId = some lease →
      lease.entry.sandboxId = sandboxId ∧ Genuine platform lease.entry ∧
        (platform.sessionOf sandboxId = none → lease.reusable = false ∧ lease.sessionLock = none)
  own : ∀ task sandboxId, (known task).leased = some sandboxId →
    Owns platform (processes.provider (platform.worker task)) (known task) sandboxId
  out : ∀ given ∈ processes.outstanding, (known given.1).leased = some given.2.2 ∧
    platform.sessionOf given.2.2 = some given.2.1
  once : (processes.outstanding.map Prod.fst).Nodup

structure SameSandboxes (processes later : Processes) : Prop where
  names : ∀ worker, (later.provider worker).sessionSandboxes =
    (processes.provider worker).sessionSandboxes
  entries : ∀ worker, (later.provider worker).sandboxes = (processes.provider worker).sandboxes
  leases : ∀ worker, (later.provider worker).leases = (processes.provider worker).leases
  outstanding : later.outstanding = processes.outstanding

namespace SameSandboxes

variable {processes later : Processes}

theorem relocked (locks : Dict LockId SessionLock) :
  SameSandboxes processes { processes with locks } :=
  ⟨fun _ => rfl, fun _ => rfl, fun _ => rfl, rfl⟩

theorem refl (processes : Processes) : SameSandboxes processes processes := relocked processes.locks

theorem trans {last : Processes} (first : SameSandboxes processes later)
  (second : SameSandboxes later last) : SameSandboxes processes last where
  names worker := (second.names worker).trans (first.names worker)
  entries worker := (second.entries worker).trans (first.entries worker)
  leases worker := (second.leases worker).trans (first.leases worker)
  outstanding := second.outstanding.trans first.outstanding

theorem acquire (processes : Processes) (task : Nat) (lock : LockId) :
  SameSandboxes processes (processes.acquire task lock).2 := by
  unfold Processes.acquire
  split
  · exact refl processes
  split
  · exact relocked _
  exact relocked _

theorem resume (processes : Processes) (task : Nat) (lock : LockId) :
  SameSandboxes processes (processes.resume task lock).2 := by
  unfold Processes.resume
  split
  · exact refl processes
  split
  · exact relocked _
  exact refl processes

theorem cancel (processes : Processes) (task : Nat) (lock : LockId) :
  SameSandboxes processes (processes.cancel task lock) := by
  unfold Processes.cancel
  split
  · exact refl processes
  exact relocked _

theorem release (processes : Processes) (lock : LockId) :
  SameSandboxes processes (processes.release lock) := by
  unfold Processes.release
  split
  · exact refl processes
  exact relocked _

theorem reregistered (worker : Nat) (sessionLocks : Dict SessionKey LockId) :
  SameSandboxes processes
    (processes.withProvider worker { processes.provider worker with sessionLocks }) := by
  refine ⟨?_, ?_, ?_, rfl⟩
  all_goals
    intro other
    rw [provider_withProvider]
    split
    case isTrue same => rw [same]
    · rfl

theorem enter (processes : Processes) (worker task : Nat) (key : SessionKey) :
  SameSandboxes processes (processes.enter worker task key).2 := by
  unfold Processes.enter
  split
  · exact acquire _ _ _
  have made := @reregistered processes worker
    ((processes.provider worker).sessionLocks.set key processes.madeLocks)
  have counted : SameSandboxes processes
      { processes.withProvider worker
          { processes.provider worker with
            sessionLocks :=
              (processes.provider worker).sessionLocks.set key processes.madeLocks } with
        madeLocks := processes.madeLocks + 1
        locks := processes.locks.set processes.madeLocks { key } } :=
    ⟨made.names, made.entries, made.leases, made.outstanding⟩
  exact counted.trans (acquire _ _ _)

theorem forgetLock (processes : Processes) (worker : Nat) (key : SessionKey) (lock : LockId) :
  SameSandboxes processes (processes.forgetLock worker key lock) := by
  unfold Processes.forgetLock
  dsimp only
  split
  · exact reregistered worker _
  exact refl processes

end SameSandboxes

namespace LeasesKept

variable {platform : DaytonaPlatform} {processes later : Processes} {known learned : Nat → Hold}
  {task : Nat} {key : SessionKey} {lock : LockId} {hold : Hold}

section

variable (kept : LeasesKept platform processes known)

include kept

theorem framed (names : ∀ worker key sandboxId,
    (later.provider worker).sessionSandboxes.get? key = some sandboxId →
    (processes.provider worker).sessionSandboxes.get? key = some sandboxId)
  (entries : ∀ worker sandboxId entry,
    (later.provider worker).sandboxes.get? sandboxId = some entry →
    (processes.provider worker).sandboxes.get? sandboxId = some entry)
  (leases : ∀ worker, (later.provider worker).leases = (processes.provider worker).leases)
  (outstanding : later.outstanding = processes.outstanding)
  (leased : ∀ task, (learned task).leased = (known task).leased)
  (holding : ∀ task, (known task).leased ≠ none → (learned task).holding = (known task).holding) :
  LeasesKept platform later learned where
  named worker key sandboxId found := kept.named worker key sandboxId (names _ _ _ found)
  placed worker sandboxId entry found := kept.placed worker sandboxId entry (entries _ _ _ found)
  leases worker sandboxId lease found := by
    rw [leases] at found
    exact kept.leases worker sandboxId lease found
  own task sandboxId has := by
    rw [leased] at has
    obtain ⟨key, lock, lease, holds, rest⟩ := kept.own task sandboxId has
    refine ⟨key, lock, lease, ?_, ?_⟩
    · rw [holding task (by rw [has]; exact Option.some_ne_none _), holds]
    rw [leases]
    exact rest
  out given member := by
    rw [outstanding] at member
    rw [leased]
    exact kept.out given member
  once := by
    rw [outstanding]
    exact kept.once

theorem relearned (bare : (known task).leased = none) (still : hold.leased = none)
  (same : SameSandboxes processes later) :
  LeasesKept platform later (update known task hold) := by
  apply kept.framed
  · intro worker key sandboxId found
    rw [same.names] at found
    exact found
  · intro worker sandboxId entry found
    rw [same.entries] at found
    exact found
  · exact same.leases
  · exact same.outstanding
  · intro other
    by_cases same : other = task
    · rw [same, update_self, still, bare]
    rw [update_of_ne same]
  intro other has
  by_cases same : other = task
  · rw [same, bare] at has
    exact absurd rfl has
  rw [update_of_ne same]

theorem provides {worker : Nat} {next : DaytonaSandboxProvider}
  (names : ∀ key sandboxId, next.sessionSandboxes.get? key = some sandboxId →
    platform.sessionOf sandboxId = some key)
  (entries : ∀ sandboxId entry, next.sandboxes.get? sandboxId = some entry →
    entry.sandboxId = sandboxId ∧ Genuine platform entry)
  (leases : ∀ sandboxId lease, next.leases.get? sandboxId = some lease →
    lease.entry.sandboxId = sandboxId ∧ Genuine platform lease.entry ∧
    (platform.sessionOf sandboxId = none → lease.reusable = false ∧ lease.sessionLock = none))
  (own : ∀ task sandboxId, (platform.worker task : Nat) = worker →
    (known task).leased = some sandboxId →
    next.leases.get? sandboxId = (processes.provider worker).leases.get? sandboxId) :
  LeasesKept platform (processes.withProvider worker next) known where
  named other key sandboxId found := by
    rw [provider_withProvider] at found
    split at found
    · exact names key sandboxId found
    exact kept.named other key sandboxId found
  placed other sandboxId entry found := by
    rw [provider_withProvider] at found
    split at found
    · exact entries sandboxId entry found
    exact kept.placed other sandboxId entry found
  leases other sandboxId lease found := by
    rw [provider_withProvider] at found
    split at found
    · exact leases sandboxId lease found
    exact kept.leases other sandboxId lease found
  own task sandboxId has := by
    have had := kept.own task sandboxId has
    rw [provider_withProvider]
    split
    case isFalse => exact had
    case isTrue here =>
      obtain ⟨key, lock, lease, holds, session, recorded, rest⟩ := had
      refine ⟨key, lock, lease, holds, session, ?_, rest⟩
      rw [own task sandboxId here has, ← here]
      exact recorded
  out := kept.out
  once := kept.once

theorem unleased (locks : LocksKept platform processes known) {sandboxId : String}
  (holds : (known task).holding = some (key, lock))
  (session : platform.sessionOf sandboxId = some key) {other : Nat}
  (leased : (known other).leased = some sandboxId) : other = task := by
  obtain ⟨key', lock', lease, holding, named, _⟩ := kept.own other sandboxId leased
  rw [session] at named
  cases named
  exact locks.one holds holding

theorem granted {sandboxId : String} {lease : SandboxLease} (bare : known task = Hold.only key lock)
  (session : platform.sessionOf sandboxId = some key) (recorded :
    (processes.provider (platform.worker task)).leases.get? sandboxId = some lease)
  (reusable : lease.reusable = true) (locked : lease.sessionLock = some lock) :
  LeasesKept platform
    { processes with outstanding := (task, key, sandboxId) :: processes.outstanding }
    (update known task { Hold.only key lock with leased := some sandboxId }) := by
  have elsewhere : ∀ given ∈ processes.outstanding, given.1 ≠ task := by
    rintro given member same
    have leased := (kept.out given member).1
    rw [same, bare] at leased
    cases leased
  refine ⟨kept.named, kept.placed, kept.leases, ?_, ?_, ?_⟩
  · intro other id has
    by_cases same : other = task
    · subst other
      rw [update_self] at has ⊢
      cases has
      exact ⟨key, lock, lease, rfl, session, recorded, reusable, locked⟩
    rw [update_of_ne same] at has ⊢
    exact kept.own other id has
  · intro given member
    rcases mem_cons.mp member with first | older
    · rw [first]
      rw [update_self]
      exact ⟨rfl, session⟩
    rw [update_of_ne (elsewhere given older)]
    exact kept.out given older
  rw [map_cons, nodup_cons]
  constructor
  · intro member
    obtain ⟨given, older, same⟩ := mem_map.mp member
    exact elsewhere given older same
  exact kept.once

theorem lends (locks : LocksKept platform processes known) {entry : SandboxEntry}
  (bare : known task = Hold.only key lock) (genuine : Genuine platform entry)
  (named : entry.sessionKey = some key) :
  LeasesKept platform
    (DaytonaPlatform.lease processes task (platform.worker task) entry lock)
    (update known task { Hold.only key lock with leased := some entry.sandboxId }) := by
  have session : platform.sessionOf entry.sandboxId = some key := genuine.symm.trans named
  have free : ∀ other, (known other).leased ≠ some entry.sandboxId := by
    intro other leased
    have same := kept.unleased locks (by rw [bare]; rfl) session leased
    rw [same, bare] at leased
    cases leased
  unfold DaytonaPlatform.lease
  rw [named]
  apply granted _ bare session
  · rw [provider_withProvider, if_pos rfl]
    exact get?_set_self _ _ _
  · rfl
  · rfl
  apply kept.provides
  · exact kept.named _
  · exact kept.placed _
  · refine forall_set ?_ (kept.leases _)
    refine ⟨rfl, genuine, ?_⟩
    intro plain
    rw [session] at plain
    cases plain
  intro other sandboxId _ leased
  apply get?_set_other
  rintro rfl
  exact free other leased

theorem returns (sandboxId : String) (still : hold.leased = none)
  (free : ∀ other, other ≠ task → (known other).leased ≠ some sandboxId) :
  LeasesKept platform
    (DaytonaPlatform.popLease processes task (platform.worker task) sandboxId).2
    (update known task hold) := by
  have given : LeasesKept platform
      { processes with
        outstanding := processes.outstanding.filter (fun held => held.1 ≠ task) }
      (update known task hold) := by
    refine ⟨kept.named, kept.placed, kept.leases, ?_, ?_, ?_⟩
    · intro other id has
      by_cases same : other = task
      · rw [same, update_self, still] at has
        cases has
      rw [update_of_ne same] at has ⊢
      exact kept.own other id has
    · intro given member
      obtain ⟨older, distinct⟩ := mem_filter.mp member
      rw [update_of_ne (of_decide_eq_true distinct)]
      exact kept.out given older
    exact kept.once.sublist (filter_sublist.map Prod.fst)
  apply given.provides
  · exact kept.named _
  · exact kept.placed _
  · exact fun id lease found => kept.leases _ id lease (get?_of_erase found)
  intro other id _ has
  rw [get?_erase, if_neg]
  · rfl
  rintro rfl
  by_cases same : other = task
  · rw [same, update_self, still] at has
    cases has
  rw [update_of_ne same] at has
  exact free other same has

end

end LeasesKept

end AgentHarness.Sandbox
