import AgentHarness.Sandbox.Daytona

/-!
What a coroutine holds: the lock of a session, a place in its queue, a lease of its sandbox.
-/

namespace AgentHarness.Sandbox

open Interaction Program DaytonaPlatform

structure Hold where
  waiting : Option (SessionKey × LockId) := none
  holding : Option (SessionKey × LockId) := none
  leased : Option String := none

namespace Hold

def after (hold : Hold) : (op : DaytonaOp) → Except DaytonaError op.Answer → Hold
  | .enter key, .ok entered =>
    if entered.2 then { hold with holding := some (key, entered.1) }
    else { hold with waiting := some (key, entered.1) }
  | .resume _, .ok acquired =>
    if acquired then { hold with waiting := none, holding := hold.waiting } else hold
  | .cancel _, .ok _ => { hold with waiting := none }
  | .abandon _, .ok _ => { hold with holding := none }
  | .leaseCreated _ sandboxId _, .ok _ => { hold with leased := some sandboxId }
  | .leaseWarm entry _, .ok _ => { hold with leased := some entry.sandboxId }
  | .popLease _, .ok _ => { hold with leased := none }
  | .leave _, .ok _ => { hold with holding := none }
  | .leaveReaper _ _, .ok _ => { hold with holding := none }
  | _, _ => hold

def only (key : SessionKey) (lock : LockId) : Hold := { holding := some (key, lock) }

end Hold

variable (platform : DaytonaPlatform)

def Genuine (entry : SandboxEntry) : Prop := entry.sessionKey = platform.sessionOf entry.sandboxId

def MayStop (hold : Hold) (sandboxId : String) : Prop :=
  ∀ key ∈ platform.sessionOf sandboxId, hold.leased = none ∧ ∃ lock, hold.holding = some (key, lock)

def Admits (hold : Hold) : DaytonaOp → Prop
  | .enter _ => hold = {}
  | .resume lock | .cancel lock => ∃ key, hold = { waiting := some (key, lock) }
  | .abandon lock => ∃ key, hold = Hold.only key lock
  | .stop sandboxId | .delete sandboxId => MayStop platform hold sandboxId
  | .dropEntry entry => ∀ key ∈ entry.sessionKey, ∃ lock, hold.holding = some (key, lock)
  | .leaseExplicit sandboxId => platform.sessionOf sandboxId = none
  | .leaseCreated key sandboxId lock =>
    hold = Hold.only key lock ∧ platform.sessionOf sandboxId = some key
  | .leaseWarm entry lock =>
    Genuine platform entry ∧ ∃ key, entry.sessionKey = some key ∧ hold = Hold.only key lock
  | .popLease sandboxId =>
    hold.leased = some sandboxId ∨ hold = {} ∧ platform.sessionOf sandboxId = none
  | .leave lease =>
    hold.leased = none ∧
      match lease.sessionLock with
      | none => hold.holding = none
      | some lock => ∃ key, lease.entry.sessionKey = some key ∧ hold = Hold.only key lock
  | .leaveReaper key lock => hold = Hold.only key lock
  | _ => True

def OwnLease (hold : Hold) (sandboxId : String) (found : Option SandboxLease) : Prop :=
  (hold.leased = some sandboxId → ∃ lease, found = some lease ∧ lease.reusable = true ∧
      ∃ key lock, hold.holding = some (key, lock) ∧ lease.sessionLock = some lock ∧
        lease.entry.sessionKey = some key) ∧
    (platform.sessionOf sandboxId = none → ∀ lease ∈ found, lease.reusable = false ∧
      lease.sessionLock = none) ∧
    ∀ lease ∈ found, lease.entry.sandboxId = sandboxId ∧ Genuine platform lease.entry

def Foreseen (hold : Hold) : (op : DaytonaOp) → Except DaytonaError op.Answer → Prop
  | .get (.session key), .ok sandboxId => platform.sessionOf sandboxId = some key
  | .get (.explicit _), .ok sandboxId => platform.sessionOf sandboxId = none
  | .create key, .ok sandboxId => platform.sessionOf sandboxId = some key
  | .warm key, .ok found => ∀ entry ∈ found, Genuine platform entry ∧ entry.sessionKey = some key
  | .popLease sandboxId, .ok found => OwnLease platform hold sandboxId found
  | .excess, .ok entries => ∀ entry ∈ entries, Genuine platform entry
  | .expired, .ok found => ∀ entry ∈ found.2, Genuine platform entry
  | op, .error _ => op.isRemote = true
  | _, _ => True

def sandboxContract : Contract DaytonaOp DaytonaOp.Answer DaytonaError Hold where
  allowed := Admits platform
  learns hold op answer later := later = hold.after op answer ∧ Foreseen platform hold op answer

section

variable {platform : DaytonaPlatform} {hold : Hold} {α β : Type}

abbrev Stays (hold : Hold) : Hold → DaytonaError → Prop := fun later _ => later = hold

variable {fail : Hold → DaytonaError → Prop}

theorem wp_caught {program : DaytonaProgram α} {post : Hold → Except DaytonaError α → Prop}
  (inner : program.wp (sandboxContract platform) (fun later value => post later (.ok value))
    (fun later error => post later (.error error)) hold) :
  (caught program).wp (sandboxContract platform) post fail hold := by
  unfold caught
  rw [wp_catching, wp_bind]
  exact inner

theorem wp_await (lock : LockId) (turns : Nat) (key : SessionKey)
  (waits : hold = { waiting := some (key, lock) }) :
  (await lock turns).wp (sandboxContract platform)
    (fun later _ => later = Hold.only key lock) (Stays {}) hold := by
  induction turns generalizing hold with
  | zero =>
    rw [await, wp_bind, wp_perform, waits]
    refine ⟨⟨key, rfl⟩, fun _ _ learned => learned.1, ?_⟩
    exact fun _ _ learned => (nomatch learned.2)
  | succ turns ih =>
    rw [await, wp_do_perform, waits]
    refine ⟨⟨key, rfl⟩, ?_, fun _ _ learned => (nomatch learned.2)⟩
    intro acquired later learned
    have noted := learned.1
    cases acquired with
    | true =>
      rw [if_pos rfl]
      exact noted
    | false =>
      rw [if_neg Bool.false_ne_true]
      exact ih noted

variable (turns : Nat)

theorem wp_acquireLock (key : SessionKey) : (acquireLock turns key).wp (sandboxContract platform)
  (fun later lock => later = Hold.only key lock) (Stays {}) {} := by
  rw [acquireLock, wp_do_perform]
  refine ⟨rfl, ?_, fun _ _ learned => (nomatch learned.2)⟩
  rintro ⟨lock, acquired⟩ later learned
  have noted := learned.1
  cases acquired with
  | true =>
    rw [if_pos rfl]
    exact noted
  | false =>
    rw [if_neg Bool.false_ne_true, wp_bind]
    exact wp_mono (wp_await lock turns key noted) (fun _ _ => id) fun _ _ => id

theorem wp_local (op : DaytonaOp) (isLocal : op.isRemote = false)
  (admits : Admits platform hold op) {post : Hold → op.Answer → Prop}
  (rest : ∀ value, Foreseen platform hold op (.ok value) → post (hold.after op (.ok value)) value) :
  (ask op).wp (sandboxContract platform) post fail hold := by
  rw [wp_perform]
  refine ⟨admits, ?_, ?_⟩
  · intro value later learned
    rw [learned.1]
    exact rest value learned.2
  intro error later learned
  have remote : op.isRemote = true := by
    have foreseen := learned.2
    cases op with
    | get name => cases name with
      | session _ | explicit _ => exact foreseen
    | _ => exact foreseen
  rw [isLocal] at remote
  cases remote

theorem wp_remote (op : DaytonaOp) (remote : op.isRemote = true)
  (admits : Admits platform hold op) {post : Hold → op.Answer → Prop}
  (rest : ∀ value, Foreseen platform hold op (.ok value) → post hold value) :
  (ask op).wp (sandboxContract platform) post (Stays hold) hold := by
  have same : ∀ answer, hold.after op answer = hold := by
    intro answer
    cases op with
    | get _ | create _ | start _ | stop _ | delete _ | healthcheck _ | removeTree _ => rfl
    | _ => cases remote
  rw [wp_perform]
  refine ⟨admits, ?_, ?_⟩
  · intro value later learned
    rw [learned.1, same]
    exact rest value learned.2
  intro error later learned
  rw [learned.1, same]

variable {entry : SandboxEntry}

theorem mayDrop (genuine : Genuine platform entry)
  (stops : MayStop platform hold entry.sandboxId) : Admits platform hold (.dropEntry entry) := by
  intro key named
  have session : key ∈ platform.sessionOf entry.sandboxId := by
    rw [← genuine]
    exact named
  exact (stops key session).2

theorem wp_stopAndDelete (stops : MayStop platform hold entry.sandboxId) :
  (platform.stopAndDelete entry).wp (sandboxContract platform) (fun later _ => later = hold)
    (Stays hold) hold := by
  rw [stopAndDelete, wp_do]
  apply wp_remote (.stop _) rfl stops
  intro _ _
  split
  · exact wp_remote (.delete _) rfl stops fun _ _ => rfl
  rfl

theorem wp_retire (genuine : Genuine platform entry)
  (stops : MayStop platform hold entry.sandboxId) :
  (platform.retire entry).wp (sandboxContract platform) (fun later _ => later = hold)
    (Stays hold) hold := by
  rw [retire, wp_do, wp_catching]
  have dropped : (ask (.dropEntry entry)).wp (sandboxContract platform)
    (fun later _ => later = hold) (Stays hold) hold :=
    wp_local (.dropEntry entry) rfl (mayDrop genuine stops) fun _ _ => rfl
  apply wp_mono (wp_stopAndDelete stops)
  · rintro later _ rfl
    exact dropped
  rintro later error rfl
  split
  · exact dropped
  rfl

theorem wp_start (sandboxId : String) {post : Hold → String → Prop} (rest : post hold sandboxId) :
  ((ask (.start sandboxId)).bind fun _ => done sandboxId).wp (sandboxContract platform) post
    (Stays hold) hold := by
  rw [wp_bind]
  exact wp_remote (.start sandboxId) rfl trivial fun _ _ => rest

abbrev Found (platform : DaytonaPlatform) (hold : Hold) (key : SessionKey) (later : Hold)
  (sandboxId : String) : Prop :=
  later = hold ∧ platform.sessionOf sandboxId = some key

variable (key : SessionKey)

theorem wp_findOrCreate : (findOrCreate key).wp (sandboxContract platform) (Found platform hold key)
    (Stays hold) hold := by
  rw [findOrCreate, wp_do]
  apply wp_caught
  have sought : (ask (.get (.session key))).wp (sandboxContract platform) (Found platform hold key)
    (Stays hold) hold :=
    wp_remote (.get (.session key)) rfl trivial fun _ found => ⟨rfl, found⟩
  have made : (ask (.create key)).wp (sandboxContract platform) (Found platform hold key)
    (Stays hold) hold :=
    wp_remote (.create key) rfl trivial fun _ found => ⟨rfl, found⟩
  apply wp_mono sought
  · rintro later sandboxId ⟨rfl, found⟩
    exact wp_start sandboxId ⟨rfl, found⟩
  rintro later error rfl
  cases error with
  | notFound =>
    rw [wp_do]
    apply wp_caught
    apply wp_mono made
    · exact fun _ _ => id
    rintro last error rfl
    cases error with
    | conflict =>
      rw [wp_do]
      apply wp_mono sought
      · rintro late sandboxId ⟨rfl, found⟩
        exact wp_start sandboxId ⟨rfl, found⟩
      exact fun _ _ => id
    | notFound | failed _ | cancelled => rfl
  | conflict | failed _ | cancelled => rfl

def Leased (platform : DaytonaPlatform) (key : SessionKey) (lock : LockId) (later : Hold)
  (sandboxId : String) : Prop :=
  later = { Hold.only key lock with leased := some sandboxId } ∧
    platform.sessionOf sandboxId = some key

theorem wp_createAndLease (lock : LockId) : (createAndLease key lock).wp (sandboxContract platform)
  (Leased platform key lock) (Stays (Hold.only key lock)) (Hold.only key lock) := by
  rw [createAndLease, wp_do]
  apply wp_mono (wp_findOrCreate key)
  · rintro later sandboxId ⟨rfl, found⟩
    rw [wp_do]
    exact wp_local (.leaseCreated key sandboxId lock) rfl ⟨rfl, found⟩ fun _ _ => ⟨rfl, found⟩
  exact fun _ _ => id

theorem mayStop_only {key : SessionKey} (lock : LockId) (genuine : Genuine platform entry)
  (named : entry.sessionKey = some key) :
  MayStop platform (Hold.only key lock) entry.sandboxId := by
  intro other found
  have same : platform.sessionOf entry.sandboxId = some key := genuine.symm.trans named
  cases (Option.mem_def.mp found).symm.trans same
  exact ⟨rfl, lock, rfl⟩

theorem wp_acquireSession (lock : LockId) :
  (platform.acquireSession key lock).wp (sandboxContract platform)
    (Leased platform key lock) (Stays (Hold.only key lock)) (Hold.only key lock) := by
  rw [acquireSession, wp_do]
  apply wp_local (.warm key) rfl trivial
  intro found foreseen
  cases found with
  | none => exact wp_createAndLease key lock
  | some entry =>
    obtain ⟨genuine, named⟩ := foreseen entry rfl
    rw [wp_do]
    apply wp_remote (.healthcheck _) rfl trivial
    intro healthy _
    split
    · rw [wp_do]
      exact wp_local (.leaseWarm entry lock) rfl ⟨genuine, key, named, rfl⟩
        (fun _ _ => ⟨rfl, genuine.symm.trans named⟩)
    rw [wp_do]
    apply wp_mono (wp_retire genuine (mayStop_only lock genuine named))
    · rintro later _ rfl
      exact wp_createAndLease key lock
    exact fun _ _ => id

def Provisioned (platform : DaytonaPlatform) (later : Hold) (sandboxId : String) : Prop :=
  (∃ key lock, Leased platform key lock later sandboxId) ∨
    later = {} ∧ platform.sessionOf sandboxId = none

theorem wp_provision (key : SessionKey) (existing : Option String) :
  (platform.provision turns key existing).wp (sandboxContract platform) (Provisioned platform)
    (Stays {}) {} := by
  cases existing with
  | some name =>
    rw [provision, wp_do]
    apply wp_remote (.get (.explicit name)) rfl trivial
    intro sandboxId plain
    rw [wp_do]
    apply wp_remote (.start sandboxId) rfl trivial
    intro _ _
    rw [wp_do]
    exact wp_local (.leaseExplicit sandboxId) rfl plain fun _ _ => .inr ⟨rfl, plain⟩
  | none =>
    rw [provision, wp_do]
    apply wp_mono (wp_acquireLock turns key)
    · rintro later lock rfl
      rw [wp_catching]
      apply wp_mono (wp_acquireSession key lock)
      · exact fun later sandboxId leased => .inl ⟨key, lock, leased⟩
      rintro later error rfl
      rw [wp_bind]
      exact wp_local (.abandon lock) rfl ⟨key, rfl⟩ fun _ _ => rfl
    exact fun _ _ => id

theorem wp_reapWarmEntry (genuine : Genuine platform entry) (releasedBefore : Option Nat) :
  (platform.reapWarmEntry turns entry releasedBefore).wp (sandboxContract platform)
    (fun later _ => later = {}) (Stays {}) {} := by
  unfold reapWarmEntry
  split
  · rfl
  case h_2 key named =>
    rw [wp_do]
    apply wp_mono (wp_acquireLock turns key)
    · rintro later lock rfl
      have left : ∀ post : Hold → Unit → Prop, (∀ value, post {} value) →
        ∀ fail, (ask (.leaveReaper key lock)).wp (sandboxContract platform) post fail
          (Hold.only key lock) :=
        fun post rest fail => wp_local (.leaveReaper key lock) rfl rfl fun value _ => rest value
      rw [wp_ensuring, wp_do]
      apply wp_local (.stillWarm entry releasedBefore) rfl trivial
      intro warm _
      split
      · apply wp_mono (wp_retire genuine (mayStop_only lock genuine named))
        · rintro later _ rfl
          exact left _ (fun _ => rfl) _
        rintro later error rfl
        exact left _ (fun _ => rfl) _
      exact left _ (fun _ => rfl) _
    exact fun _ _ => id

theorem wp_reapAll {entries : List SandboxEntry}
  (genuine : ∀ entry ∈ entries, Genuine platform entry) (releasedBefore : Option Nat) :
  (platform.reapAll turns entries releasedBefore).wp (sandboxContract platform)
    (fun later _ => later = {}) (Stays {}) {} := by
  have bare : (fun later : Hold => later = {}) {} := rfl
  refine wp_each bare ?_
  rintro entry member now rfl
  rw [wp_catching]
  apply wp_mono (wp_reapWarmEntry turns (genuine entry member) releasedBefore)
  · exact fun _ _ => id
  rintro later error rfl
  split
  · rfl
  rfl

theorem wp_evictExcessWarm :
  (platform.evictExcessWarm turns).wp (sandboxContract platform) (fun later _ => later = {})
    (Stays {}) {} := by
  rw [evictExcessWarm, wp_do]
  apply wp_local .excess rfl trivial
  exact fun entries genuine => wp_reapAll turns genuine none

theorem wp_reapExpired :
  (platform.reapExpired turns).wp (sandboxContract platform) (fun later _ => later = {})
    (Stays {}) {} := by
  rw [DaytonaPlatform.reapExpired, wp_do]
  apply wp_local .expired rfl trivial
  intro found genuine
  rw [wp_do]
  apply wp_mono (wp_reapAll turns genuine _)
  · rintro later _ rfl
    exact wp_evictExcessWarm turns
  exact fun _ _ => id

variable {lease : SandboxLease}

theorem wp_partSession (preserve : Bool) (genuine : Genuine platform lease.entry)
  (stops : MayStop platform hold lease.entry.sandboxId) :
  (platform.partSession lease preserve).wp (sandboxContract platform)
    (fun later _ => later = hold) (Stays hold) hold := by
  unfold partSession
  split
  · rw [wp_bind]
    exact wp_local (.part _ .parked) rfl trivial fun _ _ => rfl
  rw [wp_do]
  apply wp_caught
  have removed : (ask (.removeTree lease.entry.sandboxId)).wp (sandboxContract platform)
    (fun later _ => later = hold) (Stays hold) hold :=
    wp_remote (.removeTree _) rfl trivial fun _ _ => rfl
  apply wp_mono removed
  · rintro later _ rfl
    rw [wp_bind]
    exact wp_local (.part _ .cleaned) rfl trivial fun _ _ => rfl
  rintro later error rfl
  have cleared : ((ask (.dropEntry lease.entry)).bind fun _ =>
      ((platform.retire lease.entry).catching (fun error =>
        if error = .cancelled then raised error else done ())).bind fun _ =>
          done false).wp (sandboxContract platform) (fun last _ => last = later) (Stays later)
      later := by
    rw [wp_bind]
    apply wp_local (.dropEntry _) rfl (mayDrop genuine stops)
    intro _ _
    rw [wp_bind, wp_catching]
    apply wp_mono (wp_retire genuine stops)
    · exact fun _ _ => id
    rintro last error rfl
    split
    · rfl
    rfl
  cases error with
  | cancelled => rfl
  | notFound | conflict | failed _ => exact cleared

theorem wp_partExplicit (preserve : Bool) (genuine : Genuine platform lease.entry)
  (stops : MayStop platform hold lease.entry.sandboxId) :
  (platform.partExplicit lease preserve).wp (sandboxContract platform)
    (fun later _ => later = hold) (Stays hold) hold := by
  rw [partExplicit, wp_do]
  apply wp_local (.dropEntry _) rfl (mayDrop genuine stops)
  intro _ _
  rw [wp_do]
  apply wp_remote (.stop _) rfl stops
  intro _ _
  split
  · rw [wp_bind]
    exact wp_remote (.delete _) rfl stops fun _ _ => rfl
  rfl

theorem wp_parted (turns : Nat) {body : DaytonaProgram Bool}
  (parted : body.wp (sandboxContract platform) (fun later _ => later = hold) (Stays hold) hold)
  (leaves : Admits platform hold (.leave lease)) (bare : hold.waiting = none) :
  ((ensuring body (ask (.leave lease))).bind (fun evict =>
    if evict then platform.evictExcessWarm turns else done ())).wp (sandboxContract platform)
    (fun later _ => later = {}) (Stays {}) hold := by
  have empty : ({ hold with holding := none } : Hold) = {} := by
    obtain ⟨waiting, holding, leased⟩ := hold
    have gone : leased = none := leaves.1
    have still : waiting = none := bare
    rw [gone, still]
  rw [wp_bind, wp_ensuring]
  apply wp_mono parted
  · rintro later evict rfl
    apply wp_local (.leave lease) rfl leaves
    intro _ _
    have left : later.after (.leave lease) (.ok ()) = {} := empty
    rw [left]
    split
    · exact wp_evictExcessWarm turns
    rfl
  rintro later error rfl
  exact wp_local (.leave lease) rfl leaves fun _ _ => empty

theorem wp_destroy (sandboxId : String) (preserve : Bool)
  (provisioned : Provisioned platform hold sandboxId) :
  (platform.destroy turns sandboxId preserve).wp (sandboxContract platform)
    (fun later _ => later = {}) (Stays {}) hold := by
  rw [destroy, wp_do]
  rcases provisioned with ⟨key, lock, same, session⟩ | ⟨same, plain⟩
  · rw [same]
    apply wp_local (.popLease sandboxId) rfl (.inl rfl)
    intro found own
    obtain ⟨lease, rfl, reusable, key', lock', holds, locked, named⟩ := own.1 rfl
    cases holds
    obtain ⟨_, genuine⟩ := own.2.2 lease rfl
    dsimp only
    rw [bind_eq, if_pos reusable]
    apply @wp_parted platform (Hold.only key lock)
    · exact wp_partSession preserve genuine (mayStop_only lock genuine named)
    · refine ⟨rfl, ?_⟩
      rw [locked]
      exact ⟨key, named, rfl⟩
    rfl
  rw [same]
  apply wp_local (.popLease sandboxId) rfl (.inr ⟨rfl, plain⟩)
  intro found own
  cases found with
  | none => rfl
  | some lease =>
    obtain ⟨explicit, unlocked⟩ := own.2.1 plain lease rfl
    obtain ⟨located, genuine⟩ := own.2.2 lease rfl
    have stops : MayStop platform {} lease.entry.sandboxId := by
      intro key session
      rw [located, plain] at session
      cases session
    dsimp only
    rw [bind_eq, if_neg (by rw [explicit]; exact Bool.false_ne_true)]
    apply @wp_parted platform {}
    · exact wp_partExplicit preserve genuine stops
    · refine ⟨rfl, ?_⟩
      rw [unlocked]
    rfl

theorem serve_ends (call : SandboxCall) :
  (platform.serve call).wp (sandboxContract platform) (fun later _ => later = {}) (Stays {})
    {} := by
  cases call with
  | run turns key existing preserve =>
    rw [serve, wp_bind]
    apply wp_mono (wp_provision turns key existing)
    · exact fun later sandboxId provisioned => wp_destroy turns sandboxId preserve provisioned
    exact fun _ _ => id
  | reapExpired turns => exact wp_reapExpired turns

end

end AgentHarness.Sandbox
