import AgentHarness.Worker.SessionLocks

/-!
One session at a time.
-/

namespace AgentHarness.WorkerLoop

open Collections Dict List Option

namespace Loop

def uses (key : String × String) (_id : Nat) (child : Child) : Bool :=
  decide (child.task.sessionKey = key) && decide (child.phase ≠ .ended)

def live (loop : Loop) (key : String × String) : Nat := loop.children.countWhere (uses key)

structure Kept (loop : Loop) : Prop where
  fresh : ∀ id child, loop.children.get? id = some child → id < loop.spawned
  made : ∀ key lock, loop.sessionLocks.get? key = some lock → lock < loop.objects
  own : ∀ key other lock, loop.sessionLocks.get? key = some lock →
    loop.sessionLocks.get? other = some lock → key = other
  counted : ∀ key, loop.live key ≤ (loop.sessionUsers.get? key).getD 0
  listed : ∀ id child, loop.children.get? id = some child → child.phase ≠ .ended →
    loop.sessionLocks.get? child.task.sessionKey = some child.lock
  held : ∀ id child, loop.children.get? id = some child → child.phase = .executing →
    loop.holders.get? child.lock = some id

theorem kept_initial : Kept {} where
  fresh _ _ := nofun
  made _ _ := nofun
  own _ _ _ := nofun
  counted _ := Nat.zero_le _
  listed _ _ := nofun
  held _ _ := nofun

section

variable {loop later : Loop} {id : Nat} {child : Child} {phase : Phase}

theorem live_set (loop : Loop) (key : String × String) (id : Nat) (child : Child) :
  (loop.children.set id child).countWhere (uses key) +
    Dict.weigh (uses key) id (loop.children.get? id) =
    loop.live key + Dict.weigh (uses key) id (some child) :=
  countWhere_set loop.children id child

variable {key : String × String}

theorem weigh_live (running : child.phase ≠ .ended) :
  Dict.weigh (uses key) id (some child) = if child.task.sessionKey = key then 1 else 0 := by
  simp [Dict.weigh, uses, running]

theorem weigh_ended (ended : child.phase = .ended) : Dict.weigh (uses key) id (some child) = 0 := by
  simp [Dict.weigh, uses, ended]

theorem Kept.children_set (kept : Kept loop)
  (found : loop.children.get? id = some child) (other : Nat) (next : Child)
  (stored : (loop.children.set id { child with phase }).get? other = some next) :
  other < loop.spawned := by
  revert other next
  exact forall_set (kept.fresh id child found) kept.fresh

theorem Kept.goes (kept : Kept loop) (found : loop.children.get? id = some child)
  (running : child.phase ≠ .ended) (goes : phase ≠ .ended) (holders : Dict Nat Nat)
  (mine : phase = .executing → holders.get? child.lock = some id)
  (others : ∀ other next, other ≠ id → loop.children.get? other = some next →
    next.phase = .executing → holders.get? next.lock = some other) :
  Kept { loop.move id child phase with holders } where
  fresh := kept.children_set found
  made := kept.made
  own := kept.own
  counted key := by
    have moved := loop.live_set key id { child with phase }
    rw [found, weigh_live running, weigh_live goes] at moved
    have before := kept.counted key
    have after : Loop.live { loop.move id child phase with holders } key =
        (loop.children.set id { child with phase }).countWhere (uses key) := rfl
    have users : ({ loop.move id child phase with holders } : Loop).sessionUsers =
        loop.sessionUsers := rfl
    rw [after, users]
    dsimp only at moved
    omega
  listed := forall_set (fun _ => kept.listed id child found running) kept.listed
  held other next stored executing := by
    dsimp only [move] at stored ⊢
    rw [get?_set] at stored
    split at stored
    case isTrue same =>
      cases stored
      rw [same]
      exact mine executing
    case isFalse distinct => exact others other next distinct stored executing

theorem Kept.ends (kept : Kept loop) (found : loop.children.get? id = some child)
  (children : later.children = loop.children.set id { child with phase := .ended })
  (holders : later.holders = loop.holders) (spawned : later.spawned = loop.spawned)
  (objects : later.objects = loop.objects)
  (counted : ∀ key, later.live key ≤ (later.sessionUsers.get? key).getD 0)
  (stays : ∀ key lock, later.sessionLocks.get? key = some lock →
    loop.sessionLocks.get? key = some lock)
  (listed : ∀ key lock, loop.sessionLocks.get? key = some lock → 0 < later.live key →
    later.sessionLocks.get? key = some lock) : Kept later where
  fresh other next stored := by
    rw [spawned]
    rw [children] at stored
    exact kept.children_set found other next stored
  made key lock present := by
    rw [objects]
    exact kept.made key lock (stays key lock present)
  own key other lock first second := kept.own key other lock (stays key lock first)
    (stays other lock second)
  counted
  listed other next stored unended := by
    apply listed
    · rw [children, get?_set] at stored
      split at stored
      · cases stored
        exact absurd rfl unended
      exact kept.listed other next stored unended
    apply countWhere_pos.mpr
    exact ⟨other, next, stored, by simp [uses, unended]⟩
  held other next stored executing := by
    rw [holders]
    rw [children, get?_set] at stored
    split at stored
    · cases stored
      cases executing
    exact kept.held other next stored executing

theorem live_ended (found : loop.children.get? id = some child) (running : child.phase ≠ .ended)
  (children : later.children = loop.children.set id { child with phase := .ended })
  (key : String × String) :
  later.live key + (if child.task.sessionKey = key then 1 else 0) = loop.live key := by
  have moved := loop.live_set key id { child with phase := .ended }
  rw [found, weigh_live running, weigh_ended rfl, ← children] at moved
  exact moved

theorem Kept.abandons (kept : Kept loop) (found : loop.children.get? id = some child)
  (running : child.phase ≠ .ended) : Kept (loop.move id child .ended) := by
  refine kept.ends found ?_ ?_ ?_ ?_ ?_ ?_ ?_
  · rfl
  · rfl
  · rfl
  · rfl
  · intro key
    have fewer : (loop.move id child .ended).live key +
      (if child.task.sessionKey = key then 1 else 0) = loop.live key :=
      live_ended found running rfl key
    have before := kept.counted key
    have users : (loop.move id child .ended).sessionUsers = loop.sessionUsers := rfl
    rw [users]
    omega
  · exact fun _ _ held => held
  exact fun _ _ present _ => present

theorem drop_fields (loop : Loop) (key : String × String) :
  (loop.drop key).children = loop.children ∧ (loop.drop key).holders = loop.holders ∧
    (loop.drop key).spawned = loop.spawned ∧ (loop.drop key).objects = loop.objects := by
  unfold drop
  split
  · exact ⟨rfl, rfl, rfl, rfl⟩
  split <;> exact ⟨rfl, rfl, rfl, rfl⟩

theorem drop_users (key other : String × String) :
  ((loop.drop key).sessionUsers.get? other).getD 0 =
    (loop.sessionUsers.get? other).getD 0 - if key = other then 1 else 0 := by
  unfold drop
  by_cases same : key = other
  · subst other
    rw [if_pos rfl]
    cases found : loop.sessionUsers.get? key with
    | none => simp [found]
    | some users =>
      dsimp only
      split
      case isTrue last =>
        rw [get?_erase, if_pos rfl]
        exact last.symm
      · simp
  rw [if_neg same, Nat.sub_zero]
  cases loop.sessionUsers.get? key with
  | none => rfl
  | some users =>
    dsimp only
    split
    · rw [get?_erase, if_neg (Ne.symm same)]
    rw [get?_set_other _ _ (Ne.symm same)]

theorem drop_locks (key other : String × String) (users : Nat)
  (counted : loop.sessionUsers.get? key = some users) : (loop.drop key).sessionLocks.get? other =
    if other = key ∧ users - 1 = 0 then none else loop.sessionLocks.get? other := by
  unfold drop
  rw [counted]
  dsimp only
  by_cases last : users - 1 = 0
  · rw [if_pos last, get?_erase]
    simp [last]
  rw [if_neg last]
  simp [last]

theorem counted_of_live (kept : Kept loop) (found : loop.children.get? id = some child)
  (running : child.phase ≠ .ended) :
  ∃ users, loop.sessionUsers.get? child.task.sessionKey = some users ∧ 1 ≤ users ∧
    loop.live child.task.sessionKey ≤ users := by
  have present : 0 < loop.live child.task.sessionKey := by
    apply countWhere_pos.mpr
    exact ⟨id, child, found, by simp [uses, running]⟩
  have counted := kept.counted child.task.sessionKey
  cases stored : loop.sessionUsers.get? child.task.sessionKey with
  | none =>
    rw [stored, getD_none] at counted
    omega
  | some users =>
    rw [stored, getD_some] at counted
    exact ⟨users, rfl, by omega, counted⟩

theorem Kept.drops (kept : Kept loop) (found : loop.children.get? id = some child)
  (running : child.phase ≠ .ended) :
  Kept ((loop.drop child.task.sessionKey).move id child .ended) := by
  obtain ⟨children, holders, spawned, objects⟩ := drop_fields loop child.task.sessionKey
  obtain ⟨users, stored, positive, enough⟩ := counted_of_live kept found running
  have set : ((loop.drop child.task.sessionKey).move id child .ended).children =
      loop.children.set id { child with phase := .ended } := by
    rw [← children]
    rfl
  have table : ((loop.drop child.task.sessionKey).move id child .ended).sessionLocks =
    (loop.drop child.task.sessionKey).sessionLocks := rfl
  have fewer : ∀ key, ((loop.drop child.task.sessionKey).move id child .ended).live key +
    (if child.task.sessionKey = key then 1 else 0) = loop.live key :=
    fun key => live_ended found running set key
  apply kept.ends found set holders spawned objects
  · intro key
    have less := fewer key
    have before := kept.counted key
    have left : ((loop.drop child.task.sessionKey).move id child .ended).sessionUsers =
      (loop.drop child.task.sessionKey).sessionUsers := rfl
    rw [left, drop_users]
    omega
  · intro key lock present
    rw [table, drop_locks _ key users stored] at present
    split at present
    · cases present
    exact present
  intro key lock present others
  rw [table, drop_locks _ key users stored]
  have less := fewer key
  split
  case isTrue last =>
    rw [last.1, if_pos rfl] at less
    rw [last.1] at others
    omega
  · exact present

theorem spawn_locks (loop : Loop) (task : RunTask) (key : String × String) :
  (loop.spawn task).sessionLocks.get? key = if key = task.sessionKey then
      some ((loop.sessionLocks.get? task.sessionKey).getD loop.objects)
    else loop.sessionLocks.get? key := by
  dsimp only [spawn, Dict.setDefault]
  cases stored : loop.sessionLocks.get? task.sessionKey with
  | none => exact get?_set _ _ _ _
  | some lock =>
    dsimp only
    split
    case isTrue same => rw [same, stored, getD_some]
    · rfl

variable {task : RunTask} {lock : Nat}

theorem spawn_old (stored : loop.sessionLocks.get? key = some lock) :
  (loop.spawn task).sessionLocks.get? key = some lock := by
  rw [spawn_locks]
  split
  case isTrue same => rw [← same, stored, getD_some]
  · exact stored

theorem spawn_born (stored : (loop.spawn task).sessionLocks.get? key = some lock) :
  loop.sessionLocks.get? key = some lock ∨ key = task.sessionKey ∧ lock = loop.objects := by
  rw [spawn_locks] at stored
  split at stored
  case isTrue same =>
    cases before : loop.sessionLocks.get? task.sessionKey with
    | none =>
      rw [before, getD_none] at stored
      exact .inr ⟨same, (some.inj stored).symm⟩
    | some known =>
      rw [before, getD_some] at stored
      rw [same]
      exact .inl (before.trans stored)
  · exact .inl stored

section

variable (kept : Kept loop)

include kept

theorem Kept.spawns (task : RunTask) : Kept (loop.spawn task) := by
  have absent : loop.children.get? loop.spawned = none := by
    cases stored : loop.children.get? loop.spawned with
    | none => rfl
    | some child => exact absurd (kept.fresh _ child stored) (Nat.lt_irrefl _)
  have set := loop.spawn_locks task
  have entry : ∀ other next, (loop.spawn task).children.get? other = some next →
    other = loop.spawned ∧ next.phase = .created ∧ next.task = task ∧
      next.lock = (loop.sessionLocks.get? task.sessionKey).getD loop.objects ∨
      loop.children.get? other = some next := by
    intro other next stored
    dsimp only [spawn] at stored
    rw [get?_set] at stored
    split at stored
    case isTrue same =>
      cases stored
      have here := set task.sessionKey
      rw [if_pos rfl] at here
      refine .inl ⟨same, rfl, rfl, ?_⟩
      exact congrArg (fun lock => lock.getD loop.objects) here
    · exact .inr stored
  constructor
  · intro other next stored
    cases entry other next stored with
    | inl new =>
      rw [new.1]
      exact Nat.lt_succ_self _
    | inr before => exact Nat.lt_succ_of_lt (kept.fresh other next before)
  · intro key lock stored
    cases spawn_born stored with
    | inl before => exact Nat.lt_succ_of_lt (kept.made key lock before)
    | inr new =>
      rw [new.2]
      exact Nat.lt_succ_self _
  · intro key other lock first second
    cases spawn_born first with
    | inl before =>
      cases spawn_born second with
      | inl also => exact kept.own key other lock before also
      | inr new => exact absurd (kept.made key lock before) (by rw [new.2]; exact Nat.lt_irrefl _)
    | inr new =>
      cases spawn_born second with
      | inl also => exact absurd (kept.made other lock also) (by rw [new.2]; exact Nat.lt_irrefl _)
      | inr too => rw [new.1, too.1]
  · intro key
    have moved := loop.live_set key loop.spawned
      { task, lock := ((loop.spawn task).sessionLocks.get? task.sessionKey).getD loop.objects
        phase := .created }
    have nothing : Dict.weigh (uses key) loop.spawned none = 0 := rfl
    have share : ∀ lock, Dict.weigh (uses key) loop.spawned
        (some { task, lock, phase := .created }) = if task.sessionKey = key then 1 else 0 :=
      fun lock => weigh_live nofun
    rw [absent, nothing, share] at moved
    have before := kept.counted key
    have live : (loop.spawn task).live key = loop.live key +
      if task.sessionKey = key then 1 else 0 := moved
    have users : (loop.spawn task).sessionUsers.get? key =
      if key = task.sessionKey then some ((loop.sessionUsers.get? task.sessionKey).getD 0 + 1)
      else loop.sessionUsers.get? key := get?_set _ _ _ _
    rw [live, users]
    by_cases same : task.sessionKey = key
    · rw [if_pos same, if_pos same.symm, getD_some, same]
      omega
    rw [if_neg same, if_neg (Ne.symm same)]
    omega
  · intro other next stored unended
    cases entry other next stored with
    | inl new =>
      obtain ⟨_, _, named, handed⟩ := new
      rw [set, named, if_pos rfl, handed]
    | inr before => exact spawn_old (kept.listed other next before unended)
  intro other next stored executing
  cases entry other next stored with
  | inl new =>
    rw [new.2.1] at executing
    cases executing
  | inr before => exact kept.held other next before executing

theorem Kept.holder (found : loop.children.get? id = some child)
  (executing : child.phase = .executing) {other : Nat} {next : Child} (distinct : other ≠ id)
  (stored : loop.children.get? other = some next) (also : next.phase = .executing) :
  next.lock ≠ child.lock := by
  intro same
  have first := kept.held id child found executing
  have second := kept.held other next stored also
  rw [same, first] at second
  exact distinct (some.inj second).symm

theorem Kept.unlocks (found : loop.children.get? id = some child)
  (executing : child.phase = .executing) (goes : phase ≠ .ended) (idle : phase ≠ .executing) :
  Kept ((loop.unlock child).move id child phase) := by
  have running : child.phase ≠ .ended := by
    rw [executing]
    nofun
  apply kept.goes found running goes (loop.holders.erase child.lock)
  · exact fun impossible => absurd impossible idle
  intro other next distinct stored also
  rw [get?_erase, if_neg (kept.holder found executing distinct stored also)]
  exact kept.held other next stored also

theorem Kept.walks (found : loop.children.get? id = some child)
  (running : child.phase ≠ .ended) (goes : phase ≠ .ended) (idle : phase ≠ .executing) :
  Kept (loop.move id child phase) :=
  kept.goes found running goes loop.holders (fun impossible => absurd impossible idle)
    (fun other next _ stored executing => kept.held other next stored executing)

theorem Kept.proceeds (found : loop.children.get? id = some child) (escaped : Bool) :
  Kept (loop.proceed id child escaped) := by
  unfold proceed
  cases stands : child.phase with
  | created => exact kept.walks found (by rw [stands]; decide) nofun nofun
  | waiting =>
    cases free : loop.holders.get? child.lock with
    | some holder => exact kept
    | none =>
      have running : child.phase ≠ .ended := by
        rw [stands]
        decide
      have goes : Phase.executing ≠ .ended := nofun
      apply kept.goes found running goes (loop.holders.set child.lock id)
      · exact fun _ => get?_set_self _ _ _
      intro other next _ stored executing
      have holds := kept.held other next stored executing
      have elsewhere : next.lock ≠ child.lock := by
        intro same
        rw [same, free] at holds
        cases holds
      rw [get?_set_other _ _ elsewhere]
      exact holds
  | executing =>
    cases escaped with
    | true | false => exact kept.unlocks found stands nofun nofun
  | retrying | pausing | acknowledging =>
    exact kept.walks found (by rw [stands]; decide) nofun nofun
  | closing => exact kept.drops found (by rw [stands]; decide)
  | ended => exact kept

theorem Kept.interrupts (found : loop.children.get? id = some child) :
  Kept (loop.interrupt id child) := by
  unfold interrupt
  cases stands : child.phase with
  | created | closing => exact kept.abandons found (by rw [stands]; decide)
  | executing => exact kept.unlocks found stands nofun nofun
  | waiting | retrying | pausing | acknowledging =>
    exact kept.walks found (by rw [stands]; decide) nofun nofun
  | ended => exact kept

theorem Kept.steps (concurrency : Nat) (event : Event) : Kept (loop.step concurrency event) := by
  cases event with
  | deliver task =>
    dsimp only [step]
    split
    · exact kept
    exact kept.spawns task
  | resume id escaped =>
    dsimp only [step]
    cases found : loop.children.get? id with
    | none => exact kept
    | some child => exact kept.proceeds found escaped
  | cancel id =>
    dsimp only [step]
    cases found : loop.children.get? id with
    | none => exact kept
    | some child => exact kept.interrupts found
  | reap => exact ⟨kept.fresh, kept.made, kept.own, kept.counted, kept.listed, kept.held⟩

end

end

theorem kept_run (concurrency : Nat) (events : List Event) : Kept (run concurrency events) := by
  have general : ∀ loop, Kept loop → Kept (events.foldl (step concurrency) loop) := by
    induction events with
    | nil => exact fun _ => id
    | cons event rest ih => exact fun loop kept => ih _ (kept.steps concurrency event)
  exact general {} kept_initial

section

variable {loop : Loop} {id : Nat} {child : Child} {key : String × String} {lock : Nat}

theorem drop_entry (dropped : String × String)
  (stored : (loop.drop dropped).sessionLocks.get? key = some lock) :
  loop.sessionLocks.get? key = some lock := by
  cases counted : loop.sessionUsers.get? dropped with
  | none =>
    unfold drop at stored
    rw [counted] at stored
    exact stored
  | some users =>
    rw [drop_locks dropped key users counted] at stored
    split at stored
    · cases stored
    exact stored

theorem step_entry (concurrency : Nat) (event : Event)
  (stored : (loop.step concurrency event).sessionLocks.get? key = some lock) :
  loop.sessionLocks.get? key = some lock ∨ lock = loop.objects := by
  cases event with
  | deliver task =>
    dsimp only [step] at stored
    split at stored
    · exact .inl stored
    exact (spawn_born stored).imp id And.right
  | resume id escaped =>
    left
    dsimp only [step] at stored
    split at stored
    · exact stored
    unfold proceed at stored
    split at stored
    case h_7 => exact drop_entry _ stored
    case h_2 => split at stored <;> exact stored
    all_goals exact stored
  | cancel id =>
    left
    dsimp only [step] at stored
    split at stored
    · exact stored
    unfold interrupt at stored
    split at stored <;> exact stored
  | reap => exact .inl stored

theorem Kept.unused_of_dropped (kept : Kept loop) (concurrency : Nat) (event : Event)
  (present : loop.sessionLocks.get? key = some lock)
  (dropped : (loop.step concurrency event).sessionLocks.get? key ≠ some lock)
  (found : (loop.step concurrency event).children.get? id = some child)
  (same : child.lock = lock) : child.phase = .ended := by
  by_contra running
  have listed := (kept.steps concurrency event).listed id child found running
  rw [same] at listed
  cases step_entry concurrency event listed with
  | inl before =>
    rw [kept.own _ _ lock before present] at listed
    exact dropped listed
  | inr new => exact absurd (kept.made key lock present) (by rw [new]; exact Nat.lt_irrefl _)

end

end Loop

/-- Two children with one session key never execute at the same time and never have two lock
objects while neither has ended, and the entry of a lock object leaves the table only when every
child that has the object has ended. -/
theorem one_session_at_a_time (concurrency : Nat) (events : List Event) : (∀ id other first second,
  (Loop.run concurrency events).children.get? id = some first →
  (Loop.run concurrency events).children.get? other = some second →
  first.task.sessionKey = second.task.sessionKey →
  first.phase = .executing → second.phase = .executing → id = other) ∧
  (∀ id other first second, (Loop.run concurrency events).children.get? id = some first →
  (Loop.run concurrency events).children.get? other = some second →
  first.task.sessionKey = second.task.sessionKey →
  first.phase ≠ .ended → second.phase ≠ .ended → first.lock = second.lock) ∧
  ∀ event key lock, (Loop.run concurrency events).sessionLocks.get? key = some lock →
  ((Loop.run concurrency events).step concurrency event).sessionLocks.get? key ≠ some lock →
  ∀ id child,
  ((Loop.run concurrency events).step concurrency event).children.get? id = some child →
  child.lock = lock → child.phase = .ended := by
  have kept := Loop.kept_run concurrency events
  have shared : ∀ id other first second,
    (Loop.run concurrency events).children.get? id = some first →
    (Loop.run concurrency events).children.get? other = some second →
      first.task.sessionKey = second.task.sessionKey →
        first.phase ≠ .ended → second.phase ≠ .ended → first.lock = second.lock := by
    intro id other first second one two same running also
    have listed := kept.listed id first one running
    have too := kept.listed other second two also
    rw [same, too] at listed
    exact (some.inj listed).symm
  refine ⟨?_, shared, ?_⟩
  · intro id other first second one two same executing also
    have lock := shared id other first second one two same (by rw [executing]; decide)
      (by rw [also]; decide)
    have holder := kept.held id first one executing
    have second := kept.held other second two also
    rw [lock, second] at holder
    exact (some.inj holder).symm
  intro event key lock present dropped id child found same
  exact kept.unused_of_dropped concurrency event present dropped found same

def unnamedSession : List Event := [.deliver { tenantId := "t", runId := "r1", sessionId := none },
    .deliver { tenantId := "t", runId := "r2", sessionId := none },
    .resume 0 false, .resume 1 false, .resume 0 false, .resume 1 false]

theorem unnamed_session_twice_at_a_time :
  ¬ ∀ (sessionOf : String → String → String) (concurrency : Nat) (events : List Event),
    (∀ task, .deliver task ∈ events →
    task.sessionId = none ∨ task.sessionId = some (sessionOf task.tenantId task.runId)) →
    ∀ id other first second,
    (Loop.run concurrency events).children.get? id = some first →
    (Loop.run concurrency events).children.get? other = some second →
    first.task.tenantId = second.task.tenantId →
    sessionOf first.task.tenantId first.task.runId =
    sessionOf second.task.tenantId second.task.runId →
    first.phase = .executing → second.phase = .executing → id = other := by
  intro claimed
  have unnamed : ∀ task, .deliver task ∈ unnamedSession → task.sessionId = none := by
    intro task delivered
    simp only [unnamedSession, mem_cons, Event.deliver.injEq, reduceCtorEq, not_mem_nil,
      or_false] at delivered
    cases delivered with
    | inl first => rw [first]
    | inr second => rw [second]
  have both := claimed (fun _ _ => "s") 2 unnamedSession
    (fun task delivered => .inl (unnamed task delivered)) 0 1
    { task := { tenantId := "t", runId := "r1", sessionId := none }, lock := 0, phase := .executing }
    { task := { tenantId := "t", runId := "r2", sessionId := none }, lock := 1, phase := .executing }
    (by decide +kernel) (by decide +kernel) rfl rfl rfl rfl
  exact absurd both (by decide)

end AgentHarness.WorkerLoop
