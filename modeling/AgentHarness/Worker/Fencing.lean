import AgentHarness.Worker.Settlement

/-!
An executor whose Run was reclaimed by another one.
-/

namespace AgentHarness

open Interaction Program Function Hold RunPlatform Pool

namespace Fencing

/-- The call takes the Run over: the write of `_reclaim`, accepted and carried out. -/
def Reclaims (store : RunStore) (op : RunOp) (input : RunInput) : Prop :=
  ∃ expected updated, op = .compareAndSet .reclaim expected updated ∧
    store.accepts expected updated ∧ ∀ outage, input.fault ≠ .before outage

def refreshes : RunOp → Bool
  | .getRun .carried => true
  | _ => false

def Unrefreshed (executor : Nat) (store : RunStore) (actor : Nat) (op : RunOp)
  (_ : RunInput) : Prop :=
  actor = executor → refreshes op = true → store.run.status.isTerminal = true

instance (executor : Nat) (store : RunStore) (actor : Nat) (op : RunOp) (input : RunInput) :
  Decidable (Unrefreshed executor store actor op input) :=
  inferInstanceAs (Decidable (_ → _))

def Fenced (platform : RunPlatform) (executor : Nat) (pool : RunPool)
  (schedule : List (Nat × RunInput)) : Prop :=
  ∀ first input last, schedule = first ++ (executor, input) :: last →
    ((pool.run platform.component first).step platform.component executor input).state.run =
      (pool.run platform.component first).state.run

def Behind (store : RunStore) (known : Hold) : Prop :=
  ∀ status token, known.seen = some (status, token) → token ≤ store.run.fencingToken

def Outdated (store : RunStore) (known : Hold) : Prop :=
  ∀ status token, known.seen = some (status, token) →
    token < store.run.fencingToken ∨ status.isTerminal = true

section

variable {platform : RunPlatform} {store : RunStore} {executor actor : Nat} {known : Hold}
  {task : String}

theorem token_grows (platform : RunPlatform) (actor : Nat) (input : RunInput)
  (store : RunStore) (op : RunOp) :
  store.run.fencingToken ≤ (platform.respond actor input store op).2.run.fencingToken := by
  rcases platform.respond_run actor input store op with same | ⟨_, _, updated, _, accepted, run⟩
  · rw [same]
  rw [run, ← accepted.2]
  exact Nat.le_succ _

theorem Behind.grow (behind : Behind store known) (input : RunInput) (op : RunOp) :
  Behind (platform.respond actor input store op).2 known :=
  fun status token seen =>
    (behind status token seen).trans (token_grows platform actor input store op)

theorem Outdated.grow (outdated : Outdated store known) (input : RunInput) (op : RunOp) :
  Outdated (platform.respond actor input store op).2 known :=
  fun status token seen => (outdated status token seen).imp
    (fun older => older.trans_le (token_grows platform actor input store op)) id

theorem seen_after (platform : RunPlatform) (executor : Nat) (store : RunStore)
  (known : Hold) (input : RunInput) (op : RunOp) :
  let reply := platform.respond executor input store op
  (known.after op reply.1).seen = known.seen ∨ (known.after op reply.1).seen = none ∨
    (known.after op reply.1).seen = of reply.2.run ∧
      (refreshes op = true ∧ reply.2.run = store.run ∨
        ∃ site expected updated, op = .compareAndSet site expected updated ∧
          store.accepts expected updated) := by
  cases op with
  | getRun read =>
    rcases platform.respond_cases executor input store (.getRun read) with
      same | ⟨_, same⟩ | ⟨_, same⟩
    · rw [same]
      cases read with
      | carried => exact .inr (.inr ⟨rfl, .inl ⟨rfl, rfl⟩⟩)
      | observed => exact .inl rfl
    · rw [same]
      cases read <;> exact .inl rfl
    rw [same]
    cases read <;> exact .inl rfl
  | compareAndSet site expected updated =>
    rcases platform.respond_cases executor input store (.compareAndSet site expected updated)
      with same | ⟨_, same⟩ | ⟨_, same⟩
    · rw [same]
      simp only [answer]
      split
      · rename_i accepted
        exact .inr (.inr ⟨rfl, .inr ⟨site, expected, updated, rfl, accepted⟩⟩)
      exact .inl rfl
    · rw [same]
      exact .inr (.inl rfl)
    rw [same]
    exact .inr (.inl rfl)
  | findByToolCall toolCallId =>
    rcases platform.respond_cases executor input store (.findByToolCall toolCallId) with
      same | ⟨_, same⟩ | ⟨_, same⟩
    · rw [same]
      exact .inl rfl
    · rw [same]
      exact .inl rfl
    rw [same]
    exact .inl rfl
  | _ => exact .inl rfl

theorem Behind.step (behind : Behind store known) (input : RunInput) (op : RunOp) :
  Behind (platform.respond executor input store op).2
    (known.after op (platform.respond executor input store op).1) := by
  intro status token seen
  rcases seen_after platform executor store known input op with same | nothing | ⟨stored, _⟩
  · rw [same] at seen
    exact behind.grow input op status token seen
  · rw [nothing] at seen
    cases seen
  rw [stored] at seen
  cases seen
  exact le_rfl

theorem Outdated.refused (outdated : Outdated store known) {site : WriteSite} {expected : RunStatus}
  {updated : Run} (allowed : (contract task).allowed known (.compareAndSet site expected updated)) :
  ¬ store.accepts expected updated := by
  rintro ⟨_, token⟩
  obtain ⟨active, seenToken, seen, next⟩ := allowed
  rcases outdated expected seenToken seen with older | ended
  · omega
  rw [active] at ended
  cases ended

theorem Outdated.step (outdated : Outdated store known) {input : RunInput} {op : RunOp}
  (unrefreshed : Unrefreshed executor store executor op input)
  (allowed : (contract task).allowed known op) :
  Outdated (platform.respond executor input store op).2
    (known.after op (platform.respond executor input store op).1) := by
  intro status token seen
  rcases seen_after platform executor store known input op with
    same | nothing | ⟨stored, ⟨refreshed, kept⟩ | ⟨site, expected, updated, rfl, accepted⟩⟩
  · rw [same] at seen
    exact outdated.grow input op status token seen
  · rw [nothing] at seen
    cases seen
  · rw [stored, kept] at seen
    cases seen
    exact .inr (unrefreshed rfl refreshed)
  exact absurd accepted (outdated.refused allowed)

end

section

variable {platform : RunPlatform} {executor : Nat}

theorem adheres_of_step {task : String} {holds : RunStore → Hold → Prop}
  {guard : RunStore → Nat → RunOp → RunInput → Prop}
  (own : ∀ store known op input, holds store known → guard store executor op input →
    (contract task).allowed known op → holds (platform.respond executor input store op).2
    (known.after op (platform.respond executor input store op).1))
  (others : ∀ store known actor op input, holds store known →
    holds (platform.respond actor input store op).2 known) :
  Pool.Adheres platform.component (contracts task executor)
    (fun store known => holds store (known executor)) guard := by
  intro store known actor op input held guarded allowed
  by_cases same : actor = executor
  · subst same
    rw [contracts_self] at allowed ⊢
    refine ⟨_, ⟨rfl, fun error failed => platform.respond_unowned actor input store op failed⟩, ?_⟩
    dsimp only
    rw [update_self]
    exact own store (known actor) op input held guarded allowed
  rw [contracts, if_neg same]
  refine ⟨known actor, trivial, ?_⟩
  rw [update_eq_self]
  exact others store (known executor) actor op input held

theorem adheres_behind (platform : RunPlatform) (task : String) (executor : Nat) :
  Pool.Adheres platform.component (contracts task executor)
    (fun store known => Behind store (known executor)) (fun _ _ _ _ => True) :=
  adheres_of_step (fun _ _ op input behind _ _ => behind.step input op)
    (fun _ _ _ op input behind => behind.grow input op)

theorem adheres_outdated (platform : RunPlatform) (task : String) (executor : Nat) :
  Pool.Adheres platform.component (contracts task executor)
    (fun store known => Outdated store (known executor)) (Unrefreshed executor) :=
  adheres_of_step (fun _ _ _ _ outdated unrefreshed allowed => outdated.step unrefreshed allowed)
    (fun _ _ _ op input outdated => outdated.grow input op)

theorem Behind.reclaimed {store : RunStore} {known : Hold} {owner : Nat} {op : RunOp}
  {input : RunInput} (behind : Behind store known) (reclaims : Reclaims store op input) :
  Outdated (platform.respond owner input store op).2 known := by
  obtain ⟨expected, updated, rfl, accepted, arrives⟩ := reclaims
  intro status token seen
  left
  have written : (platform.respond owner input store
    (.compareAndSet .reclaim expected updated)).2.run = updated := by
    have answered : (platform.answer owner input store
      (.compareAndSet .reclaim expected updated)).2.run = updated := by
      simp only [answer, if_pos accepted]
      rfl
    unfold respond
    split
    · exact answered
    split
    · exact answered
    · rename_i outage struck
      exact absurd struck (arrives outage)
    exact answered
  rw [written, ← accepted.2]
  exact Nat.lt_succ_of_le (behind status token seen)

theorem silent_step {task : String} {pool : RunPool} {known : Hold}
  (outdated : Outdated pool.state known)
  (keeps : (pool.thread executor).wp (contract task) (fun _ _ => True)
    (fun _ _ => True) known) (input : RunInput) :
  (pool.step platform.component executor input).state.run = pool.state.run := by
  rcases call_or_idle platform.component pool executor with ⟨op, next, calls⟩ | idle
  · rw [calls] at keeps
    rw [step_call calls]
    rcases platform.respond_run executor input pool.state op with
      same | ⟨site, expected, updated, rfl, accepted, _⟩
    · exact same
    exact absurd accepted (outdated.refused keeps.1)
  rw [idle]

/-- Once another actor has reclaimed the Run, the executor changes it no more, whatever the
others do, as long as it takes over the stored Run only when that has ended. -/
theorem overtaken_executor_fenced (platform : RunPlatform) (services : RunServices)
  (executor owner : Nat) (other : owner ≠ executor) (pool : RunPool)
  (starts : pool.thread executor = services.executor) (before : List (Nat × RunInput))
  (input : RunInput) {op : RunOp} {next : Except Failure op.Answer → RunProgram Unit}
  (calls : (pool.run platform.component before).thread owner = .call op next)
  (reclaims : Reclaims (pool.run platform.component before).state op input)
  (after : List (Nat × RunInput))
  (unrefreshed : ((pool.run platform.component before).step platform.component owner
    input).Along platform.component (Unrefreshed executor) after) :
  Fenced platform executor
    ((pool.run platform.component before).step platform.component owner input) after := by
  let task := platform.task
  have free : ∀ {thread : RunProgram Unit} (known : Hold),
    thread.wp unrestricted (fun _ _ => True) (fun _ _ => True) known :=
    fun known => wp_of_free (fun _ _ => trivial) _ known
  have ready : pool.Ready (contracts task executor)
    (fun store known => Behind store (known executor)) (fun _ _ _ => True)
    (fun _ _ _ => True) (fun _ => {}) := by
    refine ⟨fun _ _ => nofun, fun actor => ?_⟩
    by_cases same : actor = executor
    · subst same
      rw [contracts_self, starts]
      exact wp_mono (Settlement.wp_executor services task {}) (fun _ _ _ => trivial)
        (fun _ _ _ => trivial)
    rw [contracts, if_neg same]
    exact free _
  obtain ⟨known, behind, threads⟩ := run_ready (adheres_behind platform task executor) ready
    before (along_of_forall (fun _ _ _ _ => trivial) pool before)
  -- The reclaiming step leaves the executor's thread alone and outdates what it knows.
  have overtaken : ((pool.run platform.component before).step platform.component owner
    input).Ready (contracts task executor)
    (fun store known => Outdated store (known executor)) (fun _ _ _ => True)
    (fun _ _ _ => True) known := by
    refine ⟨?_, fun actor => ?_⟩
    · rw [step_call calls]
      exact behind.reclaimed reclaims
    by_cases same : actor = executor
    · subst same
      rw [step_thread_other (Ne.symm other)]
      exact threads actor
    rw [contracts, if_neg same]
    exact free _
  rintro first input' last rfl
  obtain ⟨later, outdated, keeps⟩ := run_ready (adheres_outdated platform task executor)
    overtaken first ((along_append _ first _).mp unrefreshed).1
  have own := keeps executor
  rw [contracts_self] at own
  exact silent_step outdated own input'

end

section

def twoProcesses : RunPlatform where
  generatedId kind _ := kind
  task := "run-1"

def sameServices : RunServices where
  controller := { workerId := "worker-1", thresholds := [] }

def twoExecutors : RunPool where
  state := RunStore.created 0 (some [])
  thread
    | 0 | 1 => sameServices.executor
    | _ => .done ()

/-- The first executor follows its runtime when the second one is about to reclaim the
running Run. -/
def followedAndRead : List (Nat × RunInput) :=
  List.replicate 14 (0, ({} : RunInput)) ++ List.replicate 2 (1, ({} : RunInput))

/-- The first executor reads the Run of its successor at the end of its stream and moves it
to its end. -/
theorem reclaimed_run_completed :
  ∃ platform services executor owner, owner ≠ executor ∧ ∃ (pool : RunPool) (before : _),
    pool.thread executor = RunServices.executor services ∧
    ∃ (op : RunOp) (next : _) (input : RunInput),
    (pool.run (component platform) before).thread owner = .call op next ∧
    Reclaims (pool.run (component platform) before).state op input ∧
    ∃ after, ¬ Fenced platform executor
    ((pool.run (component platform) before).step
    (component platform) owner input) after := by
  refine ⟨twoProcesses, sameServices, 0, 1, by decide, twoExecutors, followedAndRead, rfl,
    _, _, {}, rfl, ⟨_, _, rfl, by decide, fun _ => nofun⟩, List.replicate 4 (0, {}), ?_⟩
  intro fenced
  have kept := fenced (List.replicate 3 (0, {})) {} [] rfl
  exact absurd (congrArg Run.status kept) (by decide)

def successorFinishes : List (Nat × RunInput) :=
  List.replicate 20 (1, ({} : RunInput)) ++ List.replicate 6 (0, ({} : RunInput))

theorem finished_run_fenced : Fenced twoProcesses 0
  ((twoExecutors.run twoProcesses.component followedAndRead).step twoProcesses.component 1 {})
  successorFinishes :=
  overtaken_executor_fenced twoProcesses sameServices 0 1 (by decide) twoExecutors rfl
    followedAndRead {} rfl ⟨_, _, rfl, by decide, fun _ => nofun⟩ successorFinishes (by decide)

end

end Fencing

end AgentHarness
