import AgentHarness.Worker.Hold

/-!
What an execution leaves behind.

The other actors do whatever they like.  An execution that returns leaves the Run
terminal, waiting for an approval, or written by someone else since; an execution that
raises may leave it active, and then its worker puts the task back.
-/

namespace AgentHarness

open Interaction Program Function Hold RunWorker

namespace RunStore

def Settled (store : RunStore) (executor : Nat) : Prop :=
  store.run.status.rests = true ∨ store.history.writer.map Prod.fst ≠ some executor

instance (store : RunStore) (executor : Nat) : Decidable (store.Settled executor) :=
  inferInstanceAs (Decidable (_ ∨ _))

end RunStore

namespace RunPlatform

theorem answer_writer (platform : RunPlatform) (actor : Nat) (input : RunInput)
  (store : RunStore) (op : RunOp) :
  let later := (platform.answer actor input store op).2
  (later.run = store.run ∧ later.history.writer = store.history.writer) ∨
    ∃ site, later.history.writer = some (actor, site) := by
  cases op with
  | compareAndSet site expected updated =>
    simp only [answer]
    split
    · exact .inr ⟨site, rfl⟩
    exact .inl ⟨rfl, rfl⟩
  | addApproval approval | getApproval approvalId =>
    simp only [answer]
    split <;> exact .inl ⟨rfl, rfl⟩
  | compareAndSetApproval expected updated =>
    simp only [answer]
    split
    · exact .inl ⟨rfl, rfl⟩
    split <;> exact .inl ⟨rfl, rfl⟩
  | tryClaimIncident owner claimedAt leaseExpiresAt =>
    simp only [answer]
    split <;> exact .inl ⟨rfl, rfl⟩
  | _ => exact .inl ⟨rfl, rfl⟩

theorem respond_writer (platform : RunPlatform) (actor : Nat) (input : RunInput)
  (store : RunStore) (op : RunOp) :
  let later := (platform.respond actor input store op).2
  (later.run = store.run ∧ later.history.writer = store.history.writer) ∨
    ∃ site, later.history.writer = some (actor, site) := by
  rcases platform.respond_state actor input store op with unchanged | changed
  · rw [unchanged]
    exact .inl ⟨rfl, rfl⟩
  rw [changed]
  exact answer_writer platform actor input store op

end RunPlatform

namespace Settlement

def searched : RunOp → Option String
  | .findByToolCall toolCallId => some toolCallId
  | _ => none

def Fresh (executor : Nat) (store : RunStore) (actor : Nat) (op : RunOp) (_ : RunInput) : Prop :=
  actor = executor → ∀ toolCallId ∈ searched op,
    ∀ approval ∈ store.approvals.values.find? (fun approval => approval.toolCallId = toolCallId),
      approval.status ≠ .pending

instance (executor : Nat) (store : RunStore) (actor : Nat) (op : RunOp) (input : RunInput) :
  Decidable (Fresh executor store actor op input) :=
  inferInstanceAs (Decidable (_ → _))

structure Faithful (store : RunStore) (executor : Nat) (known : Hold) : Prop where
  seen : ∀ status token, known.seen = some (status, token) →
    store.run.status = status ∧ store.run.fencingToken = token ∨
      store.history.writer.map Prod.fst ≠ some executor
  settled : known.settled = true → store.Settled executor

section

variable {platform : RunPlatform} {store later : RunStore} {executor actor : Nat} {known : Hold}
  {task : String}

theorem Faithful.transfer (faithful : Faithful store executor known)
  (run : later.run = store.run) (writer : later.history.writer = store.history.writer) :
  Faithful later executor known where
  seen := by
    rw [run, writer]
    exact faithful.seen
  settled := by
    unfold RunStore.Settled
    rw [run, writer]
    exact faithful.settled

theorem faithful_other {site : WriteSite} (other : actor ≠ executor)
  (writer : later.history.writer = some (actor, site)) : Faithful later executor known := by
  have moved : later.history.writer.map Prod.fst ≠ some executor := by
    rw [writer]
    exact fun same => other (Option.some.inj same)
  exact ⟨fun _ _ _ => .inr moved, fun _ => .inr moved⟩

theorem Faithful.step_other (faithful : Faithful store executor known)
  (other : actor ≠ executor) (input : RunInput) (op : RunOp) :
  Faithful (platform.respond actor input store op).2 executor known := by
  rcases platform.respond_writer actor input store op with ⟨run, writer⟩ | ⟨site, writer⟩
  · exact faithful.transfer run writer
  exact faithful_other other writer

theorem faithful_unknown : Faithful store executor {} :=
  ⟨fun _ _ => nofun, nofun⟩

theorem Faithful.read (faithful : Faithful store executor known) :
  Faithful store executor (known.after (.getRun .carried) (.ok store.run)) where
  seen status token same := by
    cases same
    exact .inl ⟨rfl, rfl⟩
  settled settled := by
    simp only [after, Bool.or_eq_true] at settled
    rcases settled with before | rests
    · exact faithful.settled before
    exact .inl rests

theorem faithful_written (site : WriteSite) (expected : RunStatus) (updated : Run) :
  Faithful (store.write executor site updated) executor
    (known.after (.compareAndSet site expected updated) (.ok true)) where
  seen status token same := by
    cases same
    exact .inl ⟨rfl, rfl⟩
  settled settled := .inl settled

section

variable (faithful : Faithful store executor known)

include faithful

theorem Faithful.refused {site : WriteSite} {expected : RunStatus} {updated : Run}
  (allowed : (contract task).allowed known (.compareAndSet site expected updated))
  (refused : ¬ store.accepts expected updated) :
  Faithful store executor
    (known.after (.compareAndSet site expected updated) (.ok false)) where
  seen := faithful.seen
  settled _ := by
    obtain ⟨_, token, seen, next⟩ := allowed
    rcases faithful.seen expected token seen with ⟨status, same⟩ | moved
    · exact absurd ⟨status, by rw [same, next]⟩ refused
    exact .inr moved

theorem Faithful.searched {toolCallId : String} {found : Option ApprovalRequest}
  (fresh : ∀ approval ∈ found, approval.status ≠ .pending) :
  Faithful store executor (known.after (.findByToolCall toolCallId) (.ok found)) where
  seen := faithful.seen
  settled settled := by
    cases found with
    | none =>
      simp only [after, Option.any_none, Bool.or_false] at settled
      exact faithful.settled settled
    | some approval =>
      have decided := fresh approval rfl
      simp only [after, Option.any_some, decided, decide_false, Bool.or_false] at settled
      exact faithful.settled settled

theorem Faithful.keep {input : RunInput} {op : RunOp}
  (reads : ∀ site expected updated, op ≠ .compareAndSet site expected updated)
  (silent : known.after op (platform.respond executor input store op).1 = known) :
  Faithful (platform.respond executor input store op).2 executor
    (known.after op (platform.respond executor input store op).1) := by
  rw [silent]
  rcases platform.respond_state executor input store op with same | same
  · rw [same]
    exact faithful
  rw [same]
  cases op with
  | compareAndSet site expected updated => exact absurd rfl (reads site expected updated)
  | addApproval approval =>
    simp only [RunPlatform.answer]
    split <;> exact faithful.transfer rfl rfl
  | getApproval approvalId =>
    simp only [RunPlatform.answer]
    split <;> exact faithful
  | compareAndSetApproval expected updated =>
    simp only [RunPlatform.answer]
    split
    · exact faithful
    split <;> exact faithful.transfer rfl rfl
  | tryClaimIncident owner claimedAt leaseExpiresAt =>
    simp only [RunPlatform.answer]
    split <;> exact faithful.transfer rfl rfl
  | _ => exact faithful.transfer rfl rfl

theorem Faithful.step_own (input : RunInput) (op : RunOp)
  (allowed : (contract task).allowed known op) (fresh : Fresh executor store executor op input) :
  Faithful (platform.respond executor input store op).2 executor
    (known.after op (platform.respond executor input store op).1) := by
  cases op with
  | getRun read =>
    rcases platform.respond_cases executor input store (.getRun read) with
      same | ⟨_, same⟩ | ⟨_, same⟩
    · rw [same]
      cases read with
      | carried => exact faithful.read
      | observed => exact faithful
    · rw [same]
      cases read <;> exact faithful
    rw [same]
    cases read <;> exact faithful
  | compareAndSet site expected updated =>
    rcases platform.respond_cases executor input store (.compareAndSet site expected updated)
      with same | ⟨_, same⟩ | ⟨_, same⟩
    · rw [same]
      simp only [RunPlatform.answer]
      split
      · exact faithful_written site expected updated
      rename_i refused
      exact faithful.refused allowed refused
    · rw [same]
      exact faithful_unknown
    rw [same]
    exact faithful_unknown
  | findByToolCall toolCallId =>
    rcases platform.respond_cases executor input store (.findByToolCall toolCallId) with
      same | ⟨_, same⟩ | ⟨_, same⟩
    · rw [same]
      exact (faithful.searched (fresh rfl toolCallId rfl)).transfer rfl rfl
    · rw [same]
      exact faithful
    rw [same]
    exact faithful.transfer rfl rfl
  | _ => exact faithful.keep (fun _ _ _ => RunOp.noConfusion) rfl

end

end

section

variable {platform : RunPlatform} {executor : Nat}

theorem adheres (platform : RunPlatform) (task : String) (executor : Nat) :
  Pool.Adheres platform.component (contracts task executor)
    (fun store known => Faithful store executor (known executor)) (Fresh executor) := by
  intro store known actor op input faithful fresh allowed
  by_cases same : actor = executor
  · subst same
    rw [contracts_self] at allowed ⊢
    refine ⟨_, ⟨rfl, fun error failed => platform.respond_unowned actor input store op failed⟩, ?_⟩
    dsimp only
    rw [update_self]
    exact faithful.step_own input op allowed fresh
  rw [contracts, if_neg same]
  refine ⟨known actor, trivial, ?_⟩
  rw [update_eq_self]
  exact faithful.step_other same input op

theorem wp_executor (services : RunServices) (task : String) (known : Hold) :
  services.executor.wp (contract task) (fun later _ => later.settled = true)
    (fun _ _ => True) known := by
  unfold RunServices.executor
  rw [wp_bind]
  exact wp_mono (wp_execute services.orchestrator) (fun _ _ => id)
    (fun _ _ _ => trivial)

theorem wp_round (orchestrator : RunOrchestrator) (task : String) (known : Hold) :
  (RunWorker.round { orchestrator, task }).wp (contract task) (fun _ _ => True)
    (fun _ _ => True) known := by
  have asks : ∀ {op : RunOp} (known : Hold), (contract task).allowed known op →
    (Ports.call op).wp (contract task) (fun _ _ => True) (fun _ _ => True) known :=
    fun _ allowed => (wp_perform _ _).mpr ⟨allowed, fun _ _ _ => trivial, fun _ _ _ => trivial⟩
  refine RunWorker.wp_round _ (fun payload known => payload = task → known.settled = true)
    ?_ ?_ ?_ ?_
  · refine (wp_bind _ _).mpr (wp_mono (asks known trivial) ?_ fun _ _ _ => trivial)
    intro later delivery _
    cases delivery with
    | none => exact trivial
    | some delivery =>
      exact (wp_bind _ _).mpr (wp_mono (asks later trivial) (fun _ _ _ => trivial)
        fun _ _ _ => trivial)
  · intro payload known
    unfold executeTask
    split
    · rw [wp_bind]
      exact wp_mono (wp_execute orchestrator) (fun _ _ settled _ => settled)
        (fun _ _ _ => trivial)
    rename_i other
    exact wp_mono (asks known trivial) (fun _ _ _ same => absurd same other)
      (fun _ _ _ => trivial)
  · intro payload known finished
    unfold acknowledge
    simp only [bind_eq]
    rw [wp_bind, wp_perform]
    refine ⟨trivial, ?_, fun _ _ _ => trivial⟩
    rintro receipt later ⟨rfl, _⟩
    exact asks _ finished
  intro payload known
  refine (wp_bind _ _).mpr (wp_mono (asks known trivial) ?_ fun _ _ _ => trivial)
  exact fun later _ _ => asks later trivial

end

section

def undisturbed : List (Nat × RunInput) := List.replicate 24 (0, {})

end

end Settlement

end AgentHarness
