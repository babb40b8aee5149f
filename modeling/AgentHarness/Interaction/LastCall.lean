import Mathlib.Data.List.Nodup
import AgentHarness.Interaction.Serial

/-!
Programs that take effect with their last call.
-/

namespace Interaction

open Function List

variable {Op : Type} {Answer : Op → Type} {Err Actor State α : Type}

namespace Program

def outcome? : Program Op Answer Err α → Option (Except Err α)
  | .done value => some (.ok value)
  | .raised error => some (.error error)
  | .call _ _ => none

def TakesEffectLast (component : Component Op Answer Err Actor State Unit)
    (guard : State → Actor → Op → Unit → Prop) (actor : Actor) :
    Program Op Answer Err α → (whole : Program Op Answer Err α) → Prop
  | .done _, _ | .raised _, _ => True
  | .call op next, whole =>
    ∀ state, guard state actor op () →
      (match (next (component.respond actor () state op).1).outcome? with
        | some outcome =>
          whole.alone component actor () state = (outcome, (component.respond actor () state op).2)
        | none => (component.respond actor () state op).2 = state) ∧
      (next (component.respond actor () state op).1).TakesEffectLast component guard actor whole

theorem takesEffectLast_perform {component : Component Op Answer Err Actor State Unit}
  {guard : State → Actor → Op → Unit → Prop} {actor : Actor} (op : Op)
  (read : Answer op → α) :
  (perform op read : Program Op Answer Err α).TakesEffectLast component guard actor
    (perform op read) := by
  intro state _
  have alone : (perform op read : Program Op Answer Err α).alone component actor () state =
    ((component.respond actor () state op).1.map read,
      (component.respond actor () state op).2) := alone_perform op read state
  cases answered : (component.respond actor () state op).1 with
  | ok value | error error =>
    rw [answered] at alone
    exact ⟨alone, trivial⟩

end Program

/-- The programs that have ended could have run one after the other, with the outcomes they had,
and nothing else has changed the state. -/
def InTurn (component : Component Op Answer Err Actor State Unit)
  (programs : Actor → Program Op Answer Err α) (initial : State)
  (pool : Pool Op Answer Err Actor State α) : Prop :=
  ∃ log : List (Actor × Except Err α),
    Serially component () programs initial log pool.state ∧ (log.map Prod.fst).Nodup ∧
      ∀ actor outcome, (pool.thread actor).outcome? = some outcome ↔ (actor, outcome) ∈ log

namespace Pool

variable [DecidableEq Actor] {component : Component Op Answer Err Actor State Unit}
  {guard : State → Actor → Op → Unit → Prop} {programs : Actor → Program Op Answer Err α}
  {initial : State}

omit [DecidableEq Actor] in
theorem not_listed {log : List (Actor × Except Err α)} {actor : Actor}
  {thread : Actor → Program Op Answer Err α}
  (listed : ∀ actor outcome, (thread actor).outcome? = some outcome ↔ (actor, outcome) ∈ log)
  (running : (thread actor).outcome? = none) : actor ∉ log.map Prod.fst := by
  intro member
  obtain ⟨⟨other, outcome⟩, entry, rfl⟩ := mem_map.mp member
  have ended := (listed other outcome).mpr entry
  rw [running] at ended
  cases ended

theorem step_inTurn {pool : Pool Op Answer Err Actor State α}
  (inTurn : InTurn component programs initial pool)
  (last : ∀ actor, (pool.thread actor).TakesEffectLast component guard actor (programs actor))
  (actor : Actor)
  (guarded : ∀ op next, pool.thread actor = .call op next → guard pool.state actor op ()) :
  InTurn component programs initial (pool.step component actor ()) ∧
    ∀ other, ((pool.step component actor ()).thread other).TakesEffectLast component guard other
    (programs other) := by
  rcases call_or_idle component pool actor with ⟨op, next, calls⟩ | idle
  · obtain ⟨log, serially, once, listed⟩ := inTurn
    have running : (pool.thread actor).outcome? = none := by
      rw [calls]
      rfl
    have effect := last actor
    rw [calls] at effect
    have now := effect pool.state (guarded op next calls)
    rw [step_call calls]
    cases ends : (next (component.respond actor () pool.state op).1).outcome? with
    | some outcome =>
      rw [ends] at now
      refine ⟨⟨log ++ [(actor, outcome)], serially.turned now.1, ?_, ?_⟩, ?_⟩
      · rw [map_append, nodup_append]
        refine ⟨once, nodup_singleton _, ?_⟩
        intro first member second final same
        rw [mem_singleton.mp final] at same
        rw [same] at member
        exact not_listed listed running member
      · intro other reached
        rw [mem_append, mem_singleton]
        by_cases same : other = actor
        · subst other
          have absent : (actor, reached) ∉ log := fun member =>
            not_listed listed running (mem_map_of_mem member)
          simp only [update_self, ends, Option.some.injEq, Prod.mk.injEq, true_and,
            absent, false_or]
          exact eq_comm
        simp only [update_of_ne same, Prod.mk.injEq, same, false_and, or_false]
        exact listed other reached
      intro other
      by_cases same : other = actor
      · subst other
        simp only [update_self]
        exact now.2
      simp only [update_of_ne same]
      exact last other
    | none =>
      rw [ends] at now
      obtain ⟨unchanged, later⟩ := now
      refine ⟨⟨log, ?_, once, ?_⟩, ?_⟩
      · dsimp only
        rw [unchanged]
        exact serially
      · intro other reached
        rw [← listed]
        by_cases same : other = actor
        · subst other
          simp only [update_self, ends, running]
        simp only [update_of_ne same]
      intro other
      by_cases same : other = actor
      · subst other
        simp only [update_self]
        exact later
      simp only [update_of_ne same]
      exact last other
  rw [idle]
  exact ⟨inTurn, last⟩

theorem run_inTurn
  (last : ∀ actor, (programs actor).TakesEffectLast component guard actor (programs actor))
  (unstarted : ∀ actor, (programs actor).outcome? = none) (schedule : List (Actor × Unit))
  (along : (Pool.mk initial programs).Along component guard schedule) :
  InTurn component programs initial ((Pool.mk initial programs).run component schedule) := by
  have start : InTurn component programs initial (Pool.mk initial programs) := by
    refine ⟨[], .start, nodup_nil, ?_⟩
    intro actor outcome
    simp [unstarted actor]
  have general : ∀ pool : Pool Op Answer Err Actor State α, InTurn component programs initial pool →
        (∀ actor, (pool.thread actor).TakesEffectLast component guard actor (programs actor)) →
          pool.Along component guard schedule →
            InTurn component programs initial (pool.run component schedule) := by
    clear start along
    induction schedule with
    | nil => exact fun _ inTurn _ _ => inTurn
    | cons move rest ih =>
      intro pool inTurn last along
      obtain ⟨kept, later⟩ := step_inTurn inTurn last move.1 along.1
      exact ih _ kept later along.2
  exact general _ start last along

end Pool

namespace InTurn

variable {component : Component Op Answer Err Actor State Unit}
  {programs : Actor → Program Op Answer Err α} {initial : State}
  {pool : Pool Op Answer Err Actor State α}

theorem invariant {holds : State → Prop} (inTurn : InTurn component programs initial pool)
  (start : holds initial)
  (keeps : ∀ actor state, holds state →
    holds ((programs actor).alone component actor () state).2) : holds pool.state := by
  obtain ⟨log, serially, once, listed⟩ := inTurn
  clear once listed
  generalize pool.state = state at serially ⊢
  induction serially with
  | start => exact start
  | turn actor before ih => exact keeps actor _ ih

end InTurn

end Interaction
