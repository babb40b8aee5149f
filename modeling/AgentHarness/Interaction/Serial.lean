import AgentHarness.Interaction.Pool

/-!
Programs one after the other: what a program does alone, and what a whole line of them does.
-/

namespace Interaction

open List

variable {Op : Type} {Answer : Op → Type} {Err Actor State Input α β : Type}

namespace Program

def alone (component : Component Op Answer Err Actor State Input) (actor : Actor) (input : Input) :
    Program Op Answer Err α → State → Except Err α × State
  | .done value, state => (.ok value, state)
  | .raised error, state => (.error error, state)
  | .call op next, state =>
    (next (component.respond actor input state op).1).alone component actor input
      (component.respond actor input state op).2

variable {component : Component Op Answer Err Actor State Input} {actor : Actor} {input : Input}

theorem alone_bind (first : Program Op Answer Err α) (next : α → Program Op Answer Err β)
    (state : State) : (first.bind next).alone component actor input state =
      match first.alone component actor input state with
      | (.ok value, later) => (next value).alone component actor input later
      | (.error error, later) => (.error error, later) := by
  induction first generalizing state with
  | done value | raised error => rfl
  | call op rest ih => exact ih _ _

theorem alone_perform (op : Op) (read : Answer op → α) (state : State) :
  (perform op read).alone component actor input state =
    ((component.respond actor input state op).1.map read,
    (component.respond actor input state op).2) := by
  unfold perform alone
  cases (component.respond actor input state op).1 with
  | ok value | error error => rfl

end Program

inductive Serially (component : Component Op Answer Err Actor State Input) (input : Input)
    (programs : Actor → Program Op Answer Err α) (initial : State) :
    List (Actor × Except Err α) → State → Prop
  | start : Serially component input programs initial [] initial
  | turn {log : List (Actor × Except Err α)} {state : State} (actor : Actor)
      (before : Serially component input programs initial log state) :
      Serially component input programs initial
        (log ++ [(actor, ((programs actor).alone component actor input state).1)])
        ((programs actor).alone component actor input state).2

namespace Serially

variable {component : Component Op Answer Err Actor State Input} {input : Input}
  {programs : Actor → Program Op Answer Err α} {initial state : State}
  {log : List (Actor × Except Err α)}

theorem turned {actor : Actor} {outcome : Except Err α} {later : State}
  (before : Serially component input programs initial log state)
  (ran : (programs actor).alone component actor input state = (outcome, later)) :
  Serially component input programs initial (log ++ [(actor, outcome)]) later := by
  have next := before.turn actor
  rw [ran] at next
  exact next

theorem lasting {holds : State → Prop} {actor : Actor} {outcome : Except Err α}
  (serially : Serially component input programs initial log state)
  (listed : (actor, outcome) ∈ log)
  (establishes : ∀ before, ((programs actor).alone component actor input before).1 = outcome →
    holds ((programs actor).alone component actor input before).2)
  (keeps : ∀ other before, other ≠ actor → holds before →
    holds ((programs other).alone component other input before).2)
  (once : (log.map Prod.fst).Nodup) : holds state := by
  induction serially with
  | start => cases listed
  | @turn log state other before ih =>
    rw [map_append, nodup_append] at once
    cases mem_append.mp listed with
    | inl earlier =>
      apply keeps other state
      · rintro rfl
        exact once.2.2 _ (mem_map_of_mem earlier) _ (mem_singleton.mpr rfl) rfl
      exact ih earlier once.1
    | inr last =>
      have same := mem_singleton.mp last
      have own : actor = other := congrArg Prod.fst same
      subst other
      exact establishes state (congrArg Prod.snd same).symm

end Serially

end Interaction
