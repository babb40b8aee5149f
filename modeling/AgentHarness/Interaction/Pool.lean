import AgentHarness.Interaction.Contract
import Mathlib.Data.List.Chain

/-!
Programs running side by side over one component.

A schedule names, step by step, which actor moves and what the environment
contributes to that step; every interleaving is a schedule.  A program that is
never scheduled again has crashed.  The rules below turn a fact about one step
into a fact about every run.
-/

namespace Interaction

open Function List

/-- `respond` answers one operation atomically; `Input` is whatever the
component cannot decide itself, such as a clock, a fault or a remote answer. -/
structure Component (Op : Type) (Answer : Op → Type) (Err Actor State Input : Type) where
  respond : Actor → Input → State → (op : Op) → Except Err (Answer op) × State

structure Pool (Op : Type) (Answer : Op → Type) (Err Actor State α : Type) where
  state : State
  thread : Actor → Program Op Answer Err α

namespace Pool

variable {Op : Type} {Answer : Op → Type} {Err Actor State Input α Knowledge : Type}
  [DecidableEq Actor] (component : Component Op Answer Err Actor State Input)

def step (pool : Pool Op Answer Err Actor State α) (actor : Actor) (input : Input) :
  Pool Op Answer Err Actor State α :=
  match pool.thread actor with
  | .call op next =>
    let reply := component.respond actor input pool.state op
    { state := reply.2, thread := update pool.thread actor (next reply.1) }
  | .done _ | .raised _ => pool

def run (pool : Pool Op Answer Err Actor State α) :
    List (Actor × Input) → Pool Op Answer Err Actor State α
  | [] => pool
  | (actor, input) :: rest => run (pool.step component actor input) rest

/-- The states a run goes through, the first one included. -/
def visited (pool : Pool Op Answer Err Actor State α) : List (Actor × Input) → List State
  | [] => [pool.state]
  | (actor, input) :: rest => pool.state :: visited (pool.step component actor input) rest

def Along (guard : State → Actor → Op → Input → Prop)
    (pool : Pool Op Answer Err Actor State α) : List (Actor × Input) → Prop
  | [] => True
  | (actor, input) :: rest =>
    (∀ op next, pool.thread actor = .call op next → guard pool.state actor op input) ∧
      Along guard (pool.step component actor input) rest

variable {component} {actor : Actor} {pool : Pool Op Answer Err Actor State α}
  {guard : State → Actor → Op → Input → Prop}

theorem step_call {op : Op} {next : Except Err (Answer op) → Program Op Answer Err α}
  (calls : pool.thread actor = .call op next) (input : Input) :
  pool.step component actor input =
    { state := (component.respond actor input pool.state op).2
      thread := update pool.thread actor
        (next (component.respond actor input pool.state op).1) } := by
  simp [step, calls]

variable (component) in
theorem call_or_idle (pool : Pool Op Answer Err Actor State α) (actor : Actor) :
  (∃ op next, pool.thread actor = .call op next) ∨
    ∀ input, pool.step component actor input = pool := by
  cases calls : pool.thread actor with
  | done value | raised error => exact .inr fun input => by simp only [step, calls]
  | call op next => exact .inl ⟨op, next, rfl⟩

theorem step_thread_other {other : Actor} (distinct : other ≠ actor) (input : Input) :
  (pool.step component actor input).thread other = pool.thread other := by
  rcases call_or_idle component pool actor with ⟨op, next, calls⟩ | idle
  · rw [step_call calls]
    exact update_of_ne distinct _ _
  rw [idle]

theorem run_append (pool : Pool Op Answer Err Actor State α) (first second : List (Actor × Input)) :
  pool.run component (first ++ second) = (pool.run component first).run component second := by
  induction first generalizing pool with
  | nil => rfl
  | cons move rest ih => exact ih (pool.step component move.1 move.2)

theorem along_append (pool : Pool Op Answer Err Actor State α)
  (first second : List (Actor × Input)) :
  pool.Along component guard (first ++ second) ↔ pool.Along component guard first ∧
    (pool.run component first).Along component guard second := by
  induction first generalizing pool with
  | nil => exact ⟨fun later => ⟨trivial, later⟩, fun both => both.2⟩
  | cons move rest ih => simp only [cons_append, Along, run, ih, and_assoc]

theorem along_call {op : Op} {next : Except Err (Answer op) → Program Op Answer Err α}
  (input : Input) (rest : List (Actor × Input)) (calls : pool.thread actor = .call op next) :
  pool.Along component guard ((actor, input) :: rest) ↔ guard pool.state actor op input ∧
    (pool.step component actor input).Along component guard rest := by
  refine and_congr ⟨fun guarded => guarded op next calls, fun holds other rest same => ?_⟩ Iff.rfl
  cases calls.symm.trans same
  exact holds

instance decidableAlong {guard : State → Actor → Op → Input → Prop}
    [∀ state actor op input, Decidable (guard state actor op input)] :
    ∀ (schedule : List (Actor × Input)) (pool : Pool Op Answer Err Actor State α),
      Decidable (pool.Along component guard schedule)
  | [], _ => isTrue trivial
  | (actor, input) :: rest, pool =>
    match calls : pool.thread actor with
    | .call _ _ =>
      have : Decidable ((pool.step component actor input).Along component guard rest) :=
        decidableAlong rest _
      decidable_of_iff _ (along_call input rest calls).symm
    | .done _ | .raised _ =>
      have : Decidable ((pool.step component actor input).Along component guard rest) :=
        decidableAlong rest _
      decidable_of_iff ((pool.step component actor input).Along component guard rest)
        ⟨fun later => ⟨fun _ _ same => (nomatch calls.symm.trans same), later⟩, fun both => both.2⟩

theorem along_of_forall (always : ∀ state actor op input, guard state actor op input)
  (pool : Pool Op Answer Err Actor State α) (schedule : List (Actor × Input)) :
  pool.Along component guard schedule := by
  induction schedule generalizing pool with
  | nil => trivial
  | cons move rest ih => exact ⟨fun _ _ _ => always _ _ _ _, ih _⟩

omit component in
theorem update_cases (known : Actor → Knowledge) (actor : Actor) (learned : Knowledge)
  (other : Actor) : (other = actor ∧ update known actor learned other = learned) ∨
    (other ≠ actor ∧ update known actor learned other = known other) := by
  by_cases same : other = actor
  · subst other
    exact .inl ⟨rfl, update_self ..⟩
  exact .inr ⟨same, update_of_ne same ..⟩

theorem forall_update {holds : Actor → Knowledge → Prop} {known : Actor → Knowledge}
  {learned : Knowledge} (own : holds actor learned)
  (others : ∀ other, other ≠ actor → holds other (known other)) (other : Actor) :
  holds other (update known actor learned other) := by
  rcases update_cases known actor learned other with ⟨rfl, now⟩ | ⟨distinct, now⟩
  · rw [now]
    exact own
  rw [now]
  exact others other distinct

section

variable {contract : Actor → Contract Op Answer Err Knowledge}
  {invariant : State → (Actor → Knowledge) → Prop} {guard : State → Actor → Op → Input → Prop}
  {post : Actor → Knowledge → α → Prop} {fail : Actor → Knowledge → Err → Prop}

def Adheres (component : Component Op Answer Err Actor State Input)
  (contract : Actor → Contract Op Answer Err Knowledge)
  (invariant : State → (Actor → Knowledge) → Prop)
  (guard : State → Actor → Op → Input → Prop) : Prop :=
  ∀ state known actor op input, invariant state known → guard state actor op input →
    (contract actor).allowed (known actor) op → ∃ later,
        (contract actor).learns (known actor) op (component.respond actor input state op).1 later ∧
        invariant (component.respond actor input state op).2 (update known actor later)

/-- The pool's programs know enough to keep their contracts from here on. -/
def Ready (pool : Pool Op Answer Err Actor State α)
  (contract : Actor → Contract Op Answer Err Knowledge)
  (invariant : State → (Actor → Knowledge) → Prop) (post : Actor → Knowledge → α → Prop)
  (fail : Actor → Knowledge → Err → Prop) (known : Actor → Knowledge) : Prop :=
  invariant pool.state known ∧
    ∀ actor, (pool.thread actor).wp (contract actor) (post actor) (fail actor) (known actor)

variable {known : Actor → Knowledge} {pool : Pool Op Answer Err Actor State α}

section

variable (adheres : Adheres component contract invariant guard)

include adheres

theorem step_ready (ready : pool.Ready contract invariant post fail known) (actor : Actor)
  (input : Input) (guarded : ∀ op next, pool.thread actor = .call op next →
    guard pool.state actor op input) :
  ∃ later, (pool.step component actor input).Ready contract invariant post fail later := by
  rcases call_or_idle component pool actor with ⟨op, next, calls⟩ | idle
  · obtain ⟨holds, threads⟩ := ready
    have own := threads actor
    rw [calls] at own
    obtain ⟨learned, answered, kept⟩ :=
      adheres pool.state known actor op input holds (guarded op next calls) own.1
    refine ⟨update known actor learned, ?_, ?_⟩
    · rw [step_call calls]
      exact kept
    intro other
    rw [step_call calls]
    by_cases same : other = actor
    · subst other
      simp only [update_self]
      exact own.2 _ _ answered
    simp only [update_of_ne same]
    exact threads other
  exact ⟨known, by rw [idle]; exact ready⟩

theorem run_ready (ready : pool.Ready contract invariant post fail known)
  (schedule : List (Actor × Input)) (along : pool.Along component guard schedule) :
  ∃ later, (pool.run component schedule).Ready contract invariant post fail later := by
  induction schedule generalizing pool known with
  | nil => exact ⟨known, ready⟩
  | cons move rest ih =>
    obtain ⟨later, kept⟩ := step_ready adheres ready move.1 move.2 along.1
    exact ih kept along.2

theorem visited_chain {related : State → State → Prop} (stays : ∀ state, related state state)
  (moves : ∀ state known actor op input, invariant state known →
    guard state actor op input → (contract actor).allowed (known actor) op →
    related state (component.respond actor input state op).2)
  (ready : pool.Ready contract invariant post fail known) (schedule : List (Actor × Input))
  (along : pool.Along component guard schedule) :
  (pool.visited component schedule).IsChain related := by
  induction schedule generalizing pool known with
  | nil => exact isChain_singleton _
  | cons move rest ih =>
    obtain ⟨later, kept⟩ := step_ready adheres ready move.1 move.2 along.1
    have tail := ih kept along.2
    have head : related pool.state (pool.step component move.1 move.2).state := by
      rcases call_or_idle component pool move.1 with
        ⟨op, next, calls⟩ | idle
      · have own := ready.2 move.1
        rw [calls] at own
        rw [step_call calls]
        exact moves pool.state known move.1 op move.2 ready.1 (along.1 op next calls) own.1
      rw [idle]
      exact stays _
    rw [visited]
    cases rest with
    | nil => exact isChain_pair.mpr head
    | cons second remaining => exact isChain_cons_cons.mpr ⟨head, tail⟩

end

end

def unrestricted : Contract Op Answer Err Knowledge where
  allowed _ _ := True
  learns _ _ _ _ := True

theorem visited_chain_of_respond {related : State → State → Prop}
  (stays : ∀ state, related state state)
  (moves : ∀ state actor op input, related state (component.respond actor input state op).2)
  (pool : Pool Op Answer Err Actor State α) (schedule : List (Actor × Input)) :
  (pool.visited component schedule).IsChain related := by
  have ready : pool.Ready (fun _ => unrestricted) (fun _ (_ : Actor → Unit) => True)
    (fun _ _ _ => True) (fun _ _ _ => True) (fun _ => ()) :=
    ⟨trivial, fun actor => Program.wp_of_free (fun _ _ => trivial) (pool.thread actor) ()⟩
  have adheres : Adheres component (fun _ => unrestricted) (fun _ (_ : Actor → Unit) => True)
    (fun _ _ _ _ => True) := fun _ _ _ _ _ _ _ _ => ⟨(), trivial, trivial⟩
  exact visited_chain adheres stays (fun state _ actor op input _ _ _ => moves state actor op input)
    ready schedule (along_of_forall (fun _ _ _ _ => trivial) pool schedule)

end Pool

/-!
Invariants of the state alone: what every guarded operation keeps, whatever program performs it.
-/

namespace Pool

variable {Op : Type} {Answer : Op → Type} {Err Actor State Input α : Type} [DecidableEq Actor]
  {component : Component Op Answer Err Actor State Input} {invariant : State → Prop}
  {guard : State → Actor → Op → Input → Prop}

def Keeps (component : Component Op Answer Err Actor State Input) (invariant : State → Prop)
  (guard : State → Actor → Op → Input → Prop) : Prop :=
  ∀ state actor op input, invariant state → guard state actor op input →
    invariant (component.respond actor input state op).2

variable {pool : Pool Op Answer Err Actor State α}

section

variable (keeps : Keeps component invariant guard)

include keeps

theorem step_keeps (holds : invariant pool.state) (actor : Actor) (input : Input)
  (guarded : ∀ op next, pool.thread actor = .call op next →
    guard pool.state actor op input) : invariant (pool.step component actor input).state := by
  cases call_or_idle component pool actor with
  | inl calling =>
    obtain ⟨op, next, calls⟩ := calling
    rw [step_call calls]
    exact keeps pool.state actor op input holds (guarded op next calls)
  | inr idle =>
    rw [idle]
    exact holds

theorem visited_keeps (holds : invariant pool.state) (schedule : List (Actor × Input))
  (along : pool.Along component guard schedule) :
  ∀ state ∈ pool.visited component schedule, invariant state := by
  induction schedule generalizing pool with
  | nil =>
    intro state member
    rw [mem_singleton.mp member]
    exact holds
  | cons move rest ih =>
    intro state member
    cases mem_cons.mp member with
    | inl first =>
      rw [first]
      exact holds
    | inr later => exact ih (step_keeps keeps holds move.1 move.2 along.1) along.2 state later

theorem along_keeps {met : State → Actor → Op → Input → Prop}
  (meets : ∀ state actor op input, invariant state → guard state actor op input →
    met state actor op input) (holds : invariant pool.state) (schedule : List (Actor × Input))
  (along : pool.Along component guard schedule) : pool.Along component met schedule := by
  induction schedule generalizing pool with
  | nil => trivial
  | cons move rest ih =>
    constructor
    · intro op next calls
      exact meets pool.state move.1 op move.2 holds (along.1 op next calls)
    exact ih (step_keeps keeps holds move.1 move.2 along.1) along.2

end

theorem visited_ready {Knowledge : Type} {contract : Actor → Contract Op Answer Err Knowledge}
  {invariant : State → (Actor → Knowledge) → Prop} {post : Actor → Knowledge → α → Prop}
  {fail : Actor → Knowledge → Err → Prop} (adheres : Adheres component contract invariant guard)
  {known : Actor → Knowledge} (ready : pool.Ready contract invariant post fail known)
  (schedule : List (Actor × Input)) (along : pool.Along component guard schedule) :
  ∀ state ∈ pool.visited component schedule, ∃ later, invariant state later := by
  induction schedule generalizing pool known with
  | nil =>
    intro state member
    rw [mem_singleton.mp member]
    exact ⟨known, ready.1⟩
  | cons move rest ih =>
    intro state member
    cases mem_cons.mp member with
    | inl first =>
      rw [first]
      exact ⟨known, ready.1⟩
    | inr later =>
      obtain ⟨learned, kept⟩ := step_ready adheres ready move.1 move.2 along.1
      exact ih kept along.2 state later

theorem along_ready {Knowledge : Type} {contract : Actor → Contract Op Answer Err Knowledge}
  {invariant : State → (Actor → Knowledge) → Prop} {post : Actor → Knowledge → α → Prop}
  {fail : Actor → Knowledge → Err → Prop} (adheres : Adheres component contract invariant guard)
  {met : State → Actor → Op → Input → Prop}
  (meets : ∀ state known actor op input, invariant state known → guard state actor op input →
    (contract actor).allowed (known actor) op → met state actor op input)
  {known : Actor → Knowledge} (ready : pool.Ready contract invariant post fail known)
  (schedule : List (Actor × Input)) (along : pool.Along component guard schedule) :
  pool.Along component met schedule := by
  induction schedule generalizing pool known with
  | nil => trivial
  | cons move rest ih =>
    constructor
    · intro op next calls
      have own := ready.2 move.1
      rw [calls] at own
      exact meets pool.state known move.1 op move.2 ready.1 (along.1 op next calls) own.1
    obtain ⟨learned, kept⟩ := step_ready adheres ready move.1 move.2 along.1
    exact ih kept along.2

end Pool

end Interaction
