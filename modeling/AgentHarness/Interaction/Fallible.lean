/-!
Calls that read and write one state, one after the other, and may raise.
-/

namespace Interaction

def Fallible (State Error Value : Type) : Type := State → Except Error Value × State

namespace Fallible

variable {State Error Value Result : Type}

protected def pure (value : Value) : Fallible State Error Value := fun state => (.ok value, state)

protected def bind (first : Fallible State Error Value)
  (next : Value → Fallible State Error Result) : Fallible State Error Result :=
  fun state =>
    match first state with
    | (.ok value, state') => next value state'
    | (.error error, state') => (.error error, state')

instance : Monad (Fallible State Error) where
  pure := Fallible.pure
  bind := Fallible.bind

theorem bind_apply (first : Fallible State Error Value) (next : Value → Fallible State Error Result)
    (state : State) : (first >>= next) state =
      match first state with
      | (.ok value, state') => next value state'
      | (.error error, state') => (.error error, state') :=
  rfl

def read (value : State → Value) : Fallible State Error Value :=
  fun state => (.ok (value state), state)

theorem read_apply (value : State → Value) (state : State) :
  (read value : Fallible State Error Value) state = (.ok (value state), state) :=
  rfl

def write (next : State → State) : Fallible State Error Unit := fun state => (.ok (), next state)

def require (outcome : Except Error Value) : Fallible State Error Value :=
  fun state => (outcome, state)

def refuseIf (refused : Prop) [Decidable refused] (error : Error) : Fallible State Error Unit :=
  require (if refused then .error error else .ok ())

/-- From a state that meets `before` the call returns into `after` or raises into `raised`. -/
def Ensures (before : State → Prop) (call : Fallible State Error Value)
  (after : Value → State → Prop) (raised : State → Prop) : Prop :=
  ∀ state, before state →
    match call state with
    | (.ok value, state') => after value state'
    | (.error _, state') => raised state'

section

variable {before : State → Prop} {after : Value → State → Prop} {raised : State → Prop}

theorem Ensures.pure {value : Value} (holds : ∀ state, before state → after value state) :
  Ensures before (Pure.pure value : Fallible State Error Value) after raised :=
  holds

theorem Ensures.read {value : State → Value}
  (holds : ∀ state, before state → after (value state) state) :
  Ensures before (read value : Fallible State Error Value) after raised :=
  holds

theorem Ensures.require {outcome : Except Error Value}
  (returned : ∀ value state, outcome = .ok value → before state → after value state)
  (failed : ∀ state, before state → raised state) :
  Ensures before (require outcome) after raised := by
  intro state holds
  cases same : outcome with
  | ok value => exact returned value state same holds
  | error error => exact failed state holds

variable {call : Fallible State Error Value}

theorem Ensures.given {fact : Prop} (ensured : fact → Ensures before call after raised) :
  Ensures (fun state => before state ∧ fact) call after raised :=
  fun state holds => ensured holds.2 state holds.1

theorem Ensures.bind {middle : Value → State → Prop} {returned : Result → State → Prop}
  {first : Fallible State Error Value} {next : Value → Fallible State Error Result}
  (leads : Ensures before first middle raised)
  (follows : ∀ value, Ensures (middle value) (next value) returned raised) :
  Ensures before (first >>= next) returned raised := by
  intro state holds
  have reached := leads state holds
  rw [bind_apply]
  cases ended : first state with
  | mk outcome state' =>
    rw [ended] at reached
    cases outcome with
    | ok value => exact follows value state' reached
    | error error => exact reached

theorem Ensures.weaken {before' : State → Prop} {after' : Value → State → Prop}
  {raised' : State → Prop} (ensured : Ensures before call after raised)
  (stronger : ∀ state, before' state → before state)
  (returned : ∀ value state, after value state → after' value state)
  (failed : ∀ state, raised state → raised' state) : Ensures before' call after' raised' := by
  intro state holds
  have reached := ensured state (stronger state holds)
  split at reached
  case h_1 value state' same => exact returned value state' reached
  case h_2 error state' same => exact failed state' reached

theorem Ensures.final {kept : State → Prop} (ensured : Ensures before call (fun _ => kept) kept)
  {state : State} (holds : before state) : kept (call state).2 := by
  have reached := ensured state holds
  split at reached
  case h_1 value state' same =>
    rw [same]
    exact reached
  case h_2 error state' same =>
    rw [same]
    exact reached

end

section

variable {Call : Type} (perform : State → Call → State)

def Meets (guard : State → Call → Prop) : State → List Call → Prop
  | _, [] => True
  | state, call :: rest => guard state call ∧ Meets guard (perform state call) rest

instance decidableMeets {guard : State → Call → Prop} [∀ state call, Decidable (guard state call)] :
    ∀ (calls : List Call) (state : State), Decidable (Meets perform guard state calls)
  | [], _ => .isTrue trivial
  | call :: rest, state =>
    have : Decidable (Meets perform guard (perform state call) rest) :=
      decidableMeets rest (perform state call)
    inferInstanceAs (Decidable (guard state call ∧ Meets perform guard (perform state call) rest))

variable {perform}

theorem foldl_invariant {guard : State → Call → Prop} {kept : State → Prop}
  (keeps : ∀ state call, kept state → guard state call → kept (perform state call))
  {calls : List Call} {state : State} (start : kept state)
  (guarded : Meets perform guard state calls) : kept (calls.foldl perform state) := by
  induction calls generalizing state with
  | nil => exact start
  | cons call rest ih => exact ih (keeps state call start guarded.1) guarded.2

end

end Fallible

end Interaction
