import Mathlib.Logic.Function.Basic

/-!
Programs that act on a shared component through operations.

A program is the tree of its own control flow: it finishes, raises, or performs
one operation and goes on with whatever the component answers, an exception
included.  Nothing here fixes the component, so one program can be run alone,
among other programs, or against a contract.
-/

namespace Interaction

/-- `Answer op` is the type of a normal answer to `op`; every operation can
raise an `Err` instead. -/
inductive Program (Op : Type) (Answer : Op → Type) (Err α : Type) : Type where
  | done (value : α)
  | raised (error : Err)
  | call (op : Op) (next : Except Err (Answer op) → Program Op Answer Err α)

namespace Program

variable {Op : Type} {Answer : Op → Type} {Err α β γ : Type}

def bind : Program Op Answer Err α → (α → Program Op Answer Err β) → Program Op Answer Err β
  | .done value, next => next value
  | .raised error, _ => .raised error
  | .call op rest, next => .call op fun answer => (rest answer).bind next

/-- `try … except`: the handler runs in place of the raised exception. -/
def catching : Program Op Answer Err α → (Err → Program Op Answer Err α) → Program Op Answer Err α
  | .done value, _ => .done value
  | .raised error, handler => handler error
  | .call op rest, handler => .call op fun answer => (rest answer).catching handler

instance : Monad (Program Op Answer Err) where
  pure := .done
  bind

/-- `try … finally`: an exception of the cleanup replaces the outcome of the body. -/
def ensuring (body : Program Op Answer Err α) (cleanup : Program Op Answer Err Unit) :
  Program Op Answer Err α :=
  (body.bind fun value => .done (Except.ok value)).catching
      (fun error => .done (Except.error error))
    |>.bind (fun outcome => cleanup.bind (fun _ =>
      match outcome with
      | .ok value => .done value
      | .error error => .raised error))

/-- One operation; `read` takes its answer to the value the program goes on with. -/
def perform (op : Op) (read : Answer op → α) : Program Op Answer Err α :=
  .call op (fun answer =>
    match answer with
    | .ok value => .done (read value)
    | .error error => .raised error)

def each (items : List β) (action : β → Program Op Answer Err Unit) : Program Op Answer Err Unit :=
  match items with
  | [] => .done ()
  | item :: rest => (action item).bind fun _ => each rest action

@[simp] theorem pure_eq (value : α) : (pure value : Program Op Answer Err α) = .done value := rfl

variable (first : Program Op Answer Err α)

@[simp] theorem bind_eq (next : α → Program Op Answer Err β) :
  (first >>= next) = first.bind next := rfl

@[simp] theorem done_bind (value : α) (next : α → Program Op Answer Err β) :
  (done value).bind next = next value := rfl

@[simp] theorem raised_bind (error : Err) (next : α → Program Op Answer Err β) :
  (raised error : Program Op Answer Err α).bind next = raised error := rfl

theorem bind_assoc (second : α → Program Op Answer Err β) (third : β → Program Op Answer Err γ) :
  (first.bind second).bind third = first.bind (fun value => (second value).bind third) := by
  induction first with
  | done value | raised error => rfl
  | call op rest ih =>
    simp only [bind]
    congr 1
    funext answer
    exact ih answer

theorem bind_done : first.bind done = first := by
  induction first with
  | done value | raised error => rfl
  | call op rest ih =>
    simp only [bind]
    congr 1
    funext answer
    exact ih answer

instance : LawfulMonad (Program Op Answer Err) :=
  LawfulMonad.mk' _ (fun first => bind_done first) (fun _ _ => rfl) bind_assoc

end Program

end Interaction
