import AgentHarness.Interaction.Contract

/-!
Programs with local variables.
-/

namespace Interaction

def Routine (Op : Type) (Answer : Op → Type) (Err Local α : Type) : Type :=
  Local → Program Op Answer Err (Except Err α × Local)

namespace Routine

variable {Op : Type} {Answer : Op → Type} {Err Local α β : Type}

def value (result : α) : Routine Op Answer Err Local α := fun vars => .done (.ok result, vars)

def raise (error : Err) : Routine Op Answer Err Local α := fun vars => .done (.error error, vars)

def bind (first : Routine Op Answer Err Local α) (next : α → Routine Op Answer Err Local β) :
  Routine Op Answer Err Local β :=
  fun vars => (first vars).bind (fun ended =>
    match ended with
    | (.ok result, later) => next result later
    | (.error error, later) => .done (.error error, later))

instance : Monad (Routine Op Answer Err Local) where
  pure := value
  bind

def locals : Routine Op Answer Err Local Local := fun vars => .done (.ok vars, vars)

def assign (change : Local → Local) : Routine Op Answer Err Local Unit :=
  fun vars => .done (.ok (), change vars)

def lift (program : Program Op Answer Err α) : Routine Op Answer Err Local α :=
  fun vars =>
    ((program.bind fun result => .done (Except.ok result)).catching
        fun error => .done (Except.error error)).bind
      (fun outcome => .done (outcome, vars))

instance : MonadLift (Program Op Answer Err) (Routine Op Answer Err Local) where
  monadLift := lift

/-- `try … except`. -/
def catching (body : Routine Op Answer Err Local α)
  (handler : Err → Routine Op Answer Err Local α) : Routine Op Answer Err Local α :=
  fun vars => (body vars).bind (fun ended =>
    match ended with
    | (.ok result, later) => .done (.ok result, later)
    | (.error error, later) => handler error later)

/-- `try … finally`: an exception of the cleanup replaces the outcome of the body. -/
def ensuring (body : Routine Op Answer Err Local α)
  (cleanup : Routine Op Answer Err Local Unit) : Routine Op Answer Err Local α :=
  fun vars => (body vars).bind (fun ended => (cleanup ended.2).bind (fun cleaned =>
    match cleaned with
    | (.ok _, last) => .done (ended.1, last)
    | (.error error, last) => .done (.error error, last)))

/-- One call: fresh variables, and the exception that is left at the end leaves the call. -/
def run (routine : Routine Op Answer Err Local α) (vars : Local) : Program Op Answer Err α :=
  (routine vars).bind (fun ended =>
    match ended.1 with
    | .ok result => .done result
    | .error error => .raised error)

section

variable {Knowledge : Type} (contract : Contract Op Answer Err Knowledge)

def wp (routine : Routine Op Answer Err Local α) (post : Knowledge → Local → α → Prop)
  (fail : Knowledge → Local → Err → Prop) (known : Knowledge) (vars : Local) : Prop :=
  (routine vars).wp contract
    (fun later ended =>
      match ended.1 with
      | .ok result => post later ended.2 result
      | .error error => fail later ended.2 error)
    (fun _ _ => False) known

variable {contract} {post post' : Knowledge → Local → α → Prop}
  {fail fail' : Knowledge → Local → Err → Prop} {known : Knowledge} {vars : Local}

@[simp] theorem bind_eq (first : Routine Op Answer Err Local α)
  (next : α → Routine Op Answer Err Local β) : (first >>= next) = first.bind next := rfl

@[simp] theorem pure_eq (result : α) :
  (pure result : Routine Op Answer Err Local α) = value result := rfl

@[simp] theorem monadLift_eq (program : Program Op Answer Err α) :
  (liftM program : Routine Op Answer Err Local α) = lift program := rfl

@[simp] theorem wp_value (result : α) :
  (value result : Routine Op Answer Err Local α).wp contract post fail known vars ↔
    post known vars result := Iff.rfl

@[simp] theorem wp_raise (error : Err) :
  (raise error : Routine Op Answer Err Local α).wp contract post fail known vars ↔
    fail known vars error := Iff.rfl

@[simp] theorem wp_locals {post : Knowledge → Local → Local → Prop} :
  (locals : Routine Op Answer Err Local Local).wp contract post fail known vars ↔
    post known vars vars := Iff.rfl

@[simp] theorem wp_assign {post : Knowledge → Local → Unit → Prop} (change : Local → Local) :
  (assign change : Routine Op Answer Err Local Unit).wp contract post fail known vars ↔
    post known (change vars) () := Iff.rfl

theorem wp_mono {routine : Routine Op Answer Err Local α}
  (holds : routine.wp contract post fail known vars)
  (onValue : ∀ later now result, post later now result → post' later now result)
  (onError : ∀ later now error, fail later now error → fail' later now error) :
  routine.wp contract post' fail' known vars := by
  refine Program.wp_mono holds ?_ fun _ _ => id
  rintro later ⟨outcome, now⟩ ended
  cases outcome with
  | ok result => exact onValue later now result ended
  | error error => exact onError later now error ended

theorem wp_bind (first : Routine Op Answer Err Local α)
  (next : α → Routine Op Answer Err Local β) {post : Knowledge → Local → β → Prop} :
  (first.bind next).wp contract post fail known vars ↔ first.wp contract
    (fun later now result => (next result).wp contract post fail later now) fail
    known vars := by
  unfold wp bind
  rw [Program.wp_bind]
  refine iff_of_eq (congrArg (fun ending => Program.wp contract (first vars) ending _ known) ?_)
  funext later ended
  obtain ⟨outcome, now⟩ := ended
  cases outcome with
  | ok result | error error => rfl

theorem wp_lift (program : Program Op Answer Err α) :
  (lift program : Routine Op Answer Err Local α).wp contract post fail known vars ↔
    program.wp contract (fun later result => post later vars result)
    (fun later error => fail later vars error) known := by
  simp [wp, lift, Program.wp_bind, Program.wp_catching, Program.wp_done]

theorem wp_catching (body : Routine Op Answer Err Local α)
  (handler : Err → Routine Op Answer Err Local α) :
  (body.catching handler).wp contract post fail known vars ↔ body.wp contract post
    (fun later now error => (handler error).wp contract post fail later now) known vars := by
  unfold wp catching
  rw [Program.wp_bind]
  refine iff_of_eq (congrArg (fun ending => Program.wp contract (body vars) ending _ known) ?_)
  funext later ended
  obtain ⟨outcome, now⟩ := ended
  cases outcome with
  | ok result | error error => rfl

theorem wp_ensuring (body : Routine Op Answer Err Local α)
  (cleanup : Routine Op Answer Err Local Unit) :
  (body.ensuring cleanup).wp contract post fail known vars ↔ body.wp contract
    (fun later now result =>
    cleanup.wp contract (fun last final _ => post last final result) fail later now)
    (fun later now error =>
    cleanup.wp contract (fun last final _ => fail last final error) fail later now)
    known vars := by
  unfold wp ensuring
  rw [Program.wp_bind]
  refine iff_of_eq (congrArg (fun ending => Program.wp contract (body vars) ending _ known) ?_)
  funext later ended
  obtain ⟨outcome, now⟩ := ended
  rw [Program.wp_bind]
  cases outcome with
  | ok result | error raised =>
    refine congrArg (fun ending => Program.wp contract (cleanup now) ending _ later) ?_
    funext last ⟨cleaned, final⟩
    cases cleaned with
    | ok _ | error error => rfl

theorem wp_run {routine : Routine Op Answer Err Local α} {vars : Local}
  {post : Knowledge → α → Prop} {fail : Knowledge → Err → Prop}
  (holds : routine.wp contract (fun later _ result => post later result)
    (fun later _ error => fail later error) known vars) :
  (routine.run vars).wp contract post fail known := by
  unfold run
  rw [Program.wp_bind]
  refine Program.wp_mono holds ?_ nofun
  rintro later ⟨outcome, now⟩ ended
  cases outcome with
  | ok result | error error => exact ended

end

end Routine

end Interaction
