import AgentHarness.Interaction.Program

/-!
Contracts: what a program may ask of a component, and what it learns from an answer.
-/

namespace Interaction

structure Contract (Op : Type) (Answer : Op → Type) (Err Knowledge : Type) where
  allowed : Knowledge → Op → Prop
  learns : Knowledge → (op : Op) → Except Err (Answer op) → Knowledge → Prop

namespace Program

variable {Op : Type} {Answer : Op → Type} {Err Knowledge α β : Type}
  (contract : Contract Op Answer Err Knowledge)

def wp : Program Op Answer Err α → (Knowledge → α → Prop) → (Knowledge → Err → Prop) →
    Knowledge → Prop
  | .done value, post, _, known => post known value
  | .raised error, _, fail, known => fail known error
  | .call op next, post, fail, known =>
    contract.allowed known op ∧ ∀ answer later, contract.learns known op answer later →
        (next answer).wp post fail later

variable {contract} {post post' : Knowledge → α → Prop} {fail fail' : Knowledge → Err → Prop}
  {known : Knowledge}

@[simp] theorem wp_done (value : α) :
  (done value : Program Op Answer Err α).wp contract post fail known ↔ post known value :=
  Iff.rfl

@[simp] theorem wp_raised (error : Err) :
  (raised error : Program Op Answer Err α).wp contract post fail known ↔ fail known error :=
  Iff.rfl

theorem wp_mono {program : Program Op Answer Err α} (holds : program.wp contract post fail known)
  (onDone : ∀ later value, post later value → post' later value)
  (onRaised : ∀ later error, fail later error → fail' later error) :
  program.wp contract post' fail' known := by
  induction program generalizing known with
  | done value => exact onDone known value holds
  | raised error => exact onRaised known error holds
  | call op next ih =>
    exact ⟨holds.1, fun answer later learned => ih answer (holds.2 answer later learned)⟩

theorem wp_bind (program : Program Op Answer Err α) (next : α → Program Op Answer Err β)
  {post : Knowledge → β → Prop} : (program.bind next).wp contract post fail known ↔
    program.wp contract (fun later value => (next value).wp contract post fail later)
    fail known := by
  induction program generalizing known with
  | done value | raised error => exact Iff.rfl
  | call op rest ih =>
    exact and_congr_right fun _ =>
      forall_congr' fun answer => forall_congr' fun later => imp_congr_right fun _ => ih answer

theorem wp_do (program : Program Op Answer Err α) (next : α → Program Op Answer Err β)
  {post : Knowledge → β → Prop} : (program >>= next).wp contract post fail known ↔
    program.wp contract (fun later value => (next value).wp contract post fail later) fail known :=
  wp_bind program next

theorem wp_catching (program : Program Op Answer Err α) (handler : Err → Program Op Answer Err α) :
  (program.catching handler).wp contract post fail known ↔ program.wp contract post
    (fun later error => (handler error).wp contract post fail later) known := by
  induction program generalizing known with
  | done value | raised error => exact Iff.rfl
  | call op rest ih =>
    exact and_congr_right fun _ =>
      forall_congr' fun answer => forall_congr' fun later => imp_congr_right fun _ => ih answer

theorem wp_ensuring (body : Program Op Answer Err α) (cleanup : Program Op Answer Err Unit) :
  (body.ensuring cleanup).wp contract post fail known ↔ body.wp contract
    (fun later value => cleanup.wp contract (fun last _ => post last value) fail later)
    (fun later error => cleanup.wp contract (fun last _ => fail last error) fail later)
    known := by
  simp [ensuring, wp_bind, wp_catching, wp_done, wp_raised]

theorem wp_perform (op : Op) (read : Answer op → α) :
  (perform op read : Program Op Answer Err α).wp contract post fail known ↔
    contract.allowed known op ∧
    (∀ value later, contract.learns known op (.ok value) later → post later (read value)) ∧
    (∀ error later, contract.learns known op (.error error) later → fail later error) := by
  constructor
  · rintro ⟨allowed, rest⟩
    exact ⟨allowed, fun value later learned => rest (.ok value) later learned,
      fun error later learned => rest (.error error) later learned⟩
  rintro ⟨allowed, onValue, onError⟩
  refine ⟨allowed, fun answer later learned => ?_⟩
  cases answer with
  | ok value => exact onValue value later learned
  | error error => exact onError error later learned

theorem wp_do_perform {op : Op} {read : Answer op → α} {next : α → Program Op Answer Err β}
  {post : Knowledge → β → Prop} : (perform op read >>= next).wp contract post fail known ↔
    contract.allowed known op ∧ (∀ value later, contract.learns known op (.ok value) later →
    (next (read value)).wp contract post fail later) ∧
    (∀ error later, contract.learns known op (.error error) later → fail later error) := by
  rw [wp_do, wp_perform]

theorem wp_of_free (free : ∀ known op, contract.allowed known op)
  (program : Program Op Answer Err α) (known : Knowledge) :
  program.wp contract (fun _ _ => True) (fun _ _ => True) known := by
  induction program generalizing known with
  | done value | raised error => trivial
  | call op next ih => exact ⟨free known op, fun answer later _ => ih answer later⟩

theorem wp_each {items : List β} {action : β → Program Op Answer Err Unit}
  {invariant : Knowledge → Prop} (start : invariant known)
  (round : ∀ item ∈ items, ∀ now, invariant now →
    (action item).wp contract (fun later _ => invariant later) fail now) :
  (each items action).wp contract (fun later _ => invariant later) fail known := by
  induction items generalizing known with
  | nil => exact start
  | cons item rest ih =>
    rw [each, wp_bind]
    refine wp_mono (round item List.mem_cons_self known start) ?_ fun _ _ => id
    intro later _ kept
    exact ih kept fun other member => round other (List.mem_cons_of_mem item member)

/-- A contract that allows less and foresees more answers is the harder one to
meet; `related` carries the knowledge across. -/
theorem wp_weaken {Knowledge' : Type} {looser : Contract Op Answer Err Knowledge'}
  {related : Knowledge → Knowledge' → Prop}
  {postLoose : Knowledge' → α → Prop} {failLoose : Knowledge' → Err → Prop}
  {program : Program Op Answer Err α} {known : Knowledge} {known' : Knowledge'}
  (holds : program.wp contract post fail known) (start : related known known')
  (calls : ∀ now now' op, related now now' → contract.allowed now op → looser.allowed now' op ∧
    ∀ answer later', looser.learns now' op answer later' →
    ∃ later, contract.learns now op answer later ∧ related later later')
  (onDone : ∀ now now' value, related now now' → post now value → postLoose now' value)
  (onRaised : ∀ now now' error, related now now' → fail now error → failLoose now' error) :
  program.wp looser postLoose failLoose known' := by
  induction program generalizing known known' with
  | done value => exact onDone known known' value start holds
  | raised error => exact onRaised known known' error start holds
  | call op next ih =>
    obtain ⟨allowed, answers⟩ := calls known known' op start holds.1
    refine ⟨allowed, fun answer later' learned' => ?_⟩
    obtain ⟨later, learned, kept⟩ := answers answer later' learned'
    exact ih answer (holds.2 answer later learned) kept

end Program

namespace Program

variable {Op Whole : Type} {Answer : Op → Type} {WholeAnswer : Whole → Type}
  {Err α Knowledge : Type} (embed : Op → Whole) (read : ∀ op, WholeAnswer (embed op) → Answer op)

def embedded : Program Op Answer Err α → Program Whole WholeAnswer Err α
  | .done value => .done value
  | .raised error => .raised error
  | .call op next => .call (embed op) fun answer => (next (answer.map (read op))).embedded

variable {embed : Op → Whole} {read : ∀ op, WholeAnswer (embed op) → Answer op}
  {part : Contract Op Answer Err Knowledge} {whole : Contract Whole WholeAnswer Err Knowledge}
  {post : Knowledge → α → Prop} {fail : Knowledge → Err → Prop} {known : Knowledge}

theorem wp_embedded (allows : ∀ known op, part.allowed known op → whole.allowed known (embed op))
  (teaches : ∀ known op given later, whole.learns known (embed op) given later →
    part.learns known op (given.map (read op)) later)
  {program : Program Op Answer Err α} (holds : program.wp part post fail known) :
  (program.embedded embed read).wp whole post fail known := by
  induction program generalizing known with
  | done value | raised error => exact holds
  | call op next ih =>
    refine ⟨allows known op holds.1, ?_⟩
    intro given later learned
    exact ih _ (holds.2 _ later (teaches known op given later learned))

end Program

end Interaction
