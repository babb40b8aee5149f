import AgentHarness.Interaction.Routine

/-!
Which operations a program can come to perform, and with which exceptions it can end,
whatever it is answered.
-/

namespace Interaction

variable {Op : Type} {Answer : Op → Type} {Err Local α β Knowledge : Type}

/-- The operations that are permitted, the exceptions with which they may be answered, and
those that may leave the program. -/
structure Footprint (Op Err : Type) where
  permitted : Op → Prop
  (foreseen raises : Err → Prop)
  passes : ∀ error, foreseen error → raises error

namespace Footprint

variable {small large : Footprint Op Err}

def contract (footprint : Footprint Op Err) : Contract Op Answer Err Unit where
  allowed _ op := footprint.permitted op
  learns _ _ answer _ := ∀ error, answer = .error error → footprint.foreseen error

structure Covers (small large : Footprint Op Err) : Prop where
  permitted : ∀ op, small.permitted op → large.permitted op
  foreseen : ∀ error, large.foreseen error → small.foreseen error
  raises : ∀ error, small.raises error → large.raises error

def Preserves (footprint : Footprint Op Err) (contract : Contract Op Answer Err Knowledge)
  (invariant : Knowledge → Prop) : Prop :=
  ∀ known op, invariant known → footprint.permitted op → contract.allowed known op ∧
      ∀ answer later, contract.learns known op answer later →
        invariant later ∧ ∀ error, answer = .error error → footprint.foreseen error

theorem Covers.preserves (covers : small.Covers large)
  {contract : Contract Op Answer Err Knowledge} {invariant : Knowledge → Prop}
  (preserves : large.Preserves contract invariant) : small.Preserves contract invariant := by
  intro known op holds permit
  obtain ⟨allowed, answers⟩ := preserves known op holds (covers.permitted op permit)
  refine ⟨allowed, fun answer later learned => ?_⟩
  obtain ⟨kept, foreseen⟩ := answers answer later learned
  exact ⟨kept, fun error failed => covers.foreseen error (foreseen error failed)⟩

end Footprint

variable {footprint small large : Footprint Op Err}

namespace Program

def Within (footprint : Footprint Op Err) (program : Program Op Answer Err α) : Prop :=
  program.wp footprint.contract (fun _ _ => True) (fun _ error => footprint.raises error) ()

theorem within_done (value : α) : (done value : Program Op Answer Err α).Within footprint := trivial

theorem within_raised {error : Err} (fails : footprint.raises error) :
  (raised error : Program Op Answer Err α).Within footprint := fails

theorem within_perform {op : Op} (permit : footprint.permitted op) (read : Answer op → α) :
  (perform op read : Program Op Answer Err α).Within footprint :=
  (wp_perform op read).mpr ⟨permit, fun _ _ _ => trivial,
    fun error _ foreseen => footprint.passes error (foreseen error rfl)⟩

variable {program : Program Op Answer Err α}

theorem Within.bind {next : α → Program Op Answer Err β} (first : program.Within footprint)
  (rest : ∀ value, (next value).Within footprint) : (program.bind next).Within footprint := by
  unfold Within
  rw [wp_bind]
  exact wp_mono first (fun _ value _ => rest value) fun _ _ => id

theorem Within.catching {handler : Err → Program Op Answer Err α} (body : program.Within footprint)
  (handled : ∀ error, footprint.raises error → (handler error).Within footprint) :
  (program.catching handler).Within footprint := by
  unfold Within
  rw [wp_catching]
  exact wp_mono body (fun _ _ _ => trivial) fun _ error fails => handled error fails

theorem Within.ensuring {body : Program Op Answer Err α} {cleanup : Program Op Answer Err Unit}
  (within : body.Within footprint) (cleans : cleanup.Within footprint) :
  (body.ensuring cleanup).Within footprint := by
  unfold Within
  rw [wp_ensuring]
  refine wp_mono within (fun _ _ _ => cleans) fun _ error fails => ?_
  exact wp_mono cleans (fun _ _ _ => fails) fun _ _ => id

theorem within_each {items : List β} {action : β → Program Op Answer Err Unit}
  (round : ∀ item, (action item).Within footprint) : (each items action).Within footprint := by
  induction items with
  | nil => exact trivial
  | cons item rest ih => exact (round item).bind fun _ => ih

variable {contract : Contract Op Answer Err Knowledge} {invariant : Knowledge → Prop}
  {known : Knowledge}

theorem wp_of_footprint {post : Unit → α → Prop} {fail : Unit → Err → Prop}
  (holds : program.wp footprint.contract post fail ())
  (preserves : footprint.Preserves contract invariant) (start : invariant known) :
  program.wp contract (fun later value => invariant later ∧ post () value)
    (fun later error => invariant later ∧ fail () error) known := by
  induction program generalizing known with
  | done value | raised error => exact ⟨start, holds⟩
  | call op next ih =>
    obtain ⟨allowed, answers⟩ := preserves known op start holds.1
    refine ⟨allowed, fun answer later learned => ?_⟩
    obtain ⟨kept, foreseen⟩ := answers answer later learned
    exact ih answer (holds.2 answer () foreseen) kept

theorem Within.wp
  (within : program.Within footprint) (preserves : footprint.Preserves contract invariant)
  (start : invariant known) : program.wp contract (fun later _ => invariant later)
    (fun later error => invariant later ∧ footprint.raises error) known :=
  wp_mono (wp_of_footprint within preserves start) (fun _ _ both => both.1)
    (fun _ _ => id)

end Program

namespace Routine

def Within (footprint : Footprint Op Err) (routine : Routine Op Answer Err Local α) : Prop :=
  ∀ vars, routine.wp footprint.contract (fun _ _ _ => True)
    (fun _ _ error => footprint.raises error) () vars

theorem within_value (result : α) :
  (value result : Routine Op Answer Err Local α).Within footprint := fun _ => trivial

theorem within_raise {error : Err} (fails : footprint.raises error) :
  (raise error : Routine Op Answer Err Local α).Within footprint := fun _ => fails

theorem within_locals :
  (locals : Routine Op Answer Err Local Local).Within footprint := fun _ => trivial

theorem within_assign (change : Local → Local) :
  (assign change : Routine Op Answer Err Local Unit).Within footprint :=
  fun _ => trivial

theorem within_lift {program : Program Op Answer Err α} (within : program.Within footprint) :
  (lift program : Routine Op Answer Err Local α).Within footprint :=
  fun _ => (wp_lift program).mpr within

theorem Within.bind {first : Routine Op Answer Err Local α}
  {next : α → Routine Op Answer Err Local β} (before : first.Within footprint)
  (rest : ∀ result, (next result).Within footprint) : (first.bind next).Within footprint := by
  intro vars
  rw [wp_bind]
  exact wp_mono (before vars) (fun _ now result _ => rest result now) fun _ _ _ => id

theorem Within.wp {contract : Contract Op Answer Err Knowledge} {invariant : Knowledge → Prop}
  {routine : Routine Op Answer Err Local α} (within : routine.Within footprint)
  (preserves : footprint.Preserves contract invariant) {known : Knowledge}
  (start : invariant known) (vars : Local) :
  routine.wp contract (fun later _ _ => invariant later)
    (fun later _ error => invariant later ∧ footprint.raises error) known vars := by
  refine Program.wp_mono (Program.wp_of_footprint (within vars) preserves start) ?_
    (fun _ _ both => both.2)
  rintro later ⟨outcome, now⟩ ⟨holds, ended⟩
  cases outcome with
  | ok result => exact holds
  | error error => exact ⟨holds, ended⟩

end Routine

theorem Footprint.Covers.contract (covers : small.Covers large) :
  small.Preserves (large.contract : Contract Op Answer Err Unit) (fun _ => True) :=
  fun _ op _ permit => ⟨covers.permitted op permit, fun _ _ foreseen =>
    ⟨trivial, fun error failed => covers.foreseen error (foreseen error failed)⟩⟩

theorem Program.Within.mono {program : Program Op Answer Err α} (within : program.Within small)
  (covers : small.Covers large) : program.Within large :=
  wp_mono (within.wp covers.contract trivial) (fun _ _ _ => trivial)
    (fun _ error ended => covers.raises error ended.2)

theorem Routine.Within.mono {routine : Routine Op Answer Err Local α}
  (within : routine.Within small) (covers : small.Covers large) : routine.Within large :=
  fun vars => wp_mono (within.wp covers.contract trivial vars) (fun _ _ _ _ => trivial)
    (fun _ _ error ended => covers.raises error ended.2)

end Interaction
