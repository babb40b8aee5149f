import AgentHarness.Interaction.Footprint

/-!
Programs that keep to a contract from wherever an invariant of their knowledge holds, and
leave it true however they end.
-/

namespace Interaction

variable {Op : Type} {Answer : Op → Type} {Err Local α β Knowledge : Type}
  {contract : Contract Op Answer Err Knowledge} {invariant : Knowledge → Prop}

namespace Program

def Upholds (contract : Contract Op Answer Err Knowledge) (invariant : Knowledge → Prop)
  (program : Program Op Answer Err α) : Prop :=
  ∀ known, invariant known →
    program.wp contract (fun later _ => invariant later) (fun later _ => invariant later) known

theorem upholds_done (value : α) :
  (done value : Program Op Answer Err α).Upholds contract invariant := fun _ holds => holds

theorem upholds_raised (error : Err) :
  (raised error : Program Op Answer Err α).Upholds contract invariant := fun _ holds => holds

theorem upholds_perform {op : Op} (read : Answer op → α)
  (keeps : ∀ known, invariant known → contract.allowed known op ∧
    ∀ answer later, contract.learns known op answer later → invariant later) :
  (perform op read : Program Op Answer Err α).Upholds contract invariant := by
  intro known holds
  obtain ⟨allowed, later⟩ := keeps known holds
  exact (wp_perform op read).mpr ⟨allowed, fun value now learned => later (.ok value) now learned,
    fun error now learned => later (.error error) now learned⟩

variable {program : Program Op Answer Err α}

theorem Upholds.bind {next : α → Program Op Answer Err β}
  (first : program.Upholds contract invariant)
  (rest : ∀ value, (next value).Upholds contract invariant) :
  (program.bind next).Upholds contract invariant := by
  intro known holds
  rw [wp_bind]
  exact wp_mono (first known holds) (fun later value kept => rest value later kept)
    (fun _ _ => id)

theorem Upholds.catching {handler : Err → Program Op Answer Err α}
  (body : program.Upholds contract invariant)
  (handled : ∀ error, (handler error).Upholds contract invariant) :
  (program.catching handler).Upholds contract invariant := by
  intro known holds
  rw [wp_catching]
  exact wp_mono (body known holds) (fun _ _ => id)
    (fun later error kept => handled error later kept)

theorem Upholds.ensuring {body : Program Op Answer Err α} {cleanup : Program Op Answer Err Unit}
  (upholds : body.Upholds contract invariant) (cleans : cleanup.Upholds contract invariant) :
  (body.ensuring cleanup).Upholds contract invariant := by
  intro known holds
  rw [wp_ensuring]
  exact wp_mono (upholds known holds) (fun later _ kept => cleans later kept)
    (fun later _ kept => cleans later kept)

theorem upholds_each {items : List β} {action : β → Program Op Answer Err Unit}
  (round : ∀ item, (action item).Upholds contract invariant) :
  (each items action).Upholds contract invariant := by
  induction items with
  | nil => exact upholds_done ()
  | cons item rest ih => exact (round item).bind fun _ => ih

theorem Within.upholds {footprint : Footprint Op Err} (within : program.Within footprint)
  (preserves : footprint.Preserves contract invariant) : program.Upholds contract invariant :=
  fun _ holds => wp_mono (within.wp preserves holds) (fun _ _ => id)
    (fun _ _ ended => ended.1)

end Program

namespace Routine

def Upholds (contract : Contract Op Answer Err Knowledge) (invariant : Knowledge → Prop)
  (routine : Routine Op Answer Err Local α) : Prop :=
  ∀ known vars, invariant known →
    routine.wp contract (fun later _ _ => invariant later) (fun later _ _ => invariant later)
      known vars

theorem upholds_value (result : α) :
  (value result : Routine Op Answer Err Local α).Upholds contract invariant :=
  fun _ _ => id

theorem upholds_raise (error : Err) :
  (raise error : Routine Op Answer Err Local α).Upholds contract invariant :=
  fun _ _ => id

theorem upholds_assign (change : Local → Local) :
  (assign change : Routine Op Answer Err Local Unit).Upholds contract invariant :=
  fun _ _ => id

theorem upholds_lift {program : Program Op Answer Err α}
  (upholds : program.Upholds contract invariant) :
  (lift program : Routine Op Answer Err Local α).Upholds contract invariant :=
  fun known _ holds => (wp_lift program).mpr (upholds known holds)

theorem Upholds.bind {first : Routine Op Answer Err Local α}
  {next : α → Routine Op Answer Err Local β} (before : first.Upholds contract invariant)
  (rest : ∀ result, (next result).Upholds contract invariant) :
  (first.bind next).Upholds contract invariant := by
  intro known vars holds
  rw [wp_bind]
  exact wp_mono (before known vars holds) (fun later now result kept => rest result later now kept)
    (fun _ _ _ => id)

variable {body : Routine Op Answer Err Local α}

theorem Upholds.catching
  {handler : Err → Routine Op Answer Err Local α} (upholds : body.Upholds contract invariant)
  (handled : ∀ error, (handler error).Upholds contract invariant) :
  (body.catching handler).Upholds contract invariant := by
  intro known vars holds
  rw [wp_catching]
  exact wp_mono (upholds known vars holds) (fun _ _ _ => id)
    (fun later now error kept => handled error later now kept)

theorem Upholds.ensuring
  {cleanup : Routine Op Answer Err Local Unit} (upholds : body.Upholds contract invariant)
  (cleans : cleanup.Upholds contract invariant) :
  (body.ensuring cleanup).Upholds contract invariant := by
  intro known vars holds
  rw [wp_ensuring]
  exact wp_mono (upholds known vars holds) (fun later now _ kept => cleans later now kept)
    (fun later now _ kept => cleans later now kept)

variable {routine : Routine Op Answer Err Local α}

theorem Upholds.run (upholds : routine.Upholds contract invariant) (vars : Local) :
  (routine.run vars).Upholds contract invariant :=
  fun known holds => wp_run (upholds known vars holds)

theorem Within.upholds {footprint : Footprint Op Err}
  (within : routine.Within footprint) (preserves : footprint.Preserves contract invariant) :
  routine.Upholds contract invariant :=
  fun _ vars holds => wp_mono (within.wp preserves holds vars) (fun _ _ _ => id)
    (fun _ _ _ ended => ended.1)

end Routine

end Interaction
