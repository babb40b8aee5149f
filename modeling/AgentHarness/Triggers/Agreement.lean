import AgentHarness.Triggers.Repository

/-!
A stored trigger and the columns beside it say the same, as long as an invocation writes back the
trigger it finds.
-/

namespace AgentHarness.Triggers

open Collections Interaction Dict List

theorem trigger_ok {row : AgentTriggerRow} {trigger : StoredAgentTrigger} :
  row.trigger = .ok trigger ↔
    row.payload = trigger ∧ trigger.validate = .ok () ∧ trigger.row = row := by
  unfold AgentTriggerRow.trigger
  constructor
  · intro decoded
    split at decoded
    · cases decoded
    case h_2 valid =>
      split at decoded
      case isTrue same =>
        have payload : row.payload = trigger := Except.ok.inj decoded
        rw [← payload]
        exact ⟨rfl, valid, same⟩
      · cases decoded
  rintro ⟨rfl, valid, same⟩
  rw [valid]
  exact if_pos same

structure Readable (table : TriggerTable) : Prop where
  keyed : ∀ triggerId row, table.get? triggerId = some row → row.triggerId = triggerId
  decodes : ∀ triggerId row, table.get? triggerId = some row → row.trigger = .ok row.payload

theorem triggers_ok {rows : List AgentTriggerRow}
  (decodes : ∀ row ∈ rows, row.trigger = .ok row.payload) :
  triggers rows = .ok (rows.map AgentTriggerRow.payload) := by
  induction rows with
  | nil => rfl
  | cons row rest ih =>
    have first : row.trigger = .ok row.payload := decodes row mem_cons_self
    have others : triggers rest = .ok (rest.map AgentTriggerRow.payload) :=
      ih fun other member => decodes other (mem_cons_of_mem row member)
    unfold triggers at others ⊢
    rw [mapM_cons, first, others]
    rfl

section

variable {table : TriggerTable}

theorem values_decode (readable : Readable table) {row : AgentTriggerRow}
  (member : row ∈ table.values) : row.trigger = .ok row.payload := by
  obtain ⟨triggerId, stored⟩ := mem_values.mp member
  exact readable.decodes triggerId row stored

theorem selectAgent_readable (readable : Readable table) (tenantId agentName : String) :
  triggers (TriggerTable.selectAgent table tenantId agentName) =
    .ok ((TriggerTable.selectAgent table tenantId agentName).map AgentTriggerRow.payload) := by
  apply triggers_ok
  intro row member
  have listed := (perm_insertionSort _ _).mem_iff.mp member
  exact values_decode readable (mem_filter.mp listed).1

theorem selectDue_readable (readable : Readable table) (now : Int) (limit : Nat) :
  triggers (TriggerTable.selectDue table now limit) =
    .ok ((TriggerTable.selectDue table now limit).map AgentTriggerRow.payload) := by
  apply triggers_ok
  intro row member
  have listed := (perm_insertionSort _ _).mem_iff.mp (mem_of_mem_take member)
  exact values_decode readable (mem_filter.mp listed).1

end

theorem readable_set {table : TriggerTable} {triggerId : String} {row : AgentTriggerRow}
  (readable : Readable table) (keyed : row.triggerId = triggerId)
  (decodes : row.trigger = .ok row.payload) : Readable (table.set triggerId row) := by
  constructor
  · exact forall_set keyed readable.keyed
  exact forall_set decodes readable.decodes

structure NextRevision (expectedRevision : Nat) (trigger : StoredAgentTrigger)
    (row : AgentTriggerRow) : Prop where
  accepted : trigger.validate = .ok ()
  agentName : trigger.agentName = row.agentName
  environment : trigger.environment = row.environment
  createdAt : trigger.createdAt = row.createdAt
  revision : trigger.revision = expectedRevision + 1

instance (expectedRevision : Nat) (trigger : StoredAgentTrigger) (row : AgentTriggerRow) :
  Decidable (NextRevision expectedRevision trigger row) :=
  decidable_of_iff
    (trigger.validate = .ok () ∧ trigger.agentName = row.agentName ∧
      trigger.environment = row.environment ∧ trigger.createdAt = row.createdAt ∧
      trigger.revision = expectedRevision + 1)
    ⟨fun ⟨accepted, agentName, environment, createdAt, revision⟩ =>
        { accepted, agentName, environment, createdAt, revision },
      fun next => ⟨next.accepted, next.agentName, next.environment, next.createdAt, next.revision⟩⟩

/-- A trigger that is added is valid, one that takes the place of another is its next revision,
and an invocation finds the trigger that it has read, but for other invocations. -/
def Careful (table : TriggerTable) (_ : Nat) (op : TriggerOp) (_ : TriggerInput) : Prop :=
  match op with
  | .insert trigger => trigger.validate = .ok ()
  | .updateWhere expectedRevision trigger =>
    ∀ row ∈ table.get? trigger.triggerId, TriggerTable.Selects expectedRevision trigger row →
        NextRevision expectedRevision trigger row
  | .writeTouched triggerId read _ =>
    ∀ row ∈ table.get? triggerId, read.SameBesidesTouch row.payload
  | _ => True

instance (table : TriggerTable) (actor : Nat) (op : TriggerOp) (input : TriggerInput) :
  Decidable (Careful table actor op input) :=
  match op with
  | .insert trigger => inferInstanceAs (Decidable (trigger.validate = .ok ()))
  | .updateWhere _ trigger =>
    inferInstanceAs (Decidable (∀ row ∈ table.get? trigger.triggerId, _ → _))
  | .writeTouched triggerId _ _ => inferInstanceAs (Decidable (∀ row ∈ table.get? triggerId, _))
  | .clock | .generateSecret | .selectRow _ | .advance _ _ _ | .selectAgent _ _ | .selectDue _ _
  | .record _ _ _ _ => inferInstanceAs (Decidable True)

section

variable {table : TriggerTable}

section

variable (readable : Readable table)

include readable

variable {trigger : StoredAgentTrigger}

theorem readable_insert (accepted : trigger.validate = .ok ()) :
  Readable (TriggerTable.insert table trigger).2 := by
  unfold TriggerTable.insert
  split
  · exact readable
  exact readable_set readable rfl (trigger_ok.mpr ⟨rfl, accepted, rfl⟩)

theorem readable_updateWhere {expectedRevision : Nat} (next : ∀ row ∈ table.get? trigger.triggerId,
    TriggerTable.Selects expectedRevision trigger row →
    NextRevision expectedRevision trigger row) :
  Readable (TriggerTable.updateWhere table expectedRevision trigger).2 := by
  unfold TriggerTable.updateWhere
  split
  · exact readable
  case h_2 row stored =>
    split
    case isTrue selected =>
      have revised := next row stored selected
      have keyed : row.triggerId = trigger.triggerId := readable.keyed _ row stored
      apply readable_set readable
      · exact keyed
      apply trigger_ok.mpr
      refine ⟨rfl, revised.accepted, ?_⟩
      simp [StoredAgentTrigger.row, TriggerTable.replaced, revised.agentName, revised.environment, revised.createdAt, keyed, selected.1]
    · exact readable

theorem readable_writeTouched {triggerId : String} {read : StoredAgentTrigger} (invokedAt : Int)
  (found : ∀ row ∈ table.get? triggerId, read.SameBesidesTouch row.payload) :
  Readable (TriggerTable.writeTouched table triggerId read invokedAt).2 := by
  unfold TriggerTable.writeTouched
  split
  · exact readable
  case h_2 row stored =>
    obtain ⟨_, accepted, columns⟩ := trigger_ok.mp (readable.decodes triggerId row stored)
    have same : read.touched invokedAt = row.payload.touched invokedAt :=
      (found row stored).touched invokedAt
    apply readable_set readable
    · exact readable.keyed triggerId row stored
    apply trigger_ok.mpr
    refine ⟨rfl, ?_, ?_⟩
    · rw [same, StoredAgentTrigger.validate_touched]
      exact accepted
    rw [same]
    rw [← columns]
    rfl

theorem readable_advance (triggerId : String) (expectedNextFireAt nextFireAt : Int) :
  Readable (TriggerTable.advance table triggerId expectedNextFireAt nextFireAt).2 := by
  unfold TriggerTable.advance
  split
  · exact readable
  case h_2 row stored =>
    rw [readable.decodes triggerId row stored]
    dsimp only
    split
    · obtain ⟨_, accepted, columns⟩ := trigger_ok.mp (readable.decodes triggerId row stored)
      apply readable_set readable
      · exact readable.keyed triggerId row stored
      apply trigger_ok.mpr
      refine ⟨rfl, accepted, ?_⟩
      rw [← columns]
      rfl
    exact readable

end

end

theorem careful_keeps : Pool.Keeps component Readable Careful := by
  intro table actor op input readable careful
  cases op with
  | insert trigger => exact readable_insert readable careful
  | updateWhere expectedRevision trigger => exact readable_updateWhere readable careful
  | writeTouched triggerId read invokedAt => exact readable_writeTouched readable invokedAt careful
  | advance triggerId expectedNextFireAt nextFireAt =>
    exact readable_advance readable triggerId expectedNextFireAt nextFireAt
  | clock | generateSecret | selectRow _ | selectAgent _ _ | selectDue _ _ | record _ _ _ _ =>
    exact readable

def Lossless (table : TriggerTable) (actor : Nat) (op : TriggerOp) (input : TriggerInput) : Prop :=
  let reply := component.respond actor input table op
  match op with
  | .writeTouched triggerId _ invokedAt =>
    ∀ row ∈ table.get? triggerId, reply.2.get? triggerId =
        some { row with updatedAt := invokedAt, payload := row.payload.touched invokedAt }
  | .updateWhere expectedRevision trigger =>
    (TriggerTable.updateWhere table expectedRevision trigger).1 = true →
      ∃ row later, table.get? trigger.triggerId = some row ∧
        reply.2.get? trigger.triggerId = some later ∧ later.payload = trigger ∧
          later.revision = row.revision + 1
  | _ => True

theorem careful_lossless {table : TriggerTable} {actor : Nat} {op : TriggerOp}
  {input : TriggerInput} (careful : Careful table actor op input) :
  Lossless table actor op input := by
  cases op with
  | writeTouched triggerId read invokedAt =>
    intro row stored
    have stored' : table.get? triggerId = some row := stored
    simp [component, respond, TriggerTable.writeTouched, stored', get?_set_self, (careful row stored).touched invokedAt]
  | updateWhere expectedRevision trigger =>
    intro changed
    cases stored : table.get? trigger.triggerId with
    | none =>
      rw [TriggerTable.updateWhere, stored] at changed
      cases changed
    | some row =>
      by_cases selected : TriggerTable.Selects expectedRevision trigger row
      · have next := careful row stored selected
        refine ⟨row, TriggerTable.replaced row trigger, rfl, ?_, rfl, ?_⟩
        · simp [component, respond, TriggerTable.updateWhere, stored, if_pos selected, get?_set_self]
        exact next.revision.trans (congrArg (· + 1) selected.2.symm)
      rw [TriggerTable.updateWhere, stored] at changed
      simp only [if_neg selected, Bool.false_eq_true] at changed
  | clock | generateSecret | insert _ | selectRow _ | advance _ _ _ | selectAgent _ _
  | selectDue _ _ | record _ _ _ _ => trivial

/-- As long as the steps are careful, every stored trigger agrees with its columns and every
query can read its rows, and no invocation undoes a change. -/
theorem triggers_agree (service : TriggerService) {table : TriggerTable}
  (requests : Nat → TriggerRequest) (schedule : List (Nat × TriggerInput))
  (start : Readable table)
  (careful : (triggerPool service table requests).Along component Careful schedule) :
  (∀ later ∈ (triggerPool service table requests).visited component schedule, Readable later ∧
    (∀ tenantId agentName, ∃ found,
    triggers (TriggerTable.selectAgent later tenantId agentName) = .ok found) ∧
    ∀ now limit, ∃ due, triggers (TriggerTable.selectDue later now limit) = .ok due) ∧
    (triggerPool service table requests).Along component Lossless schedule := by
  constructor
  · intro later member
    have readable := Pool.visited_keeps careful_keeps start schedule careful later member
    exact ⟨readable, fun tenantId agentName => ⟨_, selectAgent_readable readable tenantId agentName⟩,
      fun now limit => ⟨_, selectDue_readable readable now limit⟩⟩
  exact Pool.along_keeps careful_keeps (fun _ _ _ _ _ => careful_lossless) start schedule careful

def hourly : StoredAgentTrigger where
  tenantId := "acme"
  triggerId := "trigger-1"
  kind := .schedule
  name := "Hourly report"
  agentName := "reporter"
  environment := .production
  revision := 1
  createdBy := "alice"
  createdAt := 0
  updatedAt := 0
  schedule := some { intervalSeconds := 3600, prompt := "Write the report." }
  nextFireAt := some 3600
  secretDigest := "0123456789abcdef0123456789abcdef0123456789abcdef0123456789abcdef"

def onlyHourly : TriggerTable := Dict.empty.set "trigger-1" hourly.row

theorem onlyHourly_readable : Readable onlyHourly := by
  apply readable_set
  · exact
      { keyed := fun _ _ found => (nomatch found)
        decodes := fun _ _ found => (nomatch found) }
  · rfl
  exact trigger_ok.mpr ⟨rfl, by decide +kernel, rfl⟩

def plain : TriggerService where
  digest _ := hourly.secretDigest

def dispatching : Nat → TriggerRequest
  | 0 => .touchInvoked "trigger-1" 3700
  | 1 => .update "acme" "alice" "trigger-1"
      { expectedRevision := 1, name := "Hourly report", enabled := false }
  | _ => .advanceSchedule "trigger-1" 3600 7200

def moves (actor count : Nat) : List (Nat × TriggerInput) :=
  List.replicate count (actor, { now := 3650 })

theorem triggers_agree_in_turn :
  (∀ later ∈ (triggerPool plain onlyHourly dispatching).visited component
    (moves 2 1 ++ moves 0 2 ++ moves 1 4),
    Readable later ∧ (∀ tenantId agentName, ∃ found,
    triggers (TriggerTable.selectAgent later tenantId agentName) = .ok found) ∧
    ∀ now limit, ∃ due, triggers (TriggerTable.selectDue later now limit) = .ok due) ∧
    (triggerPool plain onlyHourly dispatching).Along component Lossless
    (moves 2 1 ++ moves 0 2 ++ moves 1 4) :=
  triggers_agree plain dispatching _ onlyHourly_readable (by decide +kernel)

def overtaken : List (Nat × TriggerInput) := moves 0 1 ++ moves 2 1 ++ moves 0 1

/-- The trigger that was invoked while its schedule advanced can no longer be read, and neither
can any list of due triggers that holds it. -/
theorem overtaken_unreadable :
  ¬ ∀ (service : TriggerService) (table : TriggerTable) (requests : Nat → TriggerRequest)
    (schedule : List (Nat × TriggerInput)), Readable table →
    ∃ due, triggers (TriggerTable.selectDue
    ((triggerPool service table requests).run component schedule).state 8000 10) =
    .ok due := by
  intro always
  obtain ⟨due, found⟩ := always plain onlyHourly dispatching overtaken onlyHourly_readable
  have corrupt : triggers (TriggerTable.selectDue
    ((triggerPool plain onlyHourly dispatching).run component overtaken).state 8000 10) =
      .error (.value "Corrupt Agent Trigger persistence envelope") := by
    decide +kernel
  cases found.symm.trans corrupt

example :
  let blank : Nat → TriggerRequest := fun _ =>
    .update "acme" "alice" "trigger-1" { expectedRevision := 1, name := "  ", enabled := true }
  let table := ((triggerPool plain onlyHourly blank).run component (moves 0 3)).state
  (table.get? "trigger-1").map AgentTriggerRow.trigger =
    some (.error (.value "StoredAgentTrigger field")) := by
  decide +kernel

end AgentHarness.Triggers
