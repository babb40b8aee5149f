import AgentHarness.Triggers.Dispatches

/-!
What a dispatcher may ask for, and what it knows of the slot it has claimed.
-/

namespace AgentHarness.Triggers

open Interaction Program List DispatchOp StoredAgentTrigger

structure Duty where
  rest : List StoredAgentTrigger := []
  claim : Option (StoredAgentTrigger × Int) := none
  absent : Bool := false
  placed : Bool := false

namespace Duty

def Free (known : Duty) : Prop := known.claim = none ∨ known.placed = true

def Resting (known : Duty) : Prop := known.Free ∧ known.rest = []

end Duty

def Timed (trigger : StoredAgentTrigger) : Prop :=
  ∀ schedule, trigger.schedule = some schedule → 0 < schedule.interval

namespace DispatchService

variable (service : DispatchService)

def slotRun (trigger : StoredAgentTrigger) (slot : Int) (prompt : String) : TriggerRun where
  tenantId := trigger.tenantId
  sessionId := service.sessionId trigger.triggerId (service.idempotencyKey slot)
  idempotencyKey := service.idempotencyKey slot
  prompt
  triggerId := trigger.triggerId

def Admits (known : Duty) : DispatchOp → Prop
  | .clock => known.Free ∧ known.rest = []
  | .listDue _ _ => known.claim = none ∧ known.rest = []
  | .advanceSchedule triggerId expectedNextFireAt nextFireAt =>
    (known.Free ∧ ∃ trigger rest schedule, known.rest = trigger :: rest ∧
      trigger.triggerId = triggerId ∧ trigger.schedule = some schedule ∧
      trigger.nextFireAt = some expectedNextFireAt ∧
      nextFireAt = expectedNextFireAt + schedule.interval) ∨
    ∃ trigger schedule, known.claim = some (trigger, nextFireAt) ∧
      trigger.triggerId = triggerId ∧ trigger.schedule = some schedule ∧
      expectedNextFireAt = nextFireAt + schedule.interval
  | .findRun tenantId sessionId idempotencyKey => ∃ trigger slot,
      known.claim = some (trigger, slot) ∧ tenantId = trigger.tenantId ∧
        idempotencyKey = service.idempotencyKey slot ∧
        sessionId = service.sessionId trigger.triggerId idempotencyKey
  | .addRun run => known.absent = true ∧ ∃ trigger slot prompt,
      known.claim = some (trigger, slot) ∧ run = service.slotRun trigger slot prompt
  | .getSession _ _ | .createSession _ _ _ | .touchInvoked _ | .record _ _ _ => True

def after (known : Duty) : (op : DispatchOp) → Except DispatchError op.Answer → Duty
  | .clock, _ => {}
  | .listDue _ _, .ok due => { rest := due.filter fun trigger => trigger.slot?.isSome }
  | .advanceSchedule _ expectedNextFireAt nextFireAt, .ok moved =>
    if expectedNextFireAt < nextFireAt then
      match known.rest with
      | [] => {}
      | trigger :: rest =>
        { rest, claim := if moved then some (trigger, expectedNextFireAt) else none }
    else {}
  | .findRun _ _ _, .ok found =>
    match known.claim, found with
    | some _, none => { known with absent := true }
    | some (trigger, _), some run =>
      { known with placed := known.placed || run.triggerId = trigger.triggerId }
    | none, _ => known
  | .addRun _, .ok _ => { known with absent := false, placed := true }
  | .addRun _, .error _ => { known with absent := false }
  | _, _ => known

def Foreseen : (op : DispatchOp) → Except DispatchError op.Answer → Prop
  | .clock, .error _ | .listDue _ _, .error _ | .advanceSchedule _ _ _, .error _ => False
  | .listDue _ _, .ok due => ∀ trigger ∈ due, Timed trigger
  | _, _ => True

def contract : Contract DispatchOp DispatchOp.Answer DispatchError Duty where
  allowed := service.Admits
  learns known op answer later := Foreseen op answer ∧ later = after known op answer

def Invoking (trigger : StoredAgentTrigger) (slot : Int) (rest : List StoredAgentTrigger)
  (known : Duty) : Prop :=
  known.claim = some (trigger, slot) ∧ known.rest = rest

section

variable {service : DispatchService} {known : Duty} {trigger : StoredAgentTrigger} {slot : Int}
  {rest : List StoredAgentTrigger}

theorem wp_aside {op : DispatchOp} (allowed : service.Admits known op)
  (aside : ∀ answer : Except DispatchError op.Answer, after known op answer = known) :
  (ask op).wp service.contract (fun later _ => later = known)
    (fun later _ => later = known) known := by
  refine (wp_perform op _).mpr ⟨allowed, ?_, ?_⟩
  · rintro value later ⟨_, rfl⟩
    exact aside (.ok value)
  rintro error later ⟨_, rfl⟩
  exact aside (.error error)

theorem wp_refuse {refused : Prop} [Decidable refused] {error : DispatchError}
  {post : Duty → Unit → Prop} {fail : Duty → DispatchError → Prop}
  (goes : ¬ refused → post known ()) (stops : refused → fail known error) :
  (refuse refused error).wp service.contract post fail known := by
  unfold refuse
  split
  case isTrue holds => exact stops holds
  case isFalse fails => exact goes fails

theorem wp_existingSession (sessionId : String) :
  (service.existingSession trigger sessionId).wp service.contract
    (fun later _ => later = known) (fun later _ => later = known) known := by
  unfold existingSession
  rw [wp_do, wp_catching, wp_bind]
  refine wp_mono (wp_aside trivial fun _ => rfl) ?_ ?_
  · rintro later session rfl
    rw [wp_done]
    rw [wp_do]
    exact wp_refuse (fun _ => rfl) fun _ => rfl
  rintro later error rfl
  cases error with
  | notFound message | conflict message | taskNotFound | outside => rfl

theorem wp_createRun (prompt : String) (invoking : Invoking trigger slot rest known) :
  (createRun (service.slotRun trigger slot prompt)).wp service.contract
    (fun later run => Invoking trigger slot rest later ∧
    (run.triggerId = trigger.triggerId → later.placed = true))
    (fun later _ => Invoking trigger slot rest later) known := by
  obtain ⟨claim, waiting⟩ := invoking
  unfold createRun
  rw [wp_do]
  refine (wp_perform _ _).mpr ⟨⟨trigger, slot, claim, rfl, rfl, rfl⟩, ?_, ?_⟩
  · rintro found later ⟨_, rfl⟩
    cases found with
    | some run =>
      have learns : after known (.findRun trigger.tenantId
          (service.sessionId trigger.triggerId (service.idempotencyKey slot))
          (service.idempotencyKey slot)) (.ok (some run)) =
          { known with placed := known.placed || run.triggerId = trigger.triggerId } := by
        simp [after, claim]
      refine ⟨?_, ?_⟩
      · exact learns ▸ ⟨claim, waiting⟩
      intro same
      refine (congrArg Duty.placed learns).trans ?_
      simp [same]
    | none =>
      have learns : after known (.findRun trigger.tenantId
          (service.sessionId trigger.triggerId (service.idempotencyKey slot))
          (service.idempotencyKey slot)) (.ok none) = { known with absent := true } := by
        simp [after, claim]
      rw [wp_do]
      change Program.wp _ _ _ _ (after known (.findRun trigger.tenantId
        (service.sessionId trigger.triggerId (service.idempotencyKey slot))
        (service.idempotencyKey slot)) (.ok none))
      rw [learns]
      refine (wp_perform _ _).mpr ⟨⟨rfl, trigger, slot, prompt, claim, rfl⟩, ?_, ?_⟩
      · rintro value later ⟨_, rfl⟩
        exact ⟨⟨claim, waiting⟩, fun _ => rfl⟩
      rintro error later ⟨_, rfl⟩
      exact ⟨claim, waiting⟩
  rintro error later ⟨_, rfl⟩
  exact ⟨claim, waiting⟩

theorem wp_invokeStored (prompt : String) (invoking : Invoking trigger slot rest known) :
  (service.invokeStored trigger (service.idempotencyKey slot) prompt none).wp service.contract
    (fun later _ => Invoking trigger slot rest later ∧ later.placed = true)
    (fun later _ => Invoking trigger slot rest later) known := by
  unfold invokeStored
  rw [wp_do]
  refine wp_mono (wp_existingSession _) ?_ ?_
  · rintro later existing rfl
    rw [wp_do]
    refine wp_refuse (fun _ => ?_) fun refused => absurd rfl refused.1
    rw [wp_do]
    have opened : (service.createUnless existing trigger
      (service.sessionId trigger.triggerId (service.idempotencyKey slot))).wp service.contract
        (fun last _ => last = later) (fun last _ => last = later) later := by
      cases existing with
      | some session => rfl
      | none => exact wp_aside trivial fun _ => rfl
    refine wp_mono opened ?_ ?_
    · rintro later session rfl
      rw [wp_do]
      refine wp_mono (wp_createRun prompt invoking) ?_ fun _ _ => id
      rintro later run ⟨held, places⟩
      rw [wp_do]
      refine wp_refuse (fun accepted => ?_) fun _ => held
      have placed : later.placed = true := places (by tauto)
      rw [wp_do]
      refine wp_mono (wp_aside trivial fun _ => rfl) ?_ ?_
      · rintro last touched rfl
        rw [wp_do]
        refine wp_mono (wp_aside trivial fun _ => rfl) ?_ ?_
        · rintro last _ rfl
          rw [wp_do]
          exact wp_refuse (fun _ => ⟨held, placed⟩) fun _ => held
        rintro last _ rfl
        exact held
      rintro last _ rfl
      exact held
    rintro last _ rfl
    exact invoking
  rintro later _ rfl
  exact invoking

def slotted (triggers : List StoredAgentTrigger) : List StoredAgentTrigger :=
  triggers.filter fun trigger => trigger.slot?.isSome

theorem slotted_cons (trigger : StoredAgentTrigger) (others : List StoredAgentTrigger) :
  slotted (trigger :: others) =
    if trigger.slot?.isSome then trigger :: slotted others else slotted others := by
  unfold slotted
  rw [filter_cons]

theorem wp_dispatchEach (triggers : List StoredAgentTrigger) (dispatched : Nat)
  (timed : ∀ trigger ∈ triggers, Timed trigger) (free : known.Free)
  (waiting : known.rest = slotted triggers) :
  (service.dispatchEach dispatched triggers).wp service.contract
    (fun later _ => later.Free ∧ later.rest = []) (fun later _ => later = {}) known := by
  induction triggers generalizing known dispatched with
  | nil => exact ⟨free, waiting⟩
  | cons trigger others ih =>
    obtain ⟨own, tail⟩ := forall_mem_cons.mp timed
    rw [slotted_cons] at waiting
    unfold dispatchEach
    cases planned : trigger.schedule with
    | none =>
      have passed : ¬ trigger.slot?.isSome = true := by
        simp [slot?, planned]
      rw [if_neg passed] at waiting
      exact ih dispatched tail free waiting
    | some schedule =>
      cases due : trigger.nextFireAt with
      | none =>
        have passed : ¬ trigger.slot?.isSome = true := by
          simp [slot?, planned, due]
        rw [if_neg passed] at waiting
        exact ih dispatched tail free waiting
      | some scheduledAt =>
        have kept : trigger.slot?.isSome = true := by
          simp [slot?, planned, due]
        rw [if_pos kept] at waiting
        have later : scheduledAt < scheduledAt + schedule.interval := by
          have positive := own schedule planned
          omega
        have claims : ∀ moved : Bool, after known (.advanceSchedule trigger.triggerId
            scheduledAt (scheduledAt + schedule.interval)) (.ok moved) =
            { rest := slotted others
              claim := if moved then some (trigger, scheduledAt) else none } := by
          intro moved
          simp only [after, if_pos later, waiting]
        rw [wp_do]
        refine (wp_perform _ _).mpr ⟨.inl ⟨free, trigger, slotted others, schedule, waiting,
          rfl, planned, due, rfl⟩, ?_, ?_⟩
        · rintro moved next ⟨_, rfl⟩
          rw [claims]
          cases moved with
          | false => exact ih dispatched tail (.inl rfl) rfl
          | true =>
            rw [wp_do, wp_catching]
            have invoking : Invoking trigger scheduledAt (slotted others)
                { rest := slotted others, claim := some (trigger, scheduledAt) } :=
              ⟨rfl, rfl⟩
            refine wp_mono (wp_invokeStored schedule.prompt invoking) ?_ ?_
            · rintro last _ ⟨⟨_, remains⟩, placed⟩
              exact ih (dispatched + 1) tail (.inr placed) remains
            rintro last error ⟨claimed, _⟩
            rw [wp_do]
            refine (wp_perform _ _).mpr ⟨.inr ⟨trigger, schedule, claimed, rfl, planned,
              rfl⟩, ?_, ?_⟩
            · rintro restored final ⟨_, rfl⟩
              have backwards : ¬ scheduledAt + schedule.interval < scheduledAt := by omega
              exact if_neg backwards
            rintro _ final ⟨impossible, _⟩
            exact impossible.elim
        rintro error next ⟨impossible, _⟩
        exact impossible.elim

theorem wp_dispatchDue (limit : Nat) (resting : known.Resting) :
  (service.dispatchDue limit).wp service.contract (fun later _ => later.Resting)
    (fun later _ => later = {}) known := by
  unfold dispatchDue
  rw [wp_do]
  refine (wp_perform _ _).mpr ⟨resting, ?_, ?_⟩
  · rintro now later ⟨_, rfl⟩
    rw [wp_do]
    refine (wp_perform _ _).mpr ⟨⟨rfl, rfl⟩, ?_, ?_⟩
    · rintro due next ⟨timed, rfl⟩
      exact wp_dispatchEach due 0 timed (.inl rfl) rfl
    rintro error next ⟨impossible, _⟩
    exact impossible.elim
  rintro error later ⟨impossible, _⟩
  exact impossible.elim

theorem wp_maintain (limits : List Nat) :
  (service.maintain limits).wp service.contract (fun later _ => later.Resting)
    (fun _ _ => False) {} := by
  have start : ({} : Duty).Resting := ⟨.inl rfl, rfl⟩
  refine wp_each start ?_
  intro limit _ known resting
  rw [wp_catching, wp_bind]
  refine wp_mono (wp_dispatchDue limit resting) (fun _ _ => id) ?_
  rintro later error rfl
  exact start

end

end DispatchService

end AgentHarness.Triggers
