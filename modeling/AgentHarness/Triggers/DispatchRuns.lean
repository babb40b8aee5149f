import AgentHarness.Triggers.DispatchConduct
import Mathlib.Algebra.Order.Ring.Int

/-!
What any number of dispatchers leave of the slots of a trigger.

No slot gets a second Run.  No slot is passed over, and no trigger of a pass is left out, as long
as an invocation that fails is the last of its pass, and the fire time has not moved on meanwhile.
-/

namespace AgentHarness.Triggers

open Collections Interaction Dict Function List StoredAgentTrigger Pool
open DispatchRecords

def StoredAgentTrigger.fireAt (first : StoredAgentTrigger) (turn : Nat) : Option Int :=
  first.nextFireAt.map fun firstAt =>
    firstAt + turn * (first.schedule.map TriggerSchedule.interval).getD 0

def Alike (first trigger : StoredAgentTrigger) : Prop :=
  trigger.schedule = first.schedule ∧ trigger.tenantId = first.tenantId

section

variable {first trigger : StoredAgentTrigger} {turn other : Nat} {slot : Int}
  {schedule : TriggerSchedule}

theorem fireAt_succ (planned : first.schedule = some schedule)
  (fires : first.fireAt turn = some slot) :
  first.fireAt (turn + 1) = some (slot + schedule.interval) := by
  unfold StoredAgentTrigger.fireAt at fires ⊢
  rw [planned] at fires ⊢
  cases started : first.nextFireAt with
  | none =>
    rw [started] at fires
    cases fires
  | some firstAt =>
    rw [started] at fires
    simp only [Option.map_some, Option.getD_some, Option.some.injEq] at fires ⊢
    push_cast
    rw [← fires, add_mul, one_mul, add_assoc]

theorem fireAt_lt (timed : Timed first) {later : Int} (fires : first.fireAt turn = some slot)
  (also : first.fireAt other = some later) (before : slot < later) : turn < other := by
  unfold StoredAgentTrigger.fireAt at fires also
  cases started : first.nextFireAt with
  | none =>
    rw [started] at fires
    cases fires
  | some firstAt =>
    rw [started, Option.map_some, Option.some.injEq] at fires also
    by_contra reached
    cases planned : first.schedule with
    | none =>
      rw [planned] at fires also
      simp at fires also
      omega
    | some schedule =>
      have positive := timed schedule planned
      rw [planned] at fires also
      simp only [Option.map_some, Option.getD_some] at fires also
      have more : (other : Int) ≤ turn := by omega
      have scaled := mul_le_mul_of_nonneg_right more positive.le
      omega

theorem fireAt_inj (timed : Timed first) (planned : first.schedule = some schedule)
  (fires : first.fireAt turn = some slot) (also : first.fireAt other = some slot) :
  turn = other := by
  have positive := timed schedule planned
  unfold StoredAgentTrigger.fireAt at fires also
  rw [planned] at fires also
  cases started : first.nextFireAt with
  | none =>
    rw [started] at fires
    cases fires
  | some firstAt =>
    rw [started] at fires also
    simp only [Option.map_some, Option.getD_some, Option.some.injEq] at fires also
    have products : (turn : Int) * schedule.interval = other * schedule.interval := by omega
    have same := mul_right_cancel₀ positive.ne' products
    exact_mod_cast same

end

namespace DispatchService

variable (service : DispatchService)

def Dispatched (records : DispatchRecords) (triggerId : String) (slot : Int) : Prop :=
  ∃ run ∈ records.runs, run.triggerId = triggerId ∧ run.idempotencyKey = service.idempotencyKey slot

def Handled (records : DispatchRecords) (triggerId : String) (slot : Int) : Prop :=
  service.Dispatched records triggerId slot ∨ ∃ actor, records.claims actor = some (triggerId, slot)

def Current (start records : DispatchRecords) (triggerId : String)
  (trigger : StoredAgentTrigger) : Prop :=
  ∃ first turn, start.triggers.get? triggerId = some first ∧ Alike first trigger ∧
    trigger.triggerId = triggerId ∧ trigger.nextFireAt = first.fireAt turn ∧
    ∀ earlier < turn, ∀ slot, first.fireAt earlier = some slot →
      service.Handled records triggerId slot

def Owned (start records : DispatchRecords) (trigger : StoredAgentTrigger) (slot : Int) : Prop :=
  ∃ first stored turn later, start.triggers.get? trigger.triggerId = some first ∧
    Alike first trigger ∧ trigger.schedule.isSome ∧ first.fireAt turn = some slot ∧
    records.triggers.get? trigger.triggerId = some stored ∧
    stored.nextFireAt = first.fireAt later ∧ turn < later

def Listed (start records : DispatchRecords) (trigger : StoredAgentTrigger) : Prop :=
  ∃ first, start.triggers.get? trigger.triggerId = some first ∧ Alike first trigger ∧
    (records.triggers.get? trigger.triggerId).isSome

structure Serves (start records : DispatchRecords) (actor : Nat) (duty : Duty) : Prop where
  claims : records.claims actor = duty.claim.map fun claim => (claim.1.triggerId, claim.2)
  owned : ∀ trigger slot, duty.claim = some (trigger, slot) → Owned start records trigger slot
  waiting : ∀ trigger ∈ duty.rest, Listed start records trigger
  placed : ∀ trigger slot, duty.claim = some (trigger, slot) → duty.placed = true →
    service.Dispatched records trigger.triggerId slot
  absent : ∀ trigger slot, duty.claim = some (trigger, slot) → duty.absent = true →
    ¬ service.Dispatched records trigger.triggerId slot
  tried : ∀ item ∈ (records.passes actor).listed, item ∈ (records.passes actor).tried ∨
    item ∈ duty.rest.filterMap slot?

structure Kept (start records : DispatchRecords) (known : Nat → Duty) : Prop where
  timed : ∀ triggerId first, start.triggers.get? triggerId = some first → Timed first
  current : ∀ triggerId trigger, records.triggers.get? triggerId = some trigger →
    service.Current start records triggerId trigger
  apart : ∀ actor other claim, records.claims actor = some claim →
    records.claims other = some claim → actor = other
  single : (records.runs.map fun run => (run.triggerId, run.idempotencyKey)).Nodup
  homes : ∀ run ∈ records.runs, run.sessionId = service.sessionId run.triggerId run.idempotencyKey ∧
      ∀ first, start.triggers.get? run.triggerId = some first → run.tenantId = first.tenantId
  serves : ∀ actor, service.Serves start records actor (known actor)

structure Fresh (start : DispatchRecords) : Prop where
  filed : ∀ triggerId first, start.triggers.get? triggerId = some first →
    first.triggerId = triggerId
  timed : ∀ triggerId first, start.triggers.get? triggerId = some first → Timed first
  runs : start.runs = []
  claims : ∀ actor, start.claims actor = none
  passes : ∀ actor, (start.passes actor).listed = []

variable {service} {start records later : DispatchRecords} {known : Nat → Duty} {actor : Nat}
  {duty : Duty} {trigger : StoredAgentTrigger} {triggerId : String} {slot : Int}

theorem serves_fresh (claims : records.claims actor = none)
  (passes : (records.passes actor).listed = []) : service.Serves start records actor {} where
  claims
  owned _ _ claimed := nomatch claimed
  waiting _ member := nomatch member
  placed _ _ claimed := nomatch claimed
  absent _ _ claimed := nomatch claimed
  tried item listed := by
    rw [passes] at listed
    cases listed

theorem kept_start (fresh : Fresh start) : service.Kept start start fun _ => {} where
  timed := fresh.timed
  current triggerId first found := by
    refine ⟨first, 0, found, ⟨rfl, rfl⟩, fresh.filed triggerId first found, ?_, ?_⟩
    · unfold StoredAgentTrigger.fireAt
      simp
    intro earlier before
    omega
  apart actor _ _ claimed := by
    rw [fresh.claims actor] at claimed
    cases claimed
  single := by
    rw [fresh.runs]
    exact nodup_nil
  homes run member := by
    rw [fresh.runs] at member
    cases member
  serves actor := serves_fresh (fresh.claims actor) (fresh.passes actor)

def Restorable (records : DispatchRecords) (actor : Nat) (op : DispatchOp) (_ : DispatchInput) :
  Prop :=
  match op with
  | .advanceSchedule triggerId expectedNextFireAt nextFireAt =>
    nextFireAt < expectedNextFireAt →
      (records.triggers.get? triggerId).bind StoredAgentTrigger.nextFireAt =
          some expectedNextFireAt ∧
        ∀ item ∈ (records.passes actor).listed, item ∈ (records.passes actor).tried
  | _ => True

instance (records : DispatchRecords) (actor : Nat) (op : DispatchOp) (input : DispatchInput) :
  Decidable (Restorable records actor op input) := by
  unfold Restorable
  split <;> infer_instance

def Keeps (records later : DispatchRecords) : Prop :=
  ∀ triggerId before, records.triggers.get? triggerId = some before →
    ∃ trigger, later.triggers.get? triggerId = some trigger ∧ trigger.nextFireAt = before.nextFireAt

theorem Owned.stays (owned : Owned start records trigger slot)
  (keeps : Keeps records later) : Owned start later trigger slot := by
  obtain ⟨first, stored, turn, next, started, alike, planned, fired, found, fires, before⟩ := owned
  obtain ⟨now, present, same⟩ := keeps _ stored found
  exact ⟨first, now, turn, next, started, alike, planned, fired, present, same.trans fires, before⟩

theorem Listed.remains (listed : Listed start records trigger)
  (present : ∀ triggerId, (records.triggers.get? triggerId).isSome →
    (later.triggers.get? triggerId).isSome) : Listed start later trigger := by
  obtain ⟨first, started, alike, here⟩ := listed
  exact ⟨first, started, alike, present _ here⟩

theorem Listed.stays (listed : Listed start records trigger)
  (keeps : Keeps records later) : Listed start later trigger := by
  refine listed.remains fun triggerId present => ?_
  obtain ⟨stored, found⟩ := Option.isSome_iff_exists.mp present
  obtain ⟨now, still, _⟩ := keeps triggerId stored found
  rw [still]
  rfl

theorem dispatched_congr (runs : later.runs = records.runs) :
  service.Dispatched later triggerId slot ↔ service.Dispatched records triggerId slot := by
  unfold Dispatched
  rw [runs]

theorem Serves.stays (serves : service.Serves start records actor duty)
  (claims : later.claims actor = records.claims actor)
  (passes : later.passes actor = records.passes actor)
  (owned : ∀ trigger slot, duty.claim = some (trigger, slot) → Owned start later trigger slot)
  (listed : ∀ trigger, Listed start records trigger → Listed start later trigger)
  (grows : ∀ triggerId slot, service.Dispatched records triggerId slot →
    service.Dispatched later triggerId slot)
  (absent : ∀ trigger slot, duty.claim = some (trigger, slot) → duty.absent = true →
    ¬ service.Dispatched later trigger.triggerId slot) :
  service.Serves start later actor duty where
  claims := claims.trans serves.claims
  owned
  waiting trigger member := listed trigger (serves.waiting trigger member)
  placed trigger slot claim known := grows _ _ (serves.placed trigger slot claim known)
  absent
  tried := by
    rw [passes]
    exact serves.tried

section

variable (kept : service.Kept start records known)

include kept

theorem Kept.handled (free : (known actor).Free)
  (handled : service.Handled records triggerId slot) (runs : later.runs = records.runs)
  (claims : ∀ other, other ≠ actor → later.claims other = records.claims other) :
  service.Handled later triggerId slot := by
  rcases handled with dispatched | ⟨other, claimed⟩
  · exact .inl ((dispatched_congr runs).mpr dispatched)
  by_cases same : other = actor
  · subst same
    have own := (kept.serves other).claims
    rw [claimed] at own
    cases held : (known other).claim with
    | none =>
      rw [held] at own
      cases own
    | some claim =>
      obtain ⟨trigger, taken⟩ := claim
      rw [held] at own
      cases own
      rcases free with unclaimed | placed
      · rw [held] at unclaimed
        cases unclaimed
      exact .inl ((dispatched_congr runs).mpr
        ((kept.serves other).placed trigger taken held placed))
  exact .inr ⟨other, (claims other same).trans claimed⟩

theorem Kept.forgets (free : (known actor).Free)
  (triggers : later.triggers = records.triggers) (runs : later.runs = records.runs)
  (claims : later.claims = update records.claims actor none)
  (others : ∀ other, other ≠ actor → later.passes other = records.passes other)
  (unclaimed : duty.claim = none) (waiting : ∀ trigger ∈ duty.rest, Listed start records trigger)
  (tried : ∀ item ∈ (later.passes actor).listed, item ∈ (later.passes actor).tried ∨
    item ∈ duty.rest.filterMap slot?) :
  service.Kept start later (update known actor duty) := by
  have elsewhere : ∀ other, other ≠ actor → later.claims other = records.claims other := by
    intro other distinct
    rw [claims, update_of_ne distinct]
  have here : later.claims actor = none := by rw [claims, update_self]
  have claimed : ∀ other claim, later.claims other = some claim →
    records.claims other = some claim := by
    intro other claim holds
    by_cases same : other = actor
    · rw [same, here] at holds
      cases holds
    exact (elsewhere other same).symm.trans holds
  have keeps : Keeps records later := by
    intro triggerId before found
    exact ⟨before, by rw [triggers]; exact found, rfl⟩
  constructor
  · exact kept.timed
  · intro triggerId trigger found
    rw [triggers] at found
    obtain ⟨first, turn, started, alike, named, fires, handled⟩ :=
      kept.current triggerId trigger found
    exact ⟨first, turn, started, alike, named, fires, fun earlier before slot fired =>
      kept.handled free (handled earlier before slot fired) runs elsewhere⟩
  · intro first second claim one two
    exact kept.apart first second claim (claimed first claim one) (claimed second claim two)
  · rw [runs]
    exact kept.single
  · rw [runs]
    exact kept.homes
  intro other
  rcases update_cases known actor duty other with ⟨rfl, now⟩ | ⟨distinct, now⟩
  · rw [now]
    constructor
    · rw [here, unclaimed]
      rfl
    · intro trigger slot holds
      rw [unclaimed] at holds
      cases holds
    · exact fun trigger member => (waiting trigger member).stays keeps
    · intro trigger slot holds
      rw [unclaimed] at holds
      cases holds
    · intro trigger slot holds
      rw [unclaimed] at holds
      cases holds
    exact tried
  rw [now]
  have serves := kept.serves other
  exact serves.stays (elsewhere other distinct) (others other distinct)
    (fun trigger slot holds => (serves.owned trigger slot holds).stays keeps)
    (fun _ listed => listed.stays keeps) (fun _ _ => (dispatched_congr runs).mpr)
    (fun trigger slot holds absent none =>
      serves.absent trigger slot holds absent ((dispatched_congr runs).mp none))

theorem Kept.learns (rest : duty.rest = (known actor).rest)
  (claim : duty.claim = (known actor).claim) (keeps : Keeps records later)
  (alike : ∀ triggerId trigger, later.triggers.get? triggerId = some trigger →
    ∃ before, records.triggers.get? triggerId = some before ∧ Alike before trigger ∧
    trigger.triggerId = before.triggerId ∧ trigger.nextFireAt = before.nextFireAt)
  (claims : later.claims = records.claims) (passes : later.passes = records.passes)
  (grows : ∀ triggerId slot, service.Dispatched records triggerId slot →
    service.Dispatched later triggerId slot)
  (placed : ∀ trigger slot, duty.claim = some (trigger, slot) → duty.placed = true →
    service.Dispatched later trigger.triggerId slot)
  (absent : ∀ trigger slot, duty.claim = some (trigger, slot) → duty.absent = true →
    ¬ service.Dispatched later trigger.triggerId slot)
  (elsewhere : ∀ other, other ≠ actor → ∀ trigger slot,
    (known other).claim = some (trigger, slot) →
    ¬ service.Dispatched records trigger.triggerId slot →
    ¬ service.Dispatched later trigger.triggerId slot)
  (single : (later.runs.map fun run => (run.triggerId, run.idempotencyKey)).Nodup)
  (homes : ∀ run ∈ later.runs,
    run.sessionId = service.sessionId run.triggerId run.idempotencyKey ∧
    ∀ first, start.triggers.get? run.triggerId = some first → run.tenantId = first.tenantId) :
  service.Kept start later (update known actor duty) := by
  refine ⟨kept.timed, ?_, ?_, single, homes, ?_⟩
  · intro triggerId trigger found
    obtain ⟨before, was, same, named, fires⟩ := alike triggerId trigger found
    obtain ⟨first, turn, started, like, called, fired, handled⟩ := kept.current triggerId before was
    refine ⟨first, turn, started, ⟨same.1.trans like.1, same.2.trans like.2⟩,
      named.trans called, fires.trans fired, ?_⟩
    intro earlier below slot taken
    refine (handled earlier below slot taken).imp (grows triggerId slot) ?_
    rw [claims]
    exact id
  · rw [claims]
    exact kept.apart
  intro other
  rcases update_cases known actor duty other with ⟨rfl, now⟩ | ⟨distinct, now⟩
  · rw [now]
    have serves := kept.serves other
    constructor
    · rw [claims, claim]
      exact serves.claims
    · rw [claim]
      exact fun trigger slot holds => (serves.owned trigger slot holds).stays keeps
    · rw [rest]
      exact fun trigger member => (serves.waiting trigger member).stays keeps
    · exact placed
    · exact absent
    rw [passes, rest]
    exact serves.tried
  rw [now]
  have serves := kept.serves other
  exact serves.stays (congrFun claims other) (congrFun passes other)
    (fun trigger slot holds => (serves.owned trigger slot holds).stays keeps)
    (fun _ listed => listed.stays keeps) grows
    (fun trigger slot holds known =>
      elsewhere other distinct trigger slot holds (serves.absent trigger slot holds known))

end

variable {stored : StoredAgentTrigger} {expected : Int}

theorem Kept.moves (kept : service.Kept start records known) {first : StoredAgentTrigger}
  {target : Nat} {fireAt : Int} (found : records.triggers.get? triggerId = some stored)
  (started : start.triggers.get? triggerId = some first)
  (next : first.fireAt target = some fireAt)
  (triggers : later.triggers = records.triggers.set triggerId
    { stored with nextFireAt := some fireAt }) (runs : later.runs = records.runs)
  (claims : ∀ other, other ≠ actor → later.claims other = records.claims other)
  (passes : ∀ other, other ≠ actor → later.passes other = records.passes other)
  (apart : ∀ one other claim, later.claims one = some claim →
    later.claims other = some claim → one = other)
  (handled : ∀ earlier < target, ∀ slot, first.fireAt earlier = some slot →
    service.Handled later triggerId slot)
  (elsewhere : ∀ otherId slot, otherId ≠ triggerId → service.Handled records otherId slot →
    service.Handled later otherId slot)
  (below : ∀ other trigger slot turn, other ≠ actor → (known other).claim = some (trigger, slot) →
    trigger.triggerId = triggerId → first.fireAt turn = some slot → turn < target)
  (own : service.Serves start later actor duty) :
  service.Kept start later (update known actor duty) := by
  have present : ∀ otherId, (records.triggers.get? otherId).isSome →
    (later.triggers.get? otherId).isSome := by
    intro otherId there
    rw [triggers, get?_set]
    split
    · rfl
    exact there
  refine ⟨kept.timed, ?_, apart, ?_, ?_, ?_⟩
  · intro otherId trigger now
    rw [triggers, get?_set] at now
    split at now
    case isTrue same =>
      cases now
      subst same
      obtain ⟨known, _, begun, alike, named, _⟩ := kept.current otherId stored found
      cases started.symm.trans begun
      exact ⟨first, target, started, alike, named, next.symm, handled⟩
    case isFalse other =>
      obtain ⟨known, turn, begun, alike, named, fires, before⟩ := kept.current otherId trigger now
      exact ⟨known, turn, begun, alike, named, fires, fun earlier less slot fired =>
        elsewhere otherId slot other (before earlier less slot fired)⟩
  · rw [runs]
    exact kept.single
  · rw [runs]
    exact kept.homes
  intro other
  rcases update_cases known actor duty other with ⟨rfl, now⟩ | ⟨distinct, now⟩
  · rw [now]
    exact own
  rw [now]
  have serves := kept.serves other
  refine serves.stays (claims other distinct) (passes other distinct) ?_
    (fun _ listed => listed.remains present) (fun _ _ => (dispatched_congr runs).mpr)
    (fun trigger slot holds absent none =>
      serves.absent trigger slot holds absent ((dispatched_congr runs).mp none))
  intro trigger slot holds
  obtain ⟨known, stands, at_, ahead, begun, alike, planned, fired, there, fires, less⟩ :=
    serves.owned trigger slot holds
  by_cases same : trigger.triggerId = triggerId
  · rw [same, started] at begun
    cases begun
    refine ⟨first, { stored with nextFireAt := some fireAt }, at_, target, ?_, alike, planned,
      fired, ?_, next.symm, below other trigger slot at_ distinct holds same fired⟩
    · rw [same]
      exact started
    rw [same, triggers, get?_set_self]
  refine ⟨known, stands, at_, ahead, begun, alike, planned, fired, ?_, fires, less⟩
  rw [triggers, get?_set_other _ _ same]
  exact there

variable {triggers : Dict String StoredAgentTrigger} {next : Int}

theorem advanceSchedule_moves
  (found : triggers.get? triggerId = some stored) (due : stored.nextFireAt = some expected) :
  DispatchRecords.advanceSchedule triggers triggerId expected next =
    (true, triggers.set triggerId { stored with nextFireAt := some next }) := by
  simp [DispatchRecords.advanceSchedule, found, if_pos due]

theorem advanceSchedule_stays
  (moved : ∀ stored, triggers.get? triggerId = some stored → stored.nextFireAt ≠ some expected) :
  DispatchRecords.advanceSchedule triggers triggerId expected next = (false, triggers) := by
  unfold DispatchRecords.advanceSchedule
  cases found : triggers.get? triggerId with
  | none => rfl
  | some stored => exact if_neg (moved stored found)

theorem tried_snoc {listed tried : List (String × Int)} {rest : List StoredAgentTrigger}
  {item : String × Int} (slotted : trigger.slot? = some item)
  (before : ∀ other ∈ listed, other ∈ tried ∨ other ∈ (trigger :: rest).filterMap slot?) :
  ∀ other ∈ listed, other ∈ tried ++ [item] ∨ other ∈ rest.filterMap slot? := by
  intro other member
  rcases before other member with done | waits
  · exact .inl (mem_append_left _ done)
  rw [filterMap_cons, slotted] at waits
  rcases mem_cons.mp waits with rfl | later
  · exact .inl (mem_append_right _ (mem_singleton_self _))
  exact .inr later

section

variable (kept : service.Kept start records known)

include kept

variable {schedule : TriggerSchedule}

theorem kept_claim {rest : List StoredAgentTrigger}
  (free : (known actor).Free) (waiting : (known actor).rest = trigger :: rest)
  (planned : trigger.schedule = some schedule) (due : trigger.nextFireAt = some expected) :
  service.Kept start
    (records.advance actor trigger.triggerId expected (expected + schedule.interval)).2
    (update known actor
      { rest
        claim := if (records.advance actor trigger.triggerId expected
          (expected + schedule.interval)).1 then some (trigger, expected) else none }) := by
  have serves := kept.serves actor
  have slotted : trigger.slot? = some (trigger.triggerId, expected) := by
    simp [slot?, planned, due]
  obtain ⟨first, started, alike, present⟩ := serves.waiting trigger (by
    rw [waiting]
    exact mem_cons_self)
  have scheduled : first.schedule = some schedule := alike.1.symm.trans planned
  have timed := kept.timed _ first started
  have positive := timed schedule scheduled
  have forwards : expected < expected + schedule.interval := by omega
  have tail : ∀ other ∈ rest, Listed start records other := fun other member =>
    serves.waiting other (by rw [waiting]; exact mem_cons_of_mem _ member)
  have before := serves.tried
  rw [waiting] at before
  obtain ⟨stored, found⟩ := Option.isSome_iff_exists.mp present
  by_cases here : stored.nextFireAt = some expected
  · have moves : DispatchRecords.advanceSchedule records.triggers trigger.triggerId expected
        (expected + schedule.interval) = (true, records.triggers.set trigger.triggerId
          { stored with nextFireAt := some (expected + schedule.interval) }) :=
      advanceSchedule_moves found here
    unfold advance
    rw [if_pos forwards, moves]
    obtain ⟨_, turn, begun, _, _, fires, handled⟩ := kept.current _ stored found
    cases started.symm.trans begun
    have fired : first.fireAt turn = some expected := fires.symm.trans here
    -- a slot that is claimed is before the fire time
    have below : ∀ other claimed slot at_, (known other).claim = some (claimed, slot) →
      claimed.triggerId = trigger.triggerId → first.fireAt at_ = some slot → at_ < turn := by
      intro other claimed slot at_ holds same fired'
      obtain ⟨_, stands, one, two, origin, _, _, first', there, fires', less⟩ :=
        (kept.serves other).owned claimed slot holds
      rw [same] at origin there
      cases started.symm.trans origin
      cases found.symm.trans there
      have here' : one = at_ := fireAt_inj timed scheduled first' fired'
      have there' : two = turn := fireAt_inj timed scheduled (fires'.symm.trans here) fired
      omega
    have unclaimed : ∀ other, records.claims other ≠ some (trigger.triggerId, expected) := by
      intro other taken
      rw [(kept.serves other).claims] at taken
      obtain ⟨⟨claimed, slot⟩, holds, same⟩ := Option.map_eq_some_iff.mp taken
      obtain ⟨named, taken⟩ := Prod.mk.inj same
      have less := below other claimed slot turn holds named
        (fired.trans (congrArg some taken.symm))
      omega
    have elsewhere : ∀ other, other ≠ actor → update records.claims actor
      (if (true : Bool) = true then some (trigger.triggerId, expected) else none) other =
        records.claims other := fun other distinct => update_of_ne distinct _ _
    have here' : update records.claims actor
      (if (true : Bool) = true then some (trigger.triggerId, expected) else none) actor =
        some (trigger.triggerId, expected) := update_self _ _ _
    have next := fireAt_succ scheduled fired
    refine kept.moves found started next rfl rfl elsewhere ?_ ?_ ?_ ?_ ?_ ?_
    · exact fun other distinct => update_of_ne distinct _ _
    · intro one other claim first second
      by_cases mine : one = actor
      · by_cases yours : other = actor
        · rw [mine, yours]
        rw [mine] at first
        cases here'.symm.trans first
        exact absurd ((elsewhere other yours).symm.trans second) (unclaimed other)
      have taken := (elsewhere one mine).symm.trans first
      by_cases yours : other = actor
      · rw [yours] at second
        cases here'.symm.trans second
        exact absurd taken (unclaimed one)
      exact kept.apart one other claim taken ((elsewhere other yours).symm.trans second)
    · intro earlier less slot at_
      by_cases last : earlier = turn
      · rw [last, fired] at at_
        cases at_
        exact .inr ⟨actor, here'⟩
      exact kept.handled free (handled earlier (by omega) slot at_) rfl elsewhere
    · exact fun otherId slot _ handled => kept.handled free handled rfl elsewhere
    · intro other claimed slot at_ _ holds same fired'
      exact Nat.lt_succ_of_lt (below other claimed slot at_ holds same fired')
    constructor
    · exact here'
    · intro owner slot holds
      cases holds
      refine ⟨first, _, turn, turn + 1, started, alike, ?_, fired, get?_set_self _ _ _,
        next.symm, Nat.lt_succ_self turn⟩
      rw [planned]
      rfl
    · intro other member
      refine (tail other member).remains fun otherId there => ?_
      rw [get?_set]
      split
      · rfl
      exact there
    · exact fun _ _ _ placed => by cases placed
    · exact fun _ _ _ absent => by cases absent
    dsimp only
    rw [update_self]
    exact tried_snoc slotted before
  have stays : DispatchRecords.advanceSchedule records.triggers trigger.triggerId expected
    (expected + schedule.interval) = (false, records.triggers) := by
    refine advanceSchedule_stays fun now there => ?_
    cases found.symm.trans there
    exact here
  unfold advance
  rw [if_pos forwards, stays]
  refine kept.forgets free rfl rfl rfl ?_ rfl tail ?_
  · exact fun other distinct => update_of_ne distinct _ _
  dsimp only
  rw [update_self]
  exact tried_snoc slotted before

theorem kept_return {input : DispatchInput} (claimed : (known actor).claim = some (trigger, slot))
  (planned : trigger.schedule = some schedule) (restorable : Restorable records actor
    (.advanceSchedule trigger.triggerId (slot + schedule.interval) slot) input) :
  service.Kept start (records.advance actor trigger.triggerId (slot + schedule.interval) slot).2
    (update known actor {}) := by
  obtain ⟨first, stored, at_, ahead, started, alike, _, fired, found, fires, less⟩ :=
    (kept.serves actor).owned trigger slot claimed
  have scheduled : first.schedule = some schedule := alike.1.symm.trans planned
  have timed := kept.timed _ first started
  have positive := timed schedule scheduled
  obtain ⟨due, tried⟩ := restorable (by omega)
  rw [found] at due
  have next := fireAt_succ scheduled fired
  have same : ahead = at_ + 1 := fireAt_inj timed scheduled (fires.symm.trans due) next
  subst same
  have moves : DispatchRecords.advanceSchedule records.triggers trigger.triggerId
      (slot + schedule.interval) slot = (true, records.triggers.set trigger.triggerId
        { stored with nextFireAt := some slot }) := advanceSchedule_moves found due
  have mine : records.claims actor = some (trigger.triggerId, slot) := by
    rw [(kept.serves actor).claims, claimed]
    rfl
  have elsewhere : ∀ other, other ≠ actor → update records.claims actor none other =
    records.claims other := fun other distinct => update_of_ne distinct _ _
  -- whatever else is claimed stays claimed
  have stays : ∀ otherId other, (otherId, other) ≠ (trigger.triggerId, slot) →
    service.Handled records otherId other → service.Dispatched records otherId other ∨ ∃ owner,
      update records.claims actor none owner = some (otherId, other) := by
    intro otherId other distinct handled
    refine handled.imp_right ?_
    rintro ⟨owner, taken⟩
    refine ⟨owner, (elsewhere owner ?_).trans taken⟩
    rintro rfl
    rw [mine] at taken
    exact distinct (Option.some.inj taken).symm
  have backwards : ¬ slot + schedule.interval < slot := by omega
  obtain ⟨_, turn, begun, _, _, stands, handled⟩ := kept.current _ stored found
  cases started.symm.trans begun
  have turned : turn = at_ + 1 := fireAt_inj timed scheduled (stands.symm.trans due) next
  unfold advance
  rw [if_neg backwards, moves]
  refine kept.moves found started fired rfl rfl elsewhere (fun _ _ => rfl) ?_ ?_ ?_ ?_ ?_
  · intro one other claim first second
    have taken : ∀ owner, update records.claims actor none owner = some claim →
      records.claims owner = some claim := by
      intro owner holds
      by_cases gone : owner = actor
      · rw [gone, update_self] at holds
        cases holds
      exact (elsewhere owner gone).symm.trans holds
    exact kept.apart one other claim (taken one first) (taken other second)
  · intro earlier before other fired'
    refine stays _ other ?_ (handled earlier (by omega) other fired')
    intro equal
    rw [(Prod.mk.inj equal).2] at fired'
    have again := fireAt_inj timed scheduled fired' fired
    omega
  · exact fun otherId other distinct handled =>
      stays otherId other (fun equal => distinct (Prod.mk.inj equal).1) handled
  · intro other owner taken turn distinct holds same fired'
    obtain ⟨_, now, one, two, origin, _, _, first', there, fires', less'⟩ :=
      (kept.serves other).owned owner taken holds
    rw [same] at origin there
    cases started.symm.trans origin
    cases found.symm.trans there
    have here : one = turn := fireAt_inj timed scheduled first' fired'
    have up : two = at_ + 1 := fireAt_inj timed scheduled (fires'.symm.trans due) next
    have apart : turn ≠ at_ := by
      rintro rfl
      cases fired.symm.trans fired'
      apply distinct
      refine kept.apart other actor (trigger.triggerId, slot) ?_ mine
      rw [(kept.serves other).claims, holds, ← same]
      rfl
    omega
  constructor
  · exact update_self _ _ _
  · exact fun _ _ holds => by cases holds
  · exact fun _ member => by cases member
  · exact fun _ _ holds => by cases holds
  · exact fun _ _ holds => by cases holds
  exact fun item member => .inl (tried item member)

theorem Kept.same (knows : known actor = duty)
  (triggers : later.triggers = records.triggers) (runs : later.runs = records.runs)
  (claims : later.claims = records.claims) (passes : later.passes = records.passes) :
  service.Kept start later (update known actor duty) := by
  rw [← knows, update_eq_self]
  cases later
  cases triggers
  cases runs
  cases claims
  cases passes
  exact ⟨kept.timed, kept.current, kept.apart, kept.single, kept.homes, fun actor =>
    have serves := kept.serves actor
    ⟨serves.claims, serves.owned, serves.waiting, serves.placed, serves.absent, serves.tried⟩⟩

end

theorem keeps_refl (records : DispatchRecords) : Keeps records records :=
  fun _ before found => ⟨before, found, rfl⟩

section

variable (kept : service.Kept start records known)

include kept

theorem Kept.sees (rest : duty.rest = (known actor).rest) (claim : duty.claim = (known actor).claim)
  (placed : ∀ trigger slot, duty.claim = some (trigger, slot) → duty.placed = true →
    service.Dispatched records trigger.triggerId slot)
  (absent : ∀ trigger slot, duty.claim = some (trigger, slot) → duty.absent = true →
    ¬ service.Dispatched records trigger.triggerId slot) :
  service.Kept start records (update known actor duty) :=
  kept.learns rest claim (keeps_refl records)
    (fun _ trigger found => ⟨trigger, found, ⟨rfl, rfl⟩, rfl, rfl⟩) rfl rfl (fun _ _ => id) placed
    absent (fun _ _ _ _ _ => id) kept.single kept.homes

theorem kept_found (claimed : (known actor).claim = some (trigger, slot)) (input : DispatchInput) :
  service.Kept start records (update known actor (after (known actor) (.findRun trigger.tenantId
    (service.sessionId trigger.triggerId (service.idempotencyKey slot))
    (service.idempotencyKey slot))
    (records.perform actor input (.findRun trigger.tenantId
    (service.sessionId trigger.triggerId (service.idempotencyKey slot))
    (service.idempotencyKey slot))).1)) := by
  have serves := kept.serves actor
  dsimp only [DispatchRecords.perform]
  cases found : records.runs.find? fun run => decide (run.tenantId = trigger.tenantId ∧
    run.sessionId = service.sessionId trigger.triggerId (service.idempotencyKey slot) ∧
    run.idempotencyKey = service.idempotencyKey slot) with
  | some run =>
    simp only [after, claimed]
    refine kept.sees rfl claimed.symm ?_ fun owner taken holds absent =>
      serves.absent owner taken (claimed.trans holds) absent
    intro owner taken holds placed
    cases holds
    rcases Bool.or_eq_true_iff.mp placed with before | same
    · exact serves.placed trigger slot claimed before
    have matched := find?_some found
    obtain ⟨_, _, keyed⟩ := of_decide_eq_true matched
    exact ⟨run, mem_of_find?_eq_some found, of_decide_eq_true same, keyed⟩
  | none =>
    simp only [after, claimed]
    refine kept.sees rfl claimed.symm (fun owner taken holds placed =>
      serves.placed owner taken (claimed.trans holds) placed) ?_
    rintro owner taken holds _ ⟨run, member, named, keyed⟩
    cases holds
    obtain ⟨first, _, _, _, started, alike, _⟩ := serves.owned trigger slot claimed
    obtain ⟨housed, tenant⟩ := kept.homes run member
    rw [named, keyed] at housed
    have same : run.tenantId = trigger.tenantId :=
      (tenant first (named ▸ started)).trans alike.2.symm
    exact find?_eq_none.mp found run member (decide_eq_true ⟨same, housed, keyed⟩)

theorem kept_addRun {prompt : String} (claimed : (known actor).claim = some (trigger, slot))
  (absent : (known actor).absent = true) (rest : duty.rest = (known actor).rest)
  (claim : duty.claim = (known actor).claim) (present : duty.absent = false) :
  service.Kept start
    { records with runs := records.runs ++ [service.slotRun trigger slot prompt] }
    (update known actor duty) := by
  have serves := kept.serves actor
  have none := serves.absent trigger slot claimed absent
  have mine : records.claims actor = some (trigger.triggerId, slot) := by
    rw [serves.claims, claimed]
    rfl
  refine kept.learns rest claim (keeps_refl records)
    (fun _ trigger found => ⟨trigger, found, ⟨rfl, rfl⟩, rfl, rfl⟩) rfl rfl ?_ ?_ ?_ ?_ ?_ ?_
  · rintro otherId other ⟨run, member, same⟩
    exact ⟨run, mem_append_left _ member, same⟩
  · intro owner taken holds _
    rw [claim] at holds
    cases claimed.symm.trans holds
    exact ⟨_, mem_append_right _ (mem_singleton_self _), rfl, rfl⟩
  · intro owner taken _ unseen
    rw [present] at unseen
    cases unseen
  · rintro other distinct owner taken holds before ⟨run, member, named, keyed⟩
    rcases mem_append.mp member with old | new
    · exact before ⟨run, old, named, keyed⟩
    rw [mem_singleton.mp new] at named keyed
    have same : slot = taken := by
      have letters := congrArg String.toList keyed
      simp only [slotRun, idempotencyKey, String.toList_append, append_cancel_left_eq] at letters
      exact service.isoformat_injective (String.toList_inj.mp letters)
    apply distinct
    refine kept.apart other actor (trigger.triggerId, slot) ?_ mine
    rw [(kept.serves other).claims, holds, same]
    exact congrArg (fun name => some (name, taken)) named.symm
  · rw [map_append, nodup_append]
    refine ⟨kept.single, nodup_singleton _, ?_⟩
    intro key member last listed same
    obtain ⟨run, old, rfl⟩ := mem_map.mp member
    rw [map_singleton, mem_singleton] at listed
    rw [listed] at same
    obtain ⟨named, keyed⟩ := Prod.mk.inj same
    exact none ⟨run, old, named, keyed⟩
  intro run member
  rcases mem_append.mp member with old | new
  · exact kept.homes run old
  rw [mem_singleton.mp new]
  refine ⟨rfl, ?_⟩
  intro first started
  obtain ⟨origin, _, _, _, begun, alike, _⟩ := serves.owned trigger slot claimed
  cases begun.symm.trans started
  exact alike.2

theorem kept_touch (found : records.triggers.get? triggerId = some stored) (now : Int) :
  service.Kept start
    { records with triggers := records.triggers.set triggerId (stored.touched now) }
    (update known actor (known actor)) := by
  have serves := kept.serves actor
  refine kept.learns rfl rfl ?_ ?_ rfl rfl (fun _ _ => id) serves.placed serves.absent
    (fun _ _ _ _ _ => id) kept.single kept.homes
  · intro otherId before there
    rw [get?_set]
    split
    case isTrue same =>
      subst same
      cases found.symm.trans there
      exact ⟨_, rfl, rfl⟩
    · exact ⟨before, there, rfl⟩
  intro otherId trigger there
  rw [get?_set] at there
  split at there
  case isTrue same =>
    subst same
    cases there
    exact ⟨stored, found, ⟨rfl, rfl⟩, rfl, rfl⟩
  · exact ⟨trigger, there, ⟨rfl, rfl⟩, rfl, rfl⟩

end

theorem kept_respond {op : DispatchOp} (invokes : op.invokes = true) (input : DispatchInput)
  (goes : service.Kept start (records.perform actor input op).2
    (update known actor (after (known actor) op (records.perform actor input op).1)))
  (stops : service.Kept start records
    (update known actor (after (known actor) op (.error .outside))))
  (loses : service.Kept start (records.perform actor input op).2
    (update known actor (after (known actor) op (.error .outside)))) :
  service.Kept start (records.respond actor input op).2
    (update known actor (after (known actor) op (records.respond actor input op).1)) := by
  unfold DispatchRecords.respond
  rw [if_pos invokes]
  cases input.fault with
  | absent => exact goes
  | before => exact stops
  | after => exact loses

theorem listed_due (kept : service.Kept start records known) {now : Int} {limit : Nat}
  (member : trigger ∈ DispatchRecords.listDue records.triggers now limit) :
  Timed trigger ∧ Listed start records trigger := by
  have value : trigger ∈ records.triggers.values := by
    have sorted := mem_of_mem_take member
    exact mem_of_mem_filter ((mem_insertionSort _).mp sorted)
  obtain ⟨triggerId, found⟩ := mem_values.mp value
  obtain ⟨first, _, started, alike, named, _⟩ := kept.current triggerId trigger found
  refine ⟨?_, first, ?_, alike, ?_⟩
  · unfold Timed
    rw [alike.1]
    exact kept.timed triggerId first started
  · rw [named]
    exact started
  rw [named, found]
  rfl

theorem adheres (service : DispatchService) (start : DispatchRecords) :
  Pool.Adheres DispatchRecords.component (fun _ => service.contract)
    (service.Kept start) Restorable := by
  intro records known actor op input kept guarded allowed
  have serves := kept.serves actor
  cases op with
  | clock =>
    refine ⟨_, ⟨trivial, rfl⟩, kept.forgets allowed.1 rfl rfl rfl (fun _ _ => rfl) rfl
      (fun _ member => by cases member) ?_⟩
    intro item listed
    have before := serves.tried item listed
    rw [allowed.2] at before
    exact before
  | listDue now limit =>
    have claims : records.claims = update records.claims actor none := by
      rw [← update_eq_self actor records.claims, serves.claims, allowed.1]
      simp
    refine ⟨_, ⟨fun trigger member => (listed_due kept member).1, rfl⟩,
      kept.forgets (.inl allowed.1) rfl rfl claims ?_ rfl ?_ ?_⟩
    · exact fun other distinct => update_of_ne distinct _ _
    · exact fun trigger member => (listed_due kept (mem_of_mem_filter member)).2
    intro item listed
    have due : item ∈ ((update records.passes actor
        { listed := (DispatchRecords.listDue records.triggers now limit).filterMap
            StoredAgentTrigger.slot? }) actor).listed := listed
    rw [update_self] at due
    obtain ⟨trigger, member, slotted⟩ := mem_filterMap.mp due
    refine .inr (mem_filterMap.mpr ⟨trigger, mem_filter.mpr ⟨member, ?_⟩, slotted⟩)
    rw [slotted]
    rfl
  | advanceSchedule triggerId expected next =>
    rcases allowed with ⟨free, trigger, rest, schedule, waiting, rfl, planned, due, rfl⟩ |
      ⟨trigger, schedule, claimed, rfl, planned, rfl⟩
    · have forwards : expected < expected + schedule.interval := by
        obtain ⟨first, started, alike, _⟩ := serves.waiting trigger (by
          rw [waiting]
          exact mem_cons_self)
        have positive := kept.timed _ first started schedule (alike.1.symm.trans planned)
        omega
      have learned : ∀ moved : Bool, after (known actor) (.advanceSchedule trigger.triggerId
          expected (expected + schedule.interval)) (.ok moved) =
            { rest, claim := if moved then some (trigger, expected) else none } := by
        intro moved
        simp only [after, if_pos forwards, waiting]
      exact ⟨_, ⟨trivial, (learned _).symm⟩, kept_claim kept free waiting planned due⟩
    have backwards : ¬ next + schedule.interval < next := by
      obtain ⟨first, _, _, _, started, alike, _⟩ := serves.owned trigger next claimed
      have positive := kept.timed _ first started schedule (alike.1.symm.trans planned)
      omega
    have learned : ∀ moved : Bool, after (known actor) (.advanceSchedule trigger.triggerId
      (next + schedule.interval) next) (.ok moved) = {} := by
      intro moved
      simp only [after, if_neg backwards]
    exact ⟨_, ⟨trivial, (learned _).symm⟩, kept_return kept claimed planned guarded⟩
  | getSession tenantId sessionId =>
    refine ⟨_, ⟨trivial, rfl⟩, kept_respond rfl input ?_ (kept.same rfl rfl rfl rfl rfl) ?_⟩
    · dsimp only [DispatchRecords.perform]
      cases records.sessions.get? (tenantId, sessionId) with
      | none | some session => exact kept.same rfl rfl rfl rfl rfl
    dsimp only [DispatchRecords.perform]
    cases records.sessions.get? (tenantId, sessionId) with
    | none | some session => exact kept.same rfl rfl rfl rfl rfl
  | createSession tenantId sessionId session =>
    refine ⟨_, ⟨trivial, rfl⟩, kept_respond rfl input ?_ (kept.same rfl rfl rfl rfl rfl) ?_⟩
    · dsimp only [DispatchRecords.perform]
      cases records.sessions.get? (tenantId, sessionId) with
      | none | some _ => exact kept.same rfl rfl rfl rfl rfl
    dsimp only [DispatchRecords.perform]
    cases records.sessions.get? (tenantId, sessionId) with
    | none | some _ => exact kept.same rfl rfl rfl rfl rfl
  | findRun tenantId sessionId key =>
    obtain ⟨trigger, slot, claimed, rfl, rfl, rfl⟩ := allowed
    exact ⟨_, ⟨trivial, rfl⟩, kept_respond rfl input (kept_found kept claimed input)
      (kept.same rfl rfl rfl rfl rfl) (kept.same rfl rfl rfl rfl rfl)⟩
  | addRun run =>
    obtain ⟨absent, trigger, slot, prompt, claimed, rfl⟩ := allowed
    refine ⟨_, ⟨trivial, rfl⟩, kept_respond rfl input ?_ ?_ ?_⟩
    · exact kept_addRun kept claimed absent rfl rfl rfl
    · exact kept.sees rfl rfl serves.placed fun _ _ _ unseen => by cases unseen
    exact kept_addRun kept claimed absent rfl rfl rfl
  | touchInvoked triggerId =>
    refine ⟨_, ⟨trivial, rfl⟩, kept_respond rfl input ?_ (kept.same rfl rfl rfl rfl rfl) ?_⟩
    · dsimp only [DispatchRecords.perform]
      cases found : records.triggers.get? triggerId with
      | none => exact kept.same rfl rfl rfl rfl rfl
      | some stored => exact kept_touch kept found input.now
    dsimp only [DispatchRecords.perform]
    cases found : records.triggers.get? triggerId with
    | none => exact kept.same rfl rfl rfl rfl rfl
    | some stored => exact kept_touch kept found input.now
  | record tenantId userId action =>
    exact ⟨_, ⟨trivial, rfl⟩, kept_respond rfl input (kept.same rfl rfl rfl rfl rfl)
      (kept.same rfl rfl rfl rfl rfl) (kept.same rfl rfl rfl rfl rfl)⟩

def Between : DispatchProgram Unit → Prop
  | .done _ => True
  | .call .clock _ => True
  | _ => False

instance (thread : DispatchProgram Unit) : Decidable (Between thread) := by
  unfold Between
  split <;> infer_instance

theorem resting_of_between {thread : DispatchProgram Unit} (between : Between thread)
  (own : thread.wp service.contract (fun later _ => later.Resting) (fun _ _ => False) duty) :
  duty.Resting := by
  cases thread with
  | done value => exact own
  | raised error => exact own.elim
  | call op next =>
    cases op with
    | clock => exact own.1
    | _ => exact between.elim

theorem filter_le_one {runs : List TriggerRun} {triggerId key : String}
  (single : (runs.map fun run => (run.triggerId, run.idempotencyKey)).Nodup) :
  (runs.filter fun run =>
    decide (run.triggerId = triggerId ∧ run.idempotencyKey = key)).length ≤ 1 := by
  have distinct : ((runs.filter fun run =>
      decide (run.triggerId = triggerId ∧ run.idempotencyKey = key)).map fun run =>
        (run.triggerId, run.idempotencyKey)).Nodup :=
    single.sublist (List.Sublist.map _ filter_sublist)
  have alike : ∀ pair ∈ (runs.filter fun run =>
      decide (run.triggerId = triggerId ∧ run.idempotencyKey = key)).map fun run =>
        (run.triggerId, run.idempotencyKey), pair = (triggerId, key) := by
    intro pair member
    obtain ⟨run, kept, rfl⟩ := mem_map.mp member
    have matched := (mem_filter.mp kept).2
    obtain ⟨named, keyed⟩ := of_decide_eq_true matched
    rw [named, keyed]
  rw [eq_replicate_of_mem alike, nodup_replicate, length_map] at distinct
  exact distinct

/-- Every slot gets one Run at most; every slot before the fire time has its Run, or a dispatcher
is about to make it; and a round that is over has tried whatever it had listed. -/
theorem slots_dispatched (service : DispatchService) (start : DispatchRecords)
  (fresh : Fresh start) (limits : Nat → List Nat) (schedule : List (Nat × DispatchInput))
  (restorable : (service.pool start limits).Along DispatchRecords.component Restorable schedule) :
  let reached := (service.pool start limits).run DispatchRecords.component schedule
  (∀ triggerId slot, (reached.state.runs.filter fun run =>
      decide (run.triggerId = triggerId ∧
        run.idempotencyKey = service.idempotencyKey slot)).length ≤ 1) ∧
    (∀ triggerId first trigger turn slot fireAt,
      start.triggers.get? triggerId = some first → first.fireAt turn = some slot →
      reached.state.triggers.get? triggerId = some trigger →
      trigger.nextFireAt = some fireAt → slot < fireAt →
        service.Dispatched reached.state triggerId slot ∨
          ∃ actor, reached.state.claims actor = some (triggerId, slot) ∧
            ¬ Between (reached.thread actor)) ∧
    ∀ actor, Between (reached.thread actor) → ∀ item ∈ (reached.state.passes actor).listed,
      item ∈ (reached.state.passes actor).tried := by
  intro reached
  obtain ⟨known, kept, threads⟩ := Pool.run_ready (adheres service start)
    ⟨kept_start fresh, fun actor => wp_maintain (limits actor)⟩ schedule restorable
  have resting : ∀ actor, Between (reached.thread actor) → (known actor).Resting :=
    fun actor between => resting_of_between between (threads actor)
  refine ⟨?_, ?_, ?_⟩
  · intro triggerId slot
    exact filter_le_one kept.single
  · intro triggerId first trigger turn slot fireAt started fired found fires before
    obtain ⟨origin, ahead, begun, _, _, stands, handled⟩ := kept.current triggerId trigger found
    cases started.symm.trans begun
    have less := fireAt_lt (kept.timed _ first started) fired (stands.symm.trans fires) before
    rcases handled turn less slot fired with dispatched | ⟨actor, claimed⟩
    · exact .inl dispatched
    by_cases between : Between (reached.thread actor)
    · have serves := kept.serves actor
      rw [serves.claims] at claimed
      obtain ⟨⟨owner, taken⟩, holds, same⟩ := Option.map_eq_some_iff.mp claimed
      obtain ⟨rfl, rfl⟩ := Prod.mk.inj same
      rcases (resting actor between).1 with none | placed
      · rw [holds] at none
        cases none
      exact .inl (serves.placed owner taken holds placed)
    exact .inr ⟨actor, claimed, between⟩
  intro actor between item listed
  have tried := (kept.serves actor).tried item listed
  rw [(resting actor between).2] at tried
  exact tried.resolve_right fun member => nomatch member

theorem toDigits_inj {first second : Nat}
  (same : Nat.toDigits 10 first = Nat.toDigits 10 second) : first = second := by
  have back := congrArg (fun digits => Nat.ofDigitChars 10 digits 0) same
  simpa [Nat.ofDigitChars_toDigits] using back

def signed (instant : Int) : List Char :=
  (if instant < 0 then '-' else '+') :: Nat.toDigits 10 instant.natAbs

theorem signed_inj {first second : Int} (same : signed first = signed second) : first = second := by
  obtain ⟨sign, digits⟩ := List.cons.inj same
  have size := toDigits_inj digits
  split at sign <;> split at sign <;> first | omega | cases sign

def plainDispatch : DispatchService where
  environmentValue _ := "production"
  isoformat instant := String.ofList (signed instant)
  isoformat_injective _ _ same := signed_inj (String.ofList_inj.mp same)
  sessionId triggerId key := triggerId ++ (":" ++ key)

def everyMinute (triggerId : String) : StoredAgentTrigger where
  tenantId := "acme"
  triggerId
  kind := .schedule
  name := triggerId
  agentName := "writer"
  environment := .production
  revision := 1
  createdBy := "owner"
  createdAt := 0
  updatedAt := 0
  schedule := some { intervalSeconds := 60, prompt := "write" }
  nextFireAt := some 0
  secretDigest := ""

def twoTriggers : DispatchRecords where
  triggers := (Dict.empty.set "a" (everyMinute "a")).set "b" (everyMinute "b")

theorem twoTriggers_fresh : Fresh twoTriggers := by
  have listed : ∀ triggerId first, twoTriggers.triggers.get? triggerId = some first →
    first = everyMinute triggerId := by
    intro triggerId first found
    have keyed : ((Dict.empty.set "a" (everyMinute "a")).set "b" (everyMinute "b")).get? triggerId =
      some first := found
    rw [get?_set, get?_set] at keyed
    split at keyed
    case isTrue same =>
      cases keyed
      rw [same]
    · split at keyed
      case isTrue same =>
        cases keyed
        rw [same]
      · cases keyed
  refine ⟨?_, ?_, rfl, fun _ => rfl, fun _ => rfl⟩
  · intro triggerId first found
    rw [listed triggerId first found]
    rfl
  intro triggerId first found
  rw [listed triggerId first found]
  intro schedule planned
  cases planned
  decide

def calm : DispatchInput := {}

def fails (fault : Fault) : DispatchInput := { fault }

def late : DispatchInput := { now := 60000000 }

def reaches (start : DispatchRecords) (moves : List (Nat × DispatchInput)) :
  Pool DispatchOp DispatchOp.Answer DispatchError Nat DispatchRecords Unit :=
  (plainDispatch.pool start fun _ => [50]).run DispatchRecords.component moves

def lastFails : List (Nat × DispatchInput) :=
  List.replicate 13 (0, calm) ++ [(0, fails .after), (0, calm)]

theorem slots_dispatched_lastFails : Between ((reaches twoTriggers lastFails).thread 0) ∧
  ("b", 0) ∈ ((reaches twoTriggers lastFails).state.passes 0).tried := by
  have restorable : (plainDispatch.pool twoTriggers fun _ => [50]).Along DispatchRecords.component
    Restorable lastFails := by decide +kernel
  have rests : Between ((reaches twoTriggers lastFails).thread 0) := by decide +kernel
  have tried := (slots_dispatched plainDispatch twoTriggers twoTriggers_fresh (fun _ => [50])
    lastFails restorable).2.2 0 rests
  exact ⟨rests, tried ("b", 0) (by decide +kernel)⟩

def firstFails : List (Nat × DispatchInput) :=
  [(0, calm), (0, calm), (0, calm), (0, fails .before), (0, calm)]

def oneTrigger : DispatchRecords where
  triggers := Dict.empty.set "a" (everyMinute "a")

def overtaken : List (Nat × DispatchInput) :=
  [(0, late), (0, calm), (0, calm), (1, late), (1, calm), (1, calm), (0, fails .before),
    (0, calm)] ++ List.replicate 6 (1, calm)

theorem slots_lost : (Between ((reaches twoTriggers firstFails).thread 0) ∧
    ("b", 0) ∈ ((reaches twoTriggers firstFails).state.passes 0).listed ∧
    ("b", 0) ∉ ((reaches twoTriggers firstFails).state.passes 0).tried) ∧
  Between ((reaches oneTrigger overtaken).thread 0) ∧
    Between ((reaches oneTrigger overtaken).thread 1) ∧
    (everyMinute "a").fireAt 0 = some 0 ∧
    ((reaches oneTrigger overtaken).state.triggers.get? "a").bind StoredAgentTrigger.nextFireAt =
    some 120000000 ∧
    (reaches oneTrigger overtaken).state.runs.map TriggerRun.idempotencyKey =
    ["schedule:+60000000"] := by
  decide +kernel

end DispatchService

end AgentHarness.Triggers
