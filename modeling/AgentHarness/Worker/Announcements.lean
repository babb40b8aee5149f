import AgentHarness.Worker.Practice

/-!
The path of a Run's status and the event that announces its end.
-/

namespace AgentHarness

open Interaction Program Ports List ReliabilityController Upholds Option Bool

structure Standing where
  owed : Option RunStatus := none
  /-- The actor has written the terminal status and announced it as the reaper or not at
  all. -/
  sole : Bool := false
  claimed : Bool := false
  ended : Option RunStatus := none
  listed : Option (List RunEvent) := none

namespace Announcements

structure Follows (earlier later : RunStore) : Prop where
  path : later.run.status = earlier.run.status ∨
    RunStatus.Allowed earlier.run.status later.run.status
  token : later.run.status ≠ earlier.run.status →
    later.run.fencingToken = earlier.run.fencingToken + 1
  ended : earlier.run.status.isTerminal = true → later.run = earlier.run

structure AnnouncedOnce (store : RunStore) : Prop where
  single : (terminalRunEvents store.events).length ≤ 1
  named : ∀ event ∈ store.events, ∀ status, event.announced = some status →
    store.run.status = status

def announcesAsReaper : RunOp → Bool
  | .appendEvent _ event => event.announced.isSome && event.reaper
  | _ => false

def Timely (store : RunStore) (actor : Nat) (op : RunOp) (_input : RunInput) : Prop :=
  announcesAsReaper op = true → store.history.announcer = some actor

instance (store : RunStore) (actor : Nat) (op : RunOp) (input : RunInput) :
  Decidable (Timely store actor op input) :=
  inferInstanceAs (Decidable (_ → _))

def after (known : Standing) : (op : RunOp) → Except Failure op.Answer → Standing
  | .compareAndSet _ _ updated, .ok true =>
    if updated.status.isTerminal then { known with owed := some updated.status, sole := true }
    else known
  | .appendEvent _ event, _ =>
    if event.announced.isSome then
      { known with owed := none, sole := known.sole && event.reaper, listed := none }
    else known
  | .upsertIncident _, _ => { known with owed := none }
  | .tryClaimIncident _ _ _, .ok (some _) => { known with claimed := true, listed := none }
  | .tryClaimIncident _ _ _, _ => { known with listed := none }
  | .getRun _, .ok run =>
    if run.status.isTerminal then { known with ended := some run.status } else known
  | .listEvents, .ok events => { known with listed := some events }
  | _, _ => known

section

variable {known : Standing} {expected : RunStatus} {site : WriteSite} {updated : Run}

theorem after_written (terminal : updated.status.isTerminal = true) :
  after known (.compareAndSet site expected updated) (.ok true) =
    { known with owed := some updated.status, sole := true } := if_pos terminal

theorem after_written_active (active : ¬ updated.status.isTerminal = true) :
  after known (.compareAndSet site expected updated) (.ok true) = known := if_neg active

variable {source : EventSource} {event : RunEvent}

theorem after_announced (announces : event.announced.isSome = true) (answer : Except Failure Unit) :
  after known (.appendEvent source event) answer =
    { known with owed := none, sole := known.sole && event.reaper, listed := none } :=
  if_pos announces

theorem after_silent (silent : event.announced = none)
  (answer : Except Failure Unit) : after known (.appendEvent source event) answer = known :=
  if_neg (by rw [silent]; exact false_ne_true)

variable {read : RunRead} {run : Run}

theorem after_read (terminal : run.status.isTerminal = true) :
  after known (.getRun read) (.ok run) = { known with ended := some run.status } :=
  if_pos terminal

theorem after_read_active (active : ¬ run.status.isTerminal = true) :
  after known (.getRun read) (.ok run) = known := if_neg active

end

def MayAnnounce (known : Standing) (event : RunEvent) (status : RunStatus) : Prop :=
  known.owed = some status ∨
    known.claimed = true ∧ known.ended = some status ∧ event.reaper = true ∧
      ∃ events, known.listed = some events ∧ hasReaperTerminalEvent events status = false

def contract : Contract RunOp RunOp.Answer Failure Standing where
  allowed known op :=
    match op with
    | .compareAndSet _ expected updated =>
      expected.isTerminal = false ∧
        (updated.status = expected ∨ RunStatus.Allowed expected updated.status)
    | .appendEvent _ event => ∀ status, event.announced = some status →
        MayAnnounce known event status
    | .upsertIncident _ => known.sole = true ∨ known.claimed = true
    | _ => True
  learns known op answer later :=
    later = after known op answer ∧
      ∀ error, answer = .error error → RunOrchestrator.isOwnershipConflict error = false

section

theorem announcing : Announcing contract (fun _ => True) where
  foreseen _ _ _ _ learned := learned.2
  call known op _ common := by
    refine ⟨?_, fun _ _ _ => trivial⟩
    cases op with
    | compareAndSet | upsertIncident => exact common.elim
    | appendEvent source event =>
      intro status announced
      cases common.1.symm.trans announced
    | _ => trivial
  write site expected updated event next otherwise announces proceeds gives := by
    obtain ⟨active, announced⟩ := announces
    intro known _
    rw [wp_bind, wp_perform]
    refine ⟨⟨active, ?_⟩, ?_, fun _ _ _ => trivial⟩
    · rcases announced with ⟨allowed, _⟩ | ⟨same, _⟩
      · exact .inr allowed
      exact .inl same
    rintro changed later ⟨rfl, _⟩
    cases changed with
    | false => exact gives _ trivial
    | true =>
      rw [if_pos rfl, wp_bind, wp_perform]
      refine ⟨?_, fun _ now _ => proceeds now trivial, fun _ _ _ => trivial⟩
      intro status names
      left
      rcases announced with ⟨_, type⟩ | ⟨_, type⟩
      · unfold RunEvent.announced at names
        rw [type] at names
        dsimp only at names
        split at names
        · rename_i terminal
          cases names
          rw [after_written terminal]
        cases names
      unfold RunEvent.announced at names
      rw [type] at names
      cases names

theorem practice : Practice contract (fun _ => True) where
  toAnnouncing := announcing
  close code site current target errorCode := by
    have ends : (RunOrchestrator.failActiveSubagents code).Upholds contract (fun _ => True) := by
      apply announcing.upholds_listEvents.bind
      intro events
      apply upholds_each
      intro taskId
      exact upholds_perform _ fun _ _ => ⟨fun _ => nofun, fun _ _ _ => trivial⟩
    exact ends.bind fun _ => announcing.upholds_advance _ _ _ _ _ _

def Entitled (known : Standing) : Prop := known.sole = true ∨ known.claimed = true

variable {known : Standing} {op : RunOp}

theorem entitled_after (entitled : Entitled known)
  (quiet : op.IsCommon ∨ ∃ incident, op = .upsertIncident incident)
  (answer : Except Failure op.Answer) : Entitled (after known op answer) := by
  rcases quiet with common | ⟨incident, rfl⟩
  · cases op with
    | compareAndSet | upsertIncident | tryClaimIncident => exact common.elim
    | appendEvent source event =>
      rw [after_silent common.1]
      exact entitled
    | getRun read =>
      cases answer with
      | error error => exact entitled
      | ok run =>
        by_cases terminal : run.status.isTerminal = true
        · rw [after_read terminal]
          exact entitled
        rw [after_read_active terminal]
        exact entitled
    | listEvents =>
      cases answer with
      | error error | ok events => exact entitled
    | _ => exact entitled
  exact entitled

theorem entitled_announcement (entitled : Entitled known) {source : EventSource}
  {event : RunEvent} (reaper : event.reaper = true) (answer : Except Failure Unit) :
  Entitled (after known (.appendEvent source event) answer) := by
  cases announced : event.announced with
  | none =>
    rw [after_silent announced]
    exact entitled
  | some status =>
    rw [after_announced (by rw [announced]; rfl), reaper, Bool.and_true]
    exact entitled

theorem entitled_call (quiet : op.IsCommon ∨ ∃ incident, op = .upsertIncident incident) :
  (Ports.call op).Upholds contract Entitled := by
  apply upholds_perform
  intro known entitled
  refine ⟨?_, ?_⟩
  · rcases quiet with common | ⟨incident, rfl⟩
    · exact (announcing.call known op trivial common).1
    exact entitled
  rintro answer later ⟨rfl, _⟩
  exact entitled_after entitled quiet answer

theorem entitled_recordAction : recordAction.Upholds contract Entitled := by
  refine bind (entitled_call (.inl trivial)) fun _ => ?_
  refine bind (entitled_call (.inl trivial)) fun _ => ?_
  exact entitled_call (.inl trivial)

theorem upholds_recordAction : recordAction.Upholds contract (fun _ => True) := by
  refine bind (announcing.upholds_call trivial) fun _ => ?_
  refine bind (announcing.upholds_call trivial) fun _ => ?_
  exact announcing.upholds_call trivial

theorem entitled_openIncident : openIncident.Upholds contract Entitled := by
  refine bind (entitled_call (.inl trivial)) fun _ => ?_
  refine bind (entitled_call (.inl trivial)) fun _ => ?_
  exact entitled_call (.inr ⟨_, rfl⟩)

theorem entitled_resolveIncident : resolveIncident.Upholds contract Entitled := by
  refine bind (entitled_call (.inl trivial)) fun current => ?_
  split
  · exact upholds_done ()
  split
  · exact upholds_done ()
  refine bind (entitled_call (.inl trivial)) fun _ => ?_
  exact entitled_call (.inr ⟨_, rfl⟩)

theorem entitled_serviceIf (configured : Bool) (used : Service) :
  (serviceIf configured used).Upholds contract Entitled := by
  unfold serviceIf
  split
  · exact entitled_call (.inl trivial)
  exact upholds_done ()

variable (controller : ReliabilityController)

theorem wp_finalizeRun (run : Run) (entitled : Entitled known)
  (may : ∀ events, hasReaperTerminalEvent events run.status = false →
    MayAnnounce { known with listed := some events }
    { type := .run run.status, errorCode := run.errorCode, reaper := true } run.status) :
  (controller.finalizeRun run).wp contract (fun later _ => Entitled later)
    (fun later _ => Entitled later) known := by
  have releases : ((serviceIf controller.quotas .releaseSubject).bind (fun _ =>
      serviceIf controller.credentials .revokeRun)).Upholds contract Entitled :=
    (entitled_serviceIf _ _).bind fun _ => entitled_serviceIf _ _
  unfold finalizeRun
  rw [wp_do_perform]
  refine ⟨trivial, ?_, ?_⟩
  · rintro events later ⟨rfl, _⟩
    unfold appendTerminal
    split
    · exact releases _ entitled
    rename_i unannounced
    rw [wp_do_perform]
    have stays : ∀ answer, Entitled (after { known with listed := some events }
        (.appendEvent .harness
          { type := .run run.status, errorCode := run.errorCode, reaper := true }) answer) := by
      intro answer
      apply entitled_announcement
      · exact entitled
      rfl
    refine ⟨?_, ?_, ?_⟩
    · intro status names
      have same : status = run.status := by
        simp only [RunEvent.announced] at names
        split at names
        · exact (some.inj names).symm
        cases names
      subst same
      exact may events (not_eq_true _ ▸ unannounced)
    · rintro _ now ⟨rfl, _⟩
      exact releases _ (stays _)
    rintro error now ⟨rfl, _⟩
    exact stays _
  rintro error later ⟨rfl, _⟩
  exact entitled

theorem wp_concludeReaping (updated : Run) (owed : known.owed = some updated.status)
  (sole : known.sole = true) :
  (controller.concludeReaping updated).wp contract (fun _ _ => True) (fun _ _ => True)
    known := by
  have finalizes : (((controller.finalizeRun updated).bind fun _ => done true).catching
    fun _ => recordAction.bind fun _ => openIncident.bind fun _ => done false).wp contract
    (fun later _ => Entitled later) (fun later _ => Entitled later) known := by
    rw [wp_catching, wp_bind]
    refine wp_mono (wp_finalizeRun controller updated (.inl sole) fun _ _ => .inl owed)
      (fun _ _ => id) ?_
    intro later error entitled
    exact (entitled_recordAction.bind (fun _ => entitled_openIncident.bind
      fun _ => upholds_done false)) later entitled
  unfold concludeReaping
  simp only [bind_eq]
  rw [wp_bind]
  refine wp_mono finalizes ?_ fun _ _ _ => trivial
  intro later finalized _
  split
  · exact (upholds_recordAction.bind fun _ => upholds_done ReaperOutcome.reaped) later trivial
  trivial

theorem upholds_reapRun (candidate : Run) (cutoff : Nat) :
  (controller.reapRun candidate cutoff).Upholds contract (fun _ => True) := by
  refine bind announcing.upholds_read fun current => ?_
  split
  · exact upholds_recordAction.bind fun _ => upholds_done _
  apply upholds_transition
  intro active allowed
  refine bind (announcing.upholds_call trivial) fun updatedAt => ?_
  intro known _
  rw [wp_do_perform]
  refine ⟨⟨active, .inr allowed⟩, ?_, fun _ _ _ => trivial⟩
  rintro changed later ⟨rfl, _⟩
  cases changed with
  | true =>
    have terminal : RunStatus.isTerminal
      (if current.status = .cancelling then .cancelled else .timedOut) = true := by
      split <;> rfl
    rw [if_pos rfl]
    apply wp_concludeReaping
    · rw [after_written terminal]
    rw [after_written terminal]
  | false =>
    have skips : ((Ports.call (.getRun .observed)).bind (fun _ =>
        recordAction.bind fun _ => done ReaperOutcome.skipped)).Upholds
        contract (fun _ => True) :=
      bind (announcing.upholds_call trivial)
        (fun _ => upholds_recordAction.bind fun _ => upholds_done _)
    exact skips _ trivial

theorem upholds_reapStuckRuns : controller.reapStuckRuns.Upholds contract (fun _ => True) := by
  have candidates : ∀ cutoff found,
    (controller.reapCandidates cutoff found).Upholds contract (fun _ => True) := by
    intro cutoff found
    induction found with
    | nil => exact upholds_done 0
    | cons candidate rest ih =>
      apply (upholds_reapRun controller candidate cutoff).bind
      intro outcome
      exact ih.bind fun _ => upholds_done _
  have statuses : ∀ now thresholds,
    (controller.reapStatuses now thresholds).Upholds contract (fun _ => True) := by
    intro now thresholds
    induction thresholds with
    | nil => exact upholds_done 0
    | cons threshold rest ih =>
      refine bind (announcing.upholds_call trivial) fun found => ?_
      apply (candidates _ found).bind
      intro reaped
      exact ih.bind fun _ => upholds_done _
  exact bind (announcing.upholds_call trivial) fun now => statuses now _

theorem entitled_keepIncident (claimed : ReliabilityIncident) :
  (keepIncident claimed).Upholds contract Entitled := by
  refine bind (entitled_call (.inl trivial)) fun _ => ?_
  refine bind (entitled_call (.inr ⟨_, rfl⟩)) fun _ => ?_
  exact entitled_recordAction.bind fun _ => upholds_done false

theorem wp_repairClaimed (incident : ReliabilityIncident) (claimed : known.claimed = true) :
  (controller.repairClaimed incident).wp contract (fun _ _ => True) (fun _ _ => True)
    known := by
  have resolves : (resolveIncident.bind
    (fun _ => done 0 : Unit → RunProgram Nat)).Upholds contract Entitled :=
    entitled_resolveIncident.bind fun _ => upholds_done 0
  have concludes : ∀ (finalized : Bool) now, Entitled now →
    (if finalized then recordAction.bind (fun _ => resolveIncident.bind fun _ => done 1)
      else done 0 : RunProgram Nat).wp contract (fun _ _ => True) (fun _ _ => True) now := by
    intro finalized now entitled
    split
    · exact wp_mono ((entitled_recordAction.bind (fun _ => entitled_resolveIncident.bind
        fun _ => upholds_done 1)) now entitled) (fun _ _ _ => trivial) fun _ _ _ => trivial
    trivial
  unfold repairClaimed
  simp only [bind_eq]
  rw [wp_bind, wp_perform]
  refine ⟨trivial, ?_, fun _ _ _ => trivial⟩
  rintro run later ⟨rfl, _⟩
  split
  · rename_i terminal
    have reads : after known (.getRun .carried) (.ok run) =
        { known with ended := some run.status } := after_read terminal
    rw [reads, wp_bind, wp_catching, wp_bind]
    refine wp_mono (wp_finalizeRun controller run (.inr claimed) ?_) ?_ ?_
    · intro events unannounced
      exact .inr ⟨claimed, rfl, rfl, events, rfl, unannounced⟩
    · exact fun now _ entitled => concludes true now entitled
    intro now error entitled
    exact wp_mono (entitled_keepIncident incident now entitled)
      (fun last finalized kept => concludes finalized last kept) fun _ _ _ => trivial
  rename_i active
  have reads : after known (.getRun .carried) (.ok run) = known := after_read_active active
  rw [reads]
  exact wp_mono (resolves known (.inr claimed)) (fun _ _ _ => trivial) fun _ _ _ => trivial

theorem upholds_repairIncident : controller.repairIncident.Upholds contract (fun _ => True) := by
  refine bind (announcing.upholds_call trivial) fun claimedAt => ?_
  intro known _
  rw [wp_do_perform]
  refine ⟨trivial, ?_, fun _ _ _ => trivial⟩
  rintro found later ⟨rfl, _⟩
  cases found with
  | none => trivial
  | some incident => exact wp_repairClaimed controller incident rfl

theorem upholds_processOnce : controller.processOnce.Upholds contract (fun _ => True) := by
  have repairs : ∀ incidents, (controller.repairEach incidents).Upholds contract
    (fun _ => True) := by
    intro incidents
    induction incidents with
    | nil => exact upholds_done 0
    | cons incident rest ih =>
      apply (upholds_repairIncident controller).bind
      intro repaired
      exact ih.bind fun _ => upholds_done _
  have first : controller.repairFinalizeFailures.Upholds contract (fun _ => True) :=
    bind (announcing.upholds_call trivial) repairs
  apply first.bind
  intro repaired
  exact (upholds_reapStuckRuns controller).bind fun _ => upholds_done _

end

section

variable {store later : RunStore} {actor : Nat} {known learned : Standing}

def Flagged (store : RunStore) : Prop :=
  ∀ event ∈ terminalRunEvents store.events, event.reaper = true

def WrittenBy (store : RunStore) (actor : Nat) : Prop :=
  store.history.writer.map Prod.fst = some actor

structure Recorded (store : RunStore) : Prop extends AnnouncedOnce store where
  incident : store.incident.isSome = true → store.run.status.isTerminal = true ∧ Flagged store

/-- What the actor may announce nobody else has announced or can announce. -/
structure Owed (store : RunStore) (actor : Nat) (status : RunStatus) : Prop where
  terminal : status.isTerminal = true
  stored : store.run.status = status
  writer : WrittenBy store actor
  incident : store.incident = none
  unannounced : terminalRunEvents store.events = []

structure Sole (store : RunStore) (actor : Nat) : Prop where
  terminal : store.run.status.isTerminal = true
  writer : WrittenBy store actor
  flagged : Flagged store

structure Backed (store : RunStore) (actor : Nat) (known : Standing) : Prop where
  owed : ∀ status, known.owed = some status → Owed store actor status
  sole : known.sole = true → Sole store actor
  claimed : known.claimed = true → store.incident.isSome = true
  ended : ∀ status, known.ended = some status → store.run.status = status ∧ status.isTerminal = true
  listed : ∀ events, known.claimed = true → store.history.announcer = some actor →
    known.listed = some events → terminalRunEvents store.events = terminalRunEvents events

structure Keeps (store later : RunStore) (actor : Nat) (learned : Standing) : Prop where
  recorded : Recorded later
  own : Backed later actor learned
  others : ∀ other standing, other ≠ actor → Backed store other standing →
    Backed later other standing

structure SameRecord (store later : RunStore) : Prop where
  run : later.run = store.run
  events : terminalRunEvents later.events = terminalRunEvents store.events
  incident : later.incident = store.incident
  announcer : later.history.announcer = store.history.announcer
  writer : later.history.writer = store.history.writer

theorem SameRecord.recorded (same : SameRecord store later) (recorded : Recorded store) :
  Recorded later where
  single := by rw [same.events]; exact recorded.single
  named event member status announced := by
    have listed := mem_terminalRunEvents member announced
    rw [same.events] at listed
    rw [same.run]
    exact recorded.named event (mem_filter.mp listed).1 status announced
  incident := by
    unfold Flagged
    rw [same.events, same.run, same.incident]
    exact recorded.incident

theorem SameRecord.backed (same : SameRecord store later) {other : Nat} {standing : Standing}
  (backed : Backed store other standing) : Backed later other standing where
  owed status owes := by
    obtain ⟨terminal, stored, writer, incident, unannounced⟩ := backed.owed status owes
    exact ⟨terminal, same.run ▸ stored, by rw [WrittenBy, same.writer]; exact writer,
      same.incident ▸ incident, same.events ▸ unannounced⟩
  sole knows := by
    obtain ⟨terminal, writer, flagged⟩ := backed.sole knows
    exact ⟨same.run ▸ terminal, by rw [WrittenBy, same.writer]; exact writer,
      by rw [Flagged, same.events]; exact flagged⟩
  claimed knows := by rw [same.incident]; exact backed.claimed knows
  ended status knows := by rw [same.run]; exact backed.ended status knows
  listed events knows announces lists := by
    rw [same.events]
    exact backed.listed events knows (same.announcer ▸ announces) lists

theorem SameRecord.refl (store : RunStore) : SameRecord store store := ⟨rfl, rfl, rfl, rfl, rfl⟩

theorem SameRecord.keeps (same : SameRecord store later) (recorded : Recorded store)
  (own : Backed store actor learned) : Keeps store later actor learned :=
  ⟨same.recorded recorded, same.backed own, fun _ _ _ backed => same.backed backed⟩

theorem Backed.weaken (backed : Backed store actor known) (flagged : Bool) : Backed store actor
  { known with owed := none, sole := known.sole && flagged, listed := none } where
  owed := nofun
  sole knows := backed.sole (and_eq_true_iff.mp knows).1
  claimed := backed.claimed
  ended := backed.ended
  listed := nofun

structure Idle (known : Standing) : Prop where
  owed : known.owed = none
  sole : known.sole = false
  claimed : known.claimed = false
  ended : known.ended = none

theorem Idle.backed (idle : Idle known) (store : RunStore) (actor : Nat) :
  Backed store actor known where
  owed status owes := by
    rw [idle.owed] at owes
    cases owes
  sole knows := by
    rw [idle.sole] at knows
    cases knows
  claimed knows := by
    rw [idle.claimed] at knows
    cases knows
  ended status knows := by
    rw [idle.ended] at knows
    cases knows
  listed events knows := by
    rw [idle.claimed] at knows
    cases knows

variable (active : store.run.status.isTerminal = false)

include active

theorem Recorded.no_incident (recorded : Recorded store) : store.incident = none := by
  cases opened : store.incident with
  | none => rfl
  | some incident =>
    have terminal := (recorded.incident (by rw [opened]; rfl)).1
    rw [active] at terminal
    cases terminal

theorem Recorded.unannounced (recorded : Recorded store) : terminalRunEvents store.events = [] := by
  rw [eq_nil_iff_forall_not_mem]
  intro event member
  obtain ⟨member, announces⟩ := mem_filter.mp member
  obtain ⟨status, announced⟩ := isSome_iff_exists.mp announces
  have terminal := (RunEvent.announced_terminal announced).2
  rw [← recorded.named event member status announced, active] at terminal
  cases terminal

theorem Backed.idle (recorded : Recorded store) (backed : Backed store actor known) :
  Idle known where
  owed := by
    cases owes : known.owed with
    | none => rfl
    | some status =>
      obtain ⟨terminal, stored, _⟩ := backed.owed status owes
      rw [← stored, active] at terminal
      cases terminal
  sole := by
    cases knows : known.sole with
    | false => rfl
    | true =>
      have terminal := (backed.sole knows).terminal
      rw [active] at terminal
      cases terminal
  claimed := by
    cases knows : known.claimed with
    | false => rfl
    | true =>
      have opened := backed.claimed knows
      rw [recorded.no_incident active] at opened
      cases opened
  ended := by
    cases knows : known.ended with
    | none => rfl
    | some status =>
      obtain ⟨stored, terminal⟩ := backed.ended status knows
      rw [← stored, active] at terminal
      cases terminal

theorem keeps_write (recorded : Recorded store) (backed : Backed store actor known)
  (site : WriteSite) (updated : Run)
  (learns : learned = known ∨ updated.status.isTerminal = true ∧
    learned = { known with owed := some updated.status, sole := true }) :
  Keeps store (store.write actor site updated) actor learned := by
  have unannounced := recorded.unannounced active
  have incident := recorded.no_incident active
  have idle := backed.idle active recorded
  refine ⟨⟨⟨recorded.single, ?_⟩, ?_⟩, ?_, ?_⟩
  · intro event member status announced
    have listed := mem_terminalRunEvents member announced
    rw [show terminalRunEvents (store.write actor site updated).events = [] from unannounced]
      at listed
    cases listed
  · intro opened
    rw [show (store.write actor site updated).incident = none from incident] at opened
    cases opened
  · rcases learns with rfl | ⟨terminal, rfl⟩
    · exact idle.backed _ _
    refine ⟨?_, ?_, ?_, ?_, ?_⟩
    · rintro status ⟨rfl⟩
      exact ⟨terminal, rfl, rfl, incident, unannounced⟩
    · intro _
      refine ⟨terminal, rfl, fun event listed => ?_⟩
      rw [show terminalRunEvents (store.write actor site updated).events = [] from unannounced]
        at listed
      cases listed
    · intro knows
      exact absurd (idle.claimed.symm.trans knows) false_ne_true
    · intro status knows
      cases idle.ended.symm.trans knows
    intro events knows
    exact absurd (idle.claimed.symm.trans knows) false_ne_true
  intro other standing _ others
  exact (others.idle active recorded).backed _ _

omit active

theorem sameRecord_append (event : RunEvent) (silent : event.announced = none) :
  SameRecord store (store.append actor event) :=
  ⟨rfl, terminalRunEvents_silent silent, rfl, rfl, rfl⟩

variable {status : RunStatus}

theorem unannounced_of_listed (recorded : Recorded store) {events : List RunEvent}
  (stored : store.run.status = status) (flagged : Flagged store)
  (same : terminalRunEvents store.events = terminalRunEvents events)
  (unannounced : hasReaperTerminalEvent events status = false) :
  terminalRunEvents store.events = [] := by
  rw [eq_nil_iff_forall_not_mem]
  intro event listed
  obtain ⟨member, announces⟩ := mem_filter.mp listed
  obtain ⟨named, announced⟩ := isSome_iff_exists.mp announces
  have reaper := flagged event listed
  have type := (RunEvent.announced_terminal announced).1
  rw [← recorded.named event member named announced, stored] at type
  have found : hasReaperTerminalEvent events status = true := by
    refine any_eq_true.mpr ⟨event, (mem_filter.mp (same ▸ listed)).1, ?_⟩
    simp [type, reaper]
  exact absurd (unannounced.symm.trans found) false_ne_true

theorem keeps_announcement (recorded : Recorded store) (backed : Backed store actor known)
  {event : RunEvent} (announced : event.announced = some status)
  (may : MayAnnounce known event status)
  (timely : event.reaper = true → store.history.announcer = some actor) :
  Keeps store (store.append actor event) actor
    { known with owed := none, sole := known.sole && event.reaper, listed := none } := by
  have first : terminalRunEvents store.events = [] ∧ store.run.status = status := by
    rcases may with owes | ⟨claimed, ended, reaper, events, listed, unannounced⟩
    · exact ⟨(backed.owed status owes).unannounced, (backed.owed status owes).stored⟩
    obtain ⟨_, flagged⟩ := recorded.incident (backed.claimed claimed)
    have stored := (backed.ended status ended).1
    exact ⟨unannounced_of_listed recorded stored flagged
      (backed.listed events claimed (timely reaper) listed) unannounced, stored⟩
  obtain ⟨unannounced, stored⟩ := first
  have now : terminalRunEvents (store.append actor event).events = [event] := by
    rw [show (store.append actor event).events = store.events ++ [event] from rfl,
      terminalRunEvents_announcing announced, unannounced, nil_append]
  have flagged : event.reaper = true → Flagged (store.append actor event) := by
    intro reaper other listed
    rw [now] at listed
    cases mem_singleton.mp listed
    exact reaper
  -- An end with an incident is announced as the reaper's.
  have repaired : store.incident.isSome = true → event.reaper = true := by
    intro opened
    rcases may with owes | ⟨_, _, reaper, _⟩
    · rw [(backed.owed status owes).incident] at opened
      cases opened
    exact reaper
  refine ⟨⟨⟨?_, ?_⟩, ?_⟩, ⟨nofun, ?_, backed.claimed, backed.ended, nofun⟩, ?_⟩
  · rw [now]
    exact le_rfl
  · intro other member named announces
    have listed := mem_terminalRunEvents member announces
    rw [now] at listed
    cases mem_singleton.mp listed
    cases announced.symm.trans announces
    exact stored
  · intro opened
    exact ⟨(recorded.incident opened).1, flagged (repaired opened)⟩
  · intro knows
    obtain ⟨sole, reaper⟩ := and_eq_true_iff.mp knows
    obtain ⟨terminal, writer, _⟩ := backed.sole sole
    exact ⟨terminal, writer, flagged reaper⟩
  intro other standing distinct others
  have distinguished : WrittenBy store other → ¬ WrittenBy store actor := by
    intro theirs ours
    exact distinct (some.inj (theirs.symm.trans ours))
  refine ⟨?_, ?_, others.claimed, others.ended, ?_⟩
  · intro owed owes
    have theirs := others.owed owed owes
    rcases may with ours | ⟨claimed, _⟩
    · exact absurd (backed.owed status ours).writer (distinguished theirs.writer)
    have opened := backed.claimed claimed
    rw [theirs.incident] at opened
    cases opened
  · intro sole
    obtain ⟨terminal, writer, _⟩ := others.sole sole
    refine ⟨terminal, writer, flagged ?_⟩
    rcases may with ours | ⟨_, _, reaper, _⟩
    · exact absurd (backed.owed status ours).writer (distinguished writer)
    exact reaper
  intro events claimed announces listed
  have opened := others.claimed claimed
  have ours := timely (repaired opened)
  exact absurd (some.inj (announces.symm.trans ours)) distinct

theorem keeps_upsert (recorded : Recorded store) (backed : Backed store actor known)
  (may : known.sole = true ∨ known.claimed = true) (incident : ReliabilityIncident) :
  Keeps store { store with incident := some incident } actor { known with owed := none } := by
  have settled : store.run.status.isTerminal = true ∧ Flagged store := by
    rcases may with sole | claimed
    · obtain ⟨terminal, _, flagged⟩ := backed.sole sole
      exact ⟨terminal, flagged⟩
    exact recorded.incident (backed.claimed claimed)
  refine ⟨⟨⟨recorded.single, recorded.named⟩, fun _ => settled⟩,
    ⟨nofun, fun knows => ?_, fun _ => rfl, backed.ended, backed.listed⟩, ?_⟩
  · obtain ⟨terminal, writer, flagged⟩ := backed.sole knows
    exact ⟨terminal, writer, flagged⟩
  intro other standing distinct others
  refine ⟨?_, fun knows => ?_, fun _ => rfl, others.ended, others.listed⟩
  · intro status owes
    have theirs := others.owed status owes
    rcases may with sole | claimed
    · exact absurd (some.inj (theirs.writer.symm.trans (backed.sole sole).writer)) distinct
    have opened := backed.claimed claimed
    rw [theirs.incident] at opened
    cases opened
  obtain ⟨terminal, writer, flagged⟩ := others.sole knows
  exact ⟨terminal, writer, flagged⟩

theorem keeps_claim (recorded : Recorded store) (backed : Backed store actor known)
  (opened : store.incident.isSome = true) (incident : ReliabilityIncident) (claimed : Bool) :
  Keeps store
    { store with
      incident := some incident, history := { store.history with announcer := some actor } } actor
    { known with claimed := known.claimed || claimed, listed := none } := by
  have unowed : ∀ {other : Nat} {standing : Standing} {status : RunStatus},
    Backed store other standing → standing.owed ≠ some status := by
    intro other standing status others owes
    have theirs := (others.owed status owes).incident
    rw [theirs] at opened
    cases opened
  refine ⟨⟨⟨recorded.single, recorded.named⟩, fun _ => recorded.incident opened⟩,
    ⟨fun status (owes : known.owed = some status) => absurd owes (unowed backed), fun knows => ?_,
      fun _ => rfl, backed.ended, nofun⟩, ?_⟩
  · obtain ⟨terminal, writer, flagged⟩ := backed.sole knows
    exact ⟨terminal, writer, flagged⟩
  intro other standing distinct others
  refine ⟨fun status owes => absurd owes (unowed others), fun knows => ?_, fun _ => rfl,
    others.ended, fun events _ announces => ?_⟩
  · obtain ⟨terminal, writer, flagged⟩ := others.sole knows
    exact ⟨terminal, writer, flagged⟩
  exact absurd (some.inj announces).symm distinct

end

section

variable {platform : RunPlatform} {store : RunStore} {actor : Nat} {known : Standing}

def OnRecord : RunOp → Prop
  | .compareAndSet _ _ _ | .appendEvent _ _ | .upsertIncident _ | .tryClaimIncident _ _ _
  | .getRun _ | .listEvents => True
  | _ => False

variable {op : RunOp}

theorem sameRecord_answer (off : ¬ OnRecord op) (input : RunInput) :
  SameRecord store (platform.answer actor input store op).2 := by
  have same := SameRecord.refl store
  cases op with
  | compareAndSet | appendEvent | upsertIncident | tryClaimIncident | getRun | listEvents =>
    exact absurd trivial off
  | addApproval approval =>
    simp only [RunPlatform.answer]
    split
    · exact same
    exact ⟨rfl, rfl, rfl, rfl, rfl⟩
  | getApproval approvalId =>
    simp only [RunPlatform.answer]
    split
    · exact same
    exact same
  | compareAndSetApproval expected updated =>
    simp only [RunPlatform.answer]
    split
    · exact same
    split
    · exact ⟨rfl, rfl, rfl, rfl, rfl⟩
    exact same
  | _ => exact ⟨rfl, rfl, rfl, rfl, rfl⟩

theorem after_offRecord (off : ¬ OnRecord op) (answer : Except Failure op.Answer) : after known op answer = known := by
  cases op with
  | compareAndSet | appendEvent | upsertIncident | tryClaimIncident | getRun | listEvents =>
    exact absurd trivial off
  | _ => rfl

theorem sameRecord_respond (off : ¬ OnRecord op) (input : RunInput) :
  SameRecord store (platform.respond actor input store op).2 := by
  rcases platform.respond_state actor input store op with same | same
  · rw [same]
    exact SameRecord.refl store
  rw [same]
  exact sameRecord_answer off input

theorem keeps_compareAndSet (recorded : Recorded store) (backed : Backed store actor known)
  (input : RunInput) {site : WriteSite} {expected : RunStatus} {updated : Run}
  (allowed : contract.allowed known (.compareAndSet site expected updated)) :
  let reply := platform.respond actor input store (.compareAndSet site expected updated)
  Keeps store reply.2 actor (after known (.compareAndSet site expected updated) reply.1) := by
  have unwritten := (SameRecord.refl store).keeps recorded backed
  have written : store.accepts expected updated → ∀ learned,
      (learned = known ∨ updated.status.isTerminal = true ∧
        learned = { known with owed := some updated.status, sole := true }) →
      Keeps store (store.write actor site updated) actor learned := by
    intro accepted learned learns
    exact keeps_write (accepted.1 ▸ allowed.1) recorded backed site updated learns
  have answered : ∀ {reply : Except Failure Bool × RunStore},
    reply = platform.answer actor input store (.compareAndSet site expected updated) →
      Keeps store reply.2 actor (after known (.compareAndSet site expected updated) reply.1) ∧
        Keeps store reply.2 actor known := by
    rintro reply rfl
    simp only [RunPlatform.answer]
    split
    · rename_i accepted
      refine ⟨written accepted _ ?_, written accepted _ (.inl rfl)⟩
      by_cases terminal : updated.status.isTerminal = true
      · exact .inr ⟨terminal, after_written terminal⟩
      exact .inl (after_written_active terminal)
    exact ⟨unwritten, unwritten⟩
  rcases platform.respond_cases actor input store (.compareAndSet site expected updated) with
    same | ⟨_, same⟩ | ⟨_, same⟩
  · rw [same]
    exact (answered rfl).1
  · rw [same]
    exact unwritten
  rw [same]
  exact (answered rfl).2

theorem keeps_appendEvent (recorded : Recorded store) (backed : Backed store actor known)
  (input : RunInput) {source : EventSource} {event : RunEvent}
  (allowed : contract.allowed known (.appendEvent source event))
  (timely : Timely store actor (.appendEvent source event) input) :
  let reply := platform.respond actor input store (.appendEvent source event)
  Keeps store reply.2 actor (after known (.appendEvent source event) reply.1) := by
  dsimp only
  cases announced : event.announced with
  | none =>
    rw [after_silent announced]
    rcases platform.respond_state actor input store (.appendEvent source event) with same | same
    · rw [same]
      exact (SameRecord.refl store).keeps recorded backed
    rw [same]
    exact (sameRecord_append event announced).keeps recorded backed
  | some status =>
    rw [after_announced (by rw [announced]; rfl)]
    rcases platform.respond_state actor input store (.appendEvent source event) with same | same
    · rw [same]
      exact (SameRecord.refl store).keeps recorded (backed.weaken event.reaper)
    rw [same]
    refine keeps_announcement recorded backed announced (allowed status announced) ?_
    intro reaper
    apply timely
    simp [announcesAsReaper, announced, reaper]

theorem keeps_tryClaimIncident (recorded : Recorded store) (backed : Backed store actor known)
  (input : RunInput) (owner : String) (claimedAt leaseExpiresAt : Nat) :
  let reply := platform.respond actor input store
    (.tryClaimIncident owner claimedAt leaseExpiresAt)
  Keeps store reply.2 actor
    (after known (.tryClaimIncident owner claimedAt leaseExpiresAt) reply.1) := by
  have unclaimed : Keeps store store actor { known with listed := none } := by
    have weaker : Backed store actor { known with listed := none } :=
      ⟨backed.owed, backed.sole, backed.claimed, backed.ended, nofun⟩
    exact (SameRecord.refl store).keeps recorded weaker
  have answered : ∀ {reply : Except Failure (Option ReliabilityIncident) × RunStore},
      reply = platform.answer actor input store
          (.tryClaimIncident owner claimedAt leaseExpiresAt) →
        Keeps store reply.2 actor
            (after known (.tryClaimIncident owner claimedAt leaseExpiresAt) reply.1) ∧
          Keeps store reply.2 actor { known with listed := none } := by
    rintro reply rfl
    simp only [RunPlatform.answer]
    split
    · exact ⟨unclaimed, unclaimed⟩
    rename_i incident claimable
    have opened : store.incident.isSome = true := by
      exact Option.isSome_of_eq_some (Option.filter_eq_some_iff.mp claimable).1
    have claims := keeps_claim recorded backed opened
    refine ⟨?_, ?_⟩
    · have learned := claims
        { incident with
          recoveryOwner := some owner, recoveryLeaseExpiresAt := some leaseExpiresAt
          recoveryAttempts := incident.recoveryAttempts + 1, updatedAt := claimedAt } true
      rw [Bool.or_true] at learned
      exact learned
    have learned := claims
      { incident with
        recoveryOwner := some owner, recoveryLeaseExpiresAt := some leaseExpiresAt
        recoveryAttempts := incident.recoveryAttempts + 1, updatedAt := claimedAt } false
    rw [Bool.or_false] at learned
    exact learned
  rcases platform.respond_cases actor input store
    (.tryClaimIncident owner claimedAt leaseExpiresAt) with same | ⟨_, same⟩ | ⟨_, same⟩
  · rw [same]
    exact (answered rfl).1
  · rw [same]
    exact unclaimed
  rw [same]
  exact (answered rfl).2

theorem keeps_upsertIncident (recorded : Recorded store)
  (backed : Backed store actor known) (input : RunInput) {incident : ReliabilityIncident}
  (allowed : contract.allowed known (.upsertIncident incident)) :
  let reply := platform.respond actor input store (.upsertIncident incident)
  Keeps store reply.2 actor (after known (.upsertIncident incident) reply.1) := by
  dsimp only
  rcases platform.respond_state actor input store (.upsertIncident incident) with same | same
  · have weaker : Backed store actor { known with owed := none } :=
      ⟨nofun, backed.sole, backed.claimed, backed.ended, backed.listed⟩
    rw [same]
    exact (SameRecord.refl store).keeps recorded weaker
  rw [same]
  exact keeps_upsert recorded backed allowed incident

theorem keeps_getRun (recorded : Recorded store) (backed : Backed store actor known)
  (input : RunInput) (read : RunRead) :
  let reply := platform.respond actor input store (.getRun read)
  Keeps store reply.2 actor (after known (.getRun read) reply.1) := by
  have unread := (SameRecord.refl store).keeps recorded backed
  rcases platform.respond_cases actor input store (.getRun read) with
    same | ⟨_, same⟩ | ⟨_, same⟩
  · rw [same]
    by_cases terminal : store.run.status.isTerminal = true
    · have reads : after known (.getRun read) (platform.answer actor input store (.getRun read)).1 =
          { known with ended := some store.run.status } := after_read terminal
      dsimp only
      rw [reads]
      refine (SameRecord.refl store).keeps recorded
        ⟨backed.owed, backed.sole, backed.claimed, ?_, backed.listed⟩
      rintro status ⟨rfl⟩
      exact ⟨rfl, terminal⟩
    have reads : after known (.getRun read) (platform.answer actor input store (.getRun read)).1 =
      known := after_read_active terminal
    dsimp only
    rw [reads]
    exact unread
  · rw [same]
    exact unread
  rw [same]
  exact unread

theorem keeps_listEvents (recorded : Recorded store) (backed : Backed store actor known)
  (input : RunInput) :
  let reply := platform.respond actor input store .listEvents
  Keeps store reply.2 actor (after known .listEvents reply.1) := by
  have listing : SameRecord store (platform.answer actor input store .listEvents).2 :=
    ⟨rfl, rfl, rfl, rfl, rfl⟩
  rcases platform.respond_cases actor input store .listEvents with same | ⟨_, same⟩ | ⟨_, same⟩
  · rw [same]
    refine listing.keeps recorded
      ⟨backed.owed, backed.sole, backed.claimed, backed.ended, ?_⟩
    rintro events _ _ ⟨rfl⟩
    rfl
  · rw [same]
    exact (SameRecord.refl store).keeps recorded backed
  rw [same]
  exact listing.keeps recorded backed

variable (platform : RunPlatform)

theorem keeps_step (recorded : Recorded store)
  (backed : Backed store actor known) {input : RunInput} (timely : Timely store actor op input)
  (allowed : contract.allowed known op) :
  Keeps store (platform.respond actor input store op).2 actor
    (after known op (platform.respond actor input store op).1) := by
  have others : ¬ OnRecord op → Keeps store (platform.respond actor input store op).2 actor
    (after known op (platform.respond actor input store op).1) := by
    intro off
    rw [after_offRecord off]
    exact (sameRecord_respond off input).keeps recorded backed
  cases op with
  | compareAndSet site expected updated => exact keeps_compareAndSet recorded backed input allowed
  | appendEvent source event => exact keeps_appendEvent recorded backed input allowed timely
  | upsertIncident incident => exact keeps_upsertIncident recorded backed input allowed
  | tryClaimIncident owner claimedAt leaseExpiresAt =>
    exact keeps_tryClaimIncident recorded backed input _ _ _
  | getRun read => exact keeps_getRun recorded backed input read
  | listEvents => exact keeps_listEvents recorded backed input
  | _ => exact others id

def Sound (store : RunStore) (known : Nat → Standing) : Prop :=
  Recorded store ∧ ∀ actor, Backed store actor (known actor)

theorem adheres : Pool.Adheres platform.component (fun _ => contract) Sound Timely := by
  intro store known actor op input sound timely allowed
  obtain ⟨recorded, backed⟩ := sound
  have keeps := keeps_step platform recorded (backed actor) timely allowed
  refine ⟨_, ⟨rfl, fun error failed => platform.respond_unowned actor input store op failed⟩,
    keeps.recorded, ?_⟩
  exact Pool.forall_update keeps.own (fun other distinct => keeps.others other _ distinct
    (backed other))

theorem follows_respond (input : RunInput) (allowed : contract.allowed known op) :
  Follows store (platform.respond actor input store op).2 := by
  rcases platform.respond_run actor input store op with
    same | ⟨site, expected, updated, rfl, accepted, written⟩
  · exact ⟨.inl (by rw [same]), fun changed => absurd (by rw [same]) changed, fun _ => same⟩
  obtain ⟨active, next⟩ := allowed
  rw [← accepted.1] at active next
  refine ⟨?_, fun _ => ?_, fun terminal => ?_⟩
  · rw [written]
    exact next
  · rw [written]
    exact accepted.2.symm
  exact absurd (active.symm.trans terminal) false_ne_true

end

section

/-- Whoever acts on the Run: its status goes along the table, each change with the next
token, until it has ended; its end is announced once at most and under its own name, as
long as no reaper announces the end of a Run that another one has claimed since. -/
theorem status_follows_table (platform : RunPlatform) (createdAt : Nat)
  (inputArtifactIds : Option (List (Option String))) (services : Nat → RunServices)
  (requests : Nat → List RunRequest) (schedule : List (Nat × RunInput))
  (timely : (runPool platform createdAt inputArtifactIds services requests).Along
    platform.component Timely schedule) :
  ((runPool platform createdAt inputArtifactIds services requests).visited
    platform.component schedule).IsChain Follows ∧
    AnnouncedOnce ((runPool platform createdAt inputArtifactIds services requests).run
    platform.component schedule).state := by
  have ready : (runPool platform createdAt inputArtifactIds services requests).Ready
    (fun _ => contract) Sound (fun _ _ _ => True) (fun _ _ _ => True) (fun _ => {}) := by
    refine ⟨⟨⟨⟨Nat.zero_le _, fun _ => nofun⟩, nofun⟩, fun actor => ?_⟩, fun actor => ?_⟩
    · exact ⟨fun _ => nofun, nofun, nofun, fun _ => nofun, fun _ => nofun⟩
    have upholds := practice.upholds_actor (services actor) platform.task (requests actor)
      (upholds_processOnce _)
    exact wp_mono (upholds {} trivial) (fun _ _ _ => trivial) fun _ _ _ => trivial
  refine ⟨?_, ?_⟩
  · refine Pool.visited_chain (adheres platform) ?_ ?_ ready schedule timely
    · exact fun state => ⟨.inl rfl, fun changed => absurd rfl changed, fun _ => rfl⟩
    intro state known actor op input _ _ allowed
    exact follows_respond platform input allowed
  obtain ⟨known, sound, _⟩ := Pool.run_ready (adheres platform) ready schedule timely
  exact sound.1.toAnnouncedOnce

end

section

def threeReapers : RunPlatform where
  generatedId kind _ := kind
  task := "run-1"

def eagerReaper : RunServices where
  controller := { workerId := "reliability-1", thresholds := [(.queued, 0)] }

def reapers : RunPool :=
  runPool threeReapers 0 (some []) (fun _ => eagerReaper) fun _ => [.processOnce]

def reapsAndFails : List (Nat × RunInput) :=
  List.replicate 7 (0, ({} : RunInput)) ++ [(0, { fault := .before (.other "ConnectionError") })] ++
    List.replicate 7 (0, ({} : RunInput))

/-- A second reaper lists the events, and a third one claims the incident when the lease of
30 seconds is over. -/
def claimsOverlap : List (Nat × RunInput) :=
  reapsAndFails ++ List.replicate 5 (1, ({} : RunInput)) ++
    List.replicate 6 (2, { now := 30 }) ++ [(1, { now := 31 })]

theorem end_announced_twice : ∃ platform createdAt inputArtifactIds services requests schedule,
  ¬ AnnouncedOnce ((runPool platform createdAt inputArtifactIds services requests).run
  platform.component schedule).state := by
  refine ⟨threeReapers, 0, some [], fun _ => eagerReaper, fun _ => [.processOnce],
    claimsOverlap, fun announced => ?_⟩
  exact absurd announced.single (by decide)

def repairedOnce : List (Nat × RunInput) := reapsAndFails ++ List.replicate 12 (1, ({} : RunInput))

theorem status_follows_table_repaired :
  (reapers.visited threeReapers.component repairedOnce).IsChain Follows ∧
    AnnouncedOnce (reapers.run threeReapers.component repairedOnce).state :=
  status_follows_table threeReapers 0 (some []) (fun _ => eagerReaper) (fun _ => [.processOnce])
    repairedOnce (by decide)

end

end Announcements

end AgentHarness
