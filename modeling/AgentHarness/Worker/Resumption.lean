import AgentHarness.Worker.Bystanders
import AgentHarness.Worker.Deliveries

/-!
A Run that an approval has resumed waits in the queue until someone takes it up.
-/

namespace AgentHarness

open Collections Interaction Program Ports Function RunOrchestrator TaskQueue RunWorker Option Bool

structure Delivery where
  taken : Option (String × Option Nat) := none
  seen : Option (RunStatus × Nat) := none
  /-- The Run has not been waiting to be taken up, at some time since the delivery. -/
  met : Bool := false

namespace Delivery

def outdates (known : Delivery) (expected : RunStatus) (updated : Run) : Bool :=
  known.seen.any fun seen => seen.1 = expected ∧ seen.2 + 1 = updated.fencingToken

def after (known : Delivery) : (op : RunOp) → Except Failure op.Answer → Delivery
  | .dequeue, _ => {}
  | .popReceipt payload, .ok receipt => { known with taken := some (payload, receipt) }
  | .getRun _, .ok run =>
    { known with
      seen := some (run.status, run.fencingToken)
      met := known.met || decide (run.status ≠ .running) }
  | .compareAndSet _ expected updated, .ok changed =>
    { known with met := known.met || changed || known.outdates expected updated }
  | _, _ => known

end Delivery

namespace Resumption

def NotLost (platform : RunPlatform) (store : RunStore) : Prop :=
  store.history.awaited = true → platform.task ∈ store.queue.pending

def enqueued : RunOp → Option String
  | .enqueue payload => some payload
  | _ => none

def presented : RunOp → Option String
  | .popReceipt payload => some payload
  | _ => none

def HandedOver (platform : RunPlatform) (store : RunStore) (actor : Nat) (op : RunOp)
  (_ : RunInput) : Prop :=
  (enqueued op = some platform.task ∧ store.resumedByApproval →
      store.queue.receipts.get? platform.task = none) ∧
    (presented op = some platform.task →
      ∀ receipt ∈ (store.receipts (platform.process actor)).get? platform.task,
        store.history.leases actor = some receipt)

instance (platform : RunPlatform) (store : RunStore) (actor : Nat) (op : RunOp)
  (input : RunInput) : Decidable (HandedOver platform store actor op input) :=
  inferInstanceAs (Decidable (_ ∧ _))

def contract (task : String) : Contract RunOp RunOp.Answer Failure Delivery where
  allowed known op :=
    match op with
    | .acknowledge payload receipt =>
      known.taken = some (payload, receipt) ∧ (payload = task → known.met = true)
    | _ => True
  learns known op answer later :=
    later = known.after op answer ∧
      ∀ error, answer = .error error → isOwnershipConflict error = false

section

variable {task : String} {known : Delivery}

theorem free_preserved : offQueueWork.Preserves (contract task) (fun _ => True) := by
  intro known op _ permit
  refine ⟨?_, fun answer later learned => ⟨trivial, learned.2⟩⟩
  cases op with
  | acknowledge payload receipt => exact permit.elim
  | _ => trivial

theorem met_after {op : RunOp} (met : known.met = true) (permit : op.IsOffQueue)
  (answer : Except Failure op.Answer) : (known.after op answer).met = true := by
  cases op with
  | dequeue | popReceipt payload => exact permit.elim
  | getRun read =>
    cases answer with
    | ok run => simp only [Delivery.after, met, Bool.true_or]
    | error error => exact met
  | compareAndSet site expected updated =>
    cases answer with
    | ok changed => simp only [Delivery.after, met, Bool.true_or]
    | error error => exact met
  | _ => exact met

theorem met_preserved : offQueueWork.Preserves (contract task) (fun known => known.met = true) := by
  intro known op met permit
  refine ⟨(free_preserved known op trivial permit).1, ?_⟩
  rintro answer later ⟨rfl, foreseen⟩
  exact ⟨met_after met permit answer, foreseen⟩

theorem met_plain : plainWork.Preserves (contract task) (fun known => known.met = true) :=
  plainWork_offQueue.preserves met_preserved

theorem free_plain : plainWork.Preserves (contract task) (fun _ => True) :=
  plainWork_offQueue.preserves free_preserved

variable (site : WriteSite)

theorem meets_write (lost : Conflict) (current updated : Run)
  (token : updated.fencingToken = current.fencingToken + 1) {type : RunEvent} :
  ((call (.compareAndSet site current.status updated)).bind (fun changed =>
      if changed then
        (call (.appendEvent .harness type)).bind fun _ => Program.done updated
      else raised (.conflict lost))).wp (contract task)
    (fun later _ => later.met = true)
    (fun later error => known.seen = some (current.status, current.fencingToken) →
      isOwnershipConflict error = true → later.met = true) known := by
  rw [wp_bind, wp_perform]
  refine ⟨trivial, ?_, ?_⟩
  · rintro changed later ⟨rfl, _⟩
    cases changed with
    | true =>
      have met : (known.after (.compareAndSet site current.status updated)
        (.ok true)).met = true := by
        simp [Delivery.after]
      rw [if_pos rfl, wp_bind, wp_perform]
      refine ⟨trivial, ?_, ?_⟩
      · rintro _ later ⟨rfl, _⟩
        exact met
      rintro _ later ⟨rfl, _⟩ _ _
      exact met
    | false =>
      intro seen _
      have outdated : known.outdates current.status updated = true := by
        simp [Delivery.outdates, seen, token]
      simp [Delivery.after, outdated]
  rintro error later ⟨_, outage⟩ _ ownership
  exact absurd ((outage error rfl).symm.trans ownership) Bool.noConfusion

theorem meets_move (current : Run) (target : RunStatus)
  (errorCode : Option ErrorCode) : (move site current target errorCode).wp (contract task)
    (fun later _ => later.met = true)
    (fun later error => known.seen = some (current.status, current.fencingToken) →
    isOwnershipConflict error = true → later.met = true) known := by
  unfold move advance
  rw [wp_do]
  unfold ensure
  split
  · rw [wp_done, wp_do_perform]
    refine ⟨trivial, ?_, ?_⟩
    · rintro updatedAt later ⟨rfl, _⟩
      exact meets_write site _ current _ rfl
    rintro error later ⟨_, outage⟩ _ ownership
    exact absurd ((outage error rfl).symm.trans ownership) Bool.noConfusion
  rename_i error refused
  intro _ ownership
  unfold transition at refused
  split at refused
  · cases refused
    cases ownership
  cases refused

theorem meets_reclaim (current : Run) :
  (reclaim current).wp (contract task) (fun later _ => later.met = true)
    (fun later error => known.seen = some (current.status, current.fencingToken) →
    isOwnershipConflict error = true → later.met = true) known := by
  unfold reclaim
  rw [wp_do_perform]
  refine ⟨trivial, ?_, ?_⟩
  · rintro updatedAt later ⟨rfl, _⟩
    exact meets_write .reclaim _ current _ rfl
  rintro error later ⟨_, outage⟩ _ ownership
  exact absurd ((outage error rfl).symm.trans ownership) Bool.noConfusion

theorem meets_takeOwnership (run : Run) (seen : known.seen = some (run.status, run.fencingToken)) :
  (takeOwnership run).wp (contract task) (fun later _ => later.met = true)
    (fun later error => isOwnershipConflict error = true → later.met = true) known := by
  unfold takeOwnership
  split
  · exact wp_mono (meets_reclaim run) (fun _ _ => id) fun _ _ lost => lost seen
  exact wp_mono (meets_move _ run _ none) (fun _ _ => id) fun _ _ lost => lost seen

theorem meets_conclusion {conclude : Run → RunProgram Run}
  (meets : ∀ latest known, (latest.status ≠ .running → known.met = true) →
    (conclude latest).wp (contract task) (fun later _ => later.met = true)
    (fun _ _ => True) known) :
  ((call (.getRun .carried)).bind conclude).wp (contract task)
    (fun later _ => later.met = true) (fun _ _ => True) known := by
  rw [wp_bind, wp_perform]
  refine ⟨trivial, ?_, fun _ _ _ => trivial⟩
  rintro latest later ⟨rfl, _⟩
  apply meets latest
  intro moved
  simp [Delivery.after, moved]

theorem meets_move_freely (current : Run) (target : RunStatus)
  (errorCode : Option ErrorCode) : (move site current target errorCode).wp (contract task)
    (fun later _ => later.met = true) (fun _ _ => True) known :=
  wp_mono (meets_move site current target errorCode) (fun _ _ => id) fun _ _ _ => trivial

theorem meets_closing (code : ErrorCode) (site : WriteSite) (current : Run)
  (target : RunStatus) (errorCode : Option ErrorCode) :
  ((failActiveSubagents code).bind
    fun _ => move site current target errorCode).wp (contract task)
    (fun later _ => later.met = true) (fun _ _ => True) known := by
  rw [wp_bind]
  exact wp_mono ((offQueue_failActiveSubagents code).wp free_preserved trivial)
    (fun _ _ _ => meets_move_freely site current target errorCode) fun _ _ _ => trivial

theorem moved_of_terminal {latest : Run} (terminal : latest.status.isTerminal = true) :
  latest.status ≠ .running := by
  intro running
  rw [running] at terminal
  cases terminal

theorem meets_timeout : ((call (.getRun .carried)).bind concludeTimeout).wp (contract task)
  (fun later _ => later.met = true) (fun _ _ => True) known := by
  apply meets_conclusion
  intro latest known met
  unfold concludeTimeout
  split
  · exact meets_closing _ _ _ _ _
  split
  · rename_i terminal
    exact met (moved_of_terminal terminal)
  exact meets_closing _ _ _ _ _

theorem meets_resultError (errorCode : String) :
  ((call (.getRun .carried)).bind (concludeResultError errorCode)).wp
    (contract task) (fun later _ => later.met = true) (fun _ _ => True) known := by
  apply meets_conclusion
  intro latest known met
  unfold concludeResultError
  split
  · exact meets_move_freely _ _ _ _
  split
  · rename_i terminal
    exact met (moved_of_terminal terminal)
  exact meets_move_freely _ _ _ _

theorem meets_unexpectedError (error : Failure)
  (lost : isOwnershipConflict error = true → known.met = true) :
  (handleUnexpectedError error).wp (contract task)
    (fun later _ => later.met = true) (fun _ _ => True) known := by
  unfold handleUnexpectedError
  rw [wp_do_perform]
  refine ⟨trivial, ?_, fun _ _ _ => trivial⟩
  rintro latest later ⟨rfl, _⟩
  have moved : latest.status ≠ .running →
    (known.after (.getRun .carried) (.ok latest)).met = true := by
    intro moved
    simp [Delivery.after, moved]
  split
  · exact meets_move_freely _ _ _ _
  split
  · rename_i cancelled
    exact moved (by rw [cancelled]; decide)
  split
  · rename_i ownership
    have reads : RunOp.IsOffQueue (.getRun .carried) := trivial
    exact met_after (lost ownership) reads (.ok latest)
  split
  · rename_i terminal
    exact moved (moved_of_terminal terminal)
  exact meets_closing _ _ _ _ _

variable (orchestrator : RunOrchestrator)

theorem meets_lifted {α : Type} {program : RunProgram α} {next : α → RunProgram Run}
  (meets : (program.bind next).wp (contract task) (fun later _ => later.met = true)
    (fun _ _ => True) known) (vars : ExecutionLocals) :
  ((Routine.lift program : ExecutionRoutine α).bind fun result => Routine.lift (next result)).wp
    (contract task) (fun later _ _ => later.met = true) (fun _ _ _ => True) known vars := by
  rw [wp_bind] at meets
  rw [Routine.wp_bind, Routine.wp_lift]
  exact wp_mono meets (fun _ _ holds => (Routine.wp_lift _).mpr holds) fun _ _ _ => trivial

theorem meets_recovered {rest : ExecutionRoutine Run} {vars : ExecutionLocals}
  (meets : ∀ known vars, rest.wp (contract task) (fun later _ _ => later.met = true)
    (fun _ _ _ => True) known vars) :
  (orchestrator.recover.bind fun _ => rest).wp (contract task)
    (fun later _ _ => later.met = true) (fun _ _ _ => True) known vars := by
  rw [Routine.wp_bind]
  exact Routine.wp_mono (orchestrator.plain_recover.wp free_plain trivial vars)
    (fun later now _ _ => meets later now) fun _ _ _ _ => trivial

theorem meets_unexpected (error : Failure) (vars : ExecutionLocals)
  (lost : isOwnershipConflict error = true → known.met = true) :
  (orchestrator.recover.bind
    fun _ => Routine.lift (handleUnexpectedError error)).wp (contract task)
    (fun later _ _ => later.met = true) (fun _ _ _ => True) known vars := by
  by_cases ownership : isOwnershipConflict error = true
  · rw [Routine.wp_bind]
    exact Routine.wp_mono (orchestrator.plain_recover.wp met_plain (lost ownership) vars)
      (fun _ _ _ met => (Routine.wp_lift _).mpr (meets_unexpectedError error fun _ => met))
      (fun _ _ _ _ => trivial)
  exact meets_recovered orchestrator (fun _ _ => (Routine.wp_lift _).mpr
    (meets_unexpectedError error fun owned => absurd owned ownership))

theorem meets_handleFailure (error : Failure) (vars : ExecutionLocals)
  (lost : isOwnershipConflict error = true → known.met = true) :
  (orchestrator.handleFailure error).wp (contract task) (fun later _ _ => later.met = true)
    (fun _ _ _ => True) known vars := by
  have timeouts : ∀ known vars, orchestrator.handleTimeout.wp (contract task)
    (fun later _ _ => later.met = true) (fun _ _ _ => True) known vars :=
    fun _ _ => meets_recovered orchestrator fun _ now => meets_lifted meets_timeout now
  unfold handleFailure
  split
  · exact timeouts known vars
  · exact timeouts known vars
  · rename_i errorCode
    unfold handleResultError
    simp only [Routine.bind_eq]
    rw [Routine.wp_bind]
    exact Routine.wp_mono (orchestrator.plain_settleFailedResult.wp free_plain trivial vars)
      (fun _ _ _ _ => meets_recovered orchestrator
        fun _ now => meets_lifted (meets_resultError errorCode) now)
      (fun _ _ _ _ => trivial)
  exact meets_unexpected orchestrator error vars lost

theorem meets_perform (run : Run) (vars : ExecutionLocals)
  (seen : known.seen = some (run.status, run.fencingToken)) :
  (orchestrator.perform run).wp (contract task) (fun later _ _ => later.met = true)
    (fun later _ error => isOwnershipConflict error = true → later.met = true) known vars := by
  obtain ⟨rest, performs, within⟩ := orchestrator.perform_owned run
  rw [performs, Routine.wp_bind, Routine.wp_lift]
  refine wp_mono (meets_takeOwnership run seen) ?_ fun _ _ => id
  intro later owned met
  exact Routine.wp_mono ((within owned).wp met_preserved met vars) (fun _ _ _ => id)
    (fun _ _ _ kept _ => kept.1)

theorem meets_executeOwned (run : Run) (seen : known.seen = some (run.status, run.fencingToken)) :
  (orchestrator.executeOwned run).wp (contract task) (fun later _ => later.met = true)
    (fun _ _ => True) known := by
  apply Routine.wp_run
  rw [Routine.wp_ensuring, Routine.wp_catching]
  have cleans : ∀ later now, later.met = true → orchestrator.cleanUp.wp (contract task)
    (fun last _ _ => last.met = true) (fun _ _ _ => True) later now :=
    fun later now met => Routine.wp_mono (orchestrator.plain_cleanUp.wp met_plain met now)
      (fun _ _ _ => id) fun _ _ _ _ => trivial
  have tidies : ∀ later now, orchestrator.cleanUp.wp (contract task)
    (fun _ _ _ => True) (fun _ _ _ => True) later now :=
    fun later now => Routine.wp_mono (orchestrator.plain_cleanUp.wp free_plain trivial now)
      (fun _ _ _ _ => trivial) fun _ _ _ _ => trivial
  refine Routine.wp_mono (meets_perform orchestrator run {} seen)
    (fun later now _ met => cleans later now met) ?_
  intro later now error lost
  exact Routine.wp_mono (meets_handleFailure orchestrator error now lost)
    (fun last final _ met => cleans last final met) fun last final _ _ => tidies last final

theorem meets_executeRun :
  orchestrator.executeRun.wp (contract task) (fun later _ => later.met = true)
    (fun _ _ => True) known := by
  unfold executeRun
  rw [wp_do_perform]
  refine ⟨trivial, ?_, fun _ _ _ => trivial⟩
  rintro run later ⟨rfl, _⟩
  have moved : run.status ≠ .running → (known.after (.getRun .carried) (.ok run)).met = true := by
    intro moved
    simp [Delivery.after, moved]
  split
  · rename_i terminal
    exact moved (moved_of_terminal terminal)
  split
  · exact meets_move_freely _ _ _ _
  split
  · rename_i waiting
    exact moved (by rw [waiting]; decide)
  split
  · exact trivial
  exact meets_executeOwned orchestrator run rfl

theorem meets_plain {α : Type} {program : RunProgram α}
  (plain : program.Within plainWork) (met : known.met = true) :
  program.wp (contract task) (fun later _ => later.met = true) (fun _ _ => True) known :=
  wp_mono (plain.wp met_plain met) (fun _ _ => id) fun _ _ _ => trivial

theorem meets_executeObserved :
  orchestrator.executeObserved.wp (contract task) (fun later _ => later.met = true)
    (fun _ _ => True) known := by
  unfold executeObserved
  rw [wp_do_perform]
  refine ⟨trivial, fun observed later _ => ?_, fun _ _ _ => trivial⟩
  rw [wp_do_perform]
  refine ⟨trivial, fun session later _ => ?_, fun _ _ _ => trivial⟩
  rw [wp_do]
  refine wp_mono (meets_executeRun orchestrator) ?_ fun _ _ _ => trivial
  intro later result met
  rw [wp_do]
  refine wp_mono (meets_plain (orchestrator.plain_releaseTerminalQuota result) met) ?_
    (fun _ _ _ => trivial)
  intro later _ met
  rw [wp_do]
  exact wp_mono (meets_plain (orchestrator.plain_exportQuality result) met)
    (fun _ _ => id) fun _ _ _ => trivial

theorem meets_execute : orchestrator.execute.wp (contract task) (fun later _ => later.met = true)
    (fun _ _ => True) known := by
  unfold execute
  split
  · exact meets_executeObserved orchestrator
  rw [wp_do]
  refine wp_mono (meets_executeRun orchestrator) ?_ fun _ _ _ => trivial
  intro later result met
  rw [wp_do]
  exact meets_plain (orchestrator.plain_releaseTerminalQuota result) met

variable (payload : String)

theorem settles_acknowledge (met : payload = task → known.met = true) :
  (RunWorker.acknowledge payload).wp (contract task) (fun _ _ => True) (fun _ _ => True)
    known := by
  unfold RunWorker.acknowledge
  rw [wp_do_perform]
  refine ⟨trivial, ?_, fun _ _ _ => trivial⟩
  rintro receipt later ⟨rfl, _⟩
  rw [wp_perform]
  exact ⟨⟨rfl, met⟩, fun _ _ _ => trivial, fun _ _ _ => trivial⟩

theorem settles_retry :
  (RunWorker.retry payload).wp (contract task) (fun _ _ => True) (fun _ _ => True) known := by
  unfold RunWorker.retry
  rw [wp_do_perform]
  refine ⟨trivial, fun receipt later _ => ?_, fun _ _ _ => trivial⟩
  rw [wp_perform]
  exact ⟨trivial, fun _ _ _ => trivial, fun _ _ _ => trivial⟩

theorem settles_executeTask (worker : RunWorker) (payload : String) :
  (worker.executeTask payload).wp (contract worker.task)
    (fun later _ => payload = worker.task → later.met = true) (fun _ _ => True) known := by
  unfold executeTask
  split
  · rw [wp_bind]
    exact wp_mono (meets_execute worker.orchestrator) (fun _ _ met _ => met)
      (fun _ _ _ => trivial)
  rename_i other
  rw [wp_perform]
  exact ⟨trivial, fun _ _ _ same => absurd same other, fun _ _ _ => trivial⟩

theorem settles_takeTask :
  takeTask.wp (contract task) (fun _ _ => True) (fun _ _ => True) known := by
  unfold takeTask
  simp only [bind_eq]
  rw [wp_bind, wp_perform]
  refine ⟨trivial, fun delivery later _ => ?_, fun _ _ _ => trivial⟩
  cases delivery with
  | none => exact trivial
  | some delivery =>
    rw [wp_bind, wp_perform]
    exact ⟨trivial, fun _ _ _ => trivial, fun _ _ _ => trivial⟩

theorem settles_round (worker : RunWorker) :
  worker.round.wp (contract worker.task) (fun _ _ => True) (fun _ _ => True) known :=
  worker.wp_round (fun payload known => payload = worker.task → known.met = true)
    settles_takeTask (fun payload _ => settles_executeTask worker payload)
    (fun payload _ => settles_acknowledge payload) fun payload _ => settles_retry payload

theorem settles_renewLease (rounds : Nat) (known : Delivery) :
  (renewLease payload rounds).wp (contract task) (fun _ _ => True)
    (fun _ _ => True) known := by
  induction rounds generalizing known with
  | zero => exact trivial
  | succ rounds ih =>
    unfold renewLease
    rw [wp_do]
    have renews : (succeeds (RunWorker.extendLease payload)).wp
      (contract task) (fun _ _ => True) (fun _ _ => True) known := by
      apply wp_succeeds
      unfold RunWorker.extendLease
      rw [wp_do_perform]
      refine ⟨trivial, fun receipt later _ => ?_, fun _ _ _ => trivial⟩
      rw [wp_perform]
      exact ⟨trivial, fun _ _ _ => trivial, fun _ _ _ => trivial⟩
    exact wp_mono renews (fun later _ _ => ih later) fun _ _ _ => trivial

theorem settles_serve (services : RunServices) (request : RunRequest) :
  (services.serve task request).wp (contract task) (fun _ _ => True) (fun _ _ => True)
    known := by
  by_cases working : request = .work
  · subst working
    exact settles_round { orchestrator := services.orchestrator, task }
  by_cases renewing : ∃ rounds, request = .renewLease rounds
  · obtain ⟨rounds, rfl⟩ := renewing
    exact settles_renewLease task rounds known
  have silent : ∀ rounds, request ≠ .renewLease rounds := fun rounds same => renewing ⟨rounds, same⟩
  exact wp_mono ((services.offQueue_serve task working silent).wp free_preserved trivial)
    (fun _ _ _ => trivial) fun _ _ _ => trivial

theorem settles_actor (services : RunServices) (requests : List RunRequest) :
  (services.actor task requests).wp (contract task) (fun _ _ => True) (fun _ _ => True)
    known := by
  refine wp_each trivial fun request _ now _ => ?_
  rw [wp_catching]
  exact wp_mono (settles_serve services request) (fun _ _ _ => trivial) fun _ _ _ => trivial

end

structure Informed (platform : RunPlatform) (store : RunStore) (actor : Nat)
    (known : Delivery) : Prop where
  own : ∀ receipt, known.taken = some (platform.task, some receipt) →
    store.history.leases actor = some receipt
  seen : Deliveries.Current store actor platform.task → ∀ status token,
    known.seen = some (status, token) → store.run.status = status ∧ store.run.fencingToken = token ∨
        store.history.awaited = false
  met : Deliveries.Current store actor platform.task → known.met = true →
    store.history.awaited = false

structure Held (platform : RunPlatform) (store : RunStore) (known : Nat → Delivery) : Prop where
  running : store.history.awaited = true → store.run.status = .running
  pending : NotLost platform store
  issued : ∀ actor receipt, store.history.leases actor = some receipt → receipt < store.generated
  informed : ∀ actor, Informed platform store actor (known actor)

section

variable {platform : RunPlatform} {store later : RunStore} {known : Nat → Delivery} {actor : Nat}
  {about : Delivery}

theorem Held.transfer (held : Held platform store known) (run : later.run = store.run)
  (awaited : later.history.awaited = store.history.awaited)
  (leases : later.history.leases = store.history.leases)
  (generated : store.generated ≤ later.generated)
  (kept : store.history.awaited = true → platform.task ∈ store.queue.pending →
    platform.task ∈ later.queue.pending)
  (leased : ∀ receipt, later.queue.receipts.get? platform.task = some receipt →
    store.queue.receipts.get? platform.task = some receipt) :
  Held platform later known := by
  have current : ∀ actor, Deliveries.Current later actor platform.task →
    Deliveries.Current store actor platform.task := by
    rintro actor ⟨receipt, under, holds⟩
    exact ⟨receipt, leased receipt under, by rw [← leases]; exact holds⟩
  constructor
  · rw [awaited, run]
    exact held.running
  · intro waits
    rw [awaited] at waits
    exact kept waits (held.pending waits)
  · rw [leases]
    exact fun actor receipt holds => (held.issued actor receipt holds).trans_le generated
  intro actor
  obtain ⟨own, seen, met⟩ := held.informed actor
  constructor
  · rw [leases]
    exact own
  · rw [awaited, run]
    exact fun holds => seen (current actor holds)
  rw [awaited]
  exact fun holds => met (current actor holds)

theorem Held.write (held : Held platform store known) (actor : Nat) (site : WriteSite)
  (updated : Run) : Held platform (store.write actor site updated) known where
  running impossible := by cases impossible
  pending impossible := by cases impossible
  issued := held.issued
  informed other := ⟨(held.informed other).own, fun _ _ _ _ => .inr rfl, fun _ _ => rfl⟩

variable {actor : Nat} {input : RunInput} {op : RunOp}

section

variable (held : Held platform store known)

include held

theorem Held.enqueue {payload : String}
  (guarded : HandedOver platform store actor (.enqueue payload) input) :
  Held platform (platform.answer actor input store (.enqueue payload)).2 known := by
  have receipts := store.queue.receipts_enqueue input.now payload
  by_cases resumed : payload = platform.task ∧ store.resumedByApproval
  · obtain ⟨rfl, resumed⟩ := resumed
    have idle : ∀ other, ¬ Deliveries.Current
      (platform.answer actor input store (.enqueue platform.task)).2 other platform.task := by
      rintro other ⟨receipt, under, _⟩
      simp only [RunPlatform.answer] at under
      rw [receipts, guarded.1 ⟨rfl, resumed⟩] at under
      cases under
    exact
      { running := fun _ => resumed.1
        pending := fun _ => enqueue_pending _ _ _
        issued := held.issued
        informed := fun other =>
          ⟨(held.informed other).own, fun current => absurd current (idle other),
            fun current => absurd current (idle other)⟩ }
  refine held.transfer rfl ?_ rfl le_rfl (fun _ present => pending_enqueue present _ _)
    ?_
  · simp [RunPlatform.answer, resumed]
  intro receipt under
  simp only [RunPlatform.answer] at under
  rwa [receipts] at under

theorem Held.dequeue (actor : Nat) (input : RunInput) :
  Held platform (platform.answer actor input store .dequeue).2
    (update known actor {}) := by
  have fresh : ∀ other, other ≠ actor →
    Deliveries.Current (platform.answer actor input store .dequeue).2 other platform.task →
    Deliveries.Current store other platform.task := by
    rintro other distinct ⟨receipt, under, holds⟩
    simp only [RunPlatform.answer] at under holds
    rw [update_of_ne distinct] at holds
    rcases receipts_dequeue under with ⟨_, rfl⟩ | before
    · exact absurd (held.issued other _ holds) (lt_irrefl _)
    exact ⟨receipt, before, holds⟩
  constructor
  · exact held.running
  · intro waits
    have present := held.pending waits
    simp only [RunPlatform.answer]
    rw [pending_dequeue]
    exact present
  · intro other receipt holds
    simp only [RunPlatform.answer] at holds ⊢
    by_cases same : other = actor
    · subst same
      rw [update_self] at holds
      cases holds
      exact Nat.lt_succ_self _
    rw [update_of_ne same] at holds
    exact (held.issued other receipt holds).trans (Nat.lt_succ_self _)
  apply Pool.forall_update
  · exact ⟨by rintro _ ⟨⟩, by rintro _ _ _ ⟨⟩, by rintro _ ⟨⟩⟩
  intro other distinct
  obtain ⟨own, seen, met⟩ := held.informed other
  refine ⟨?_, fun current => seen (fresh other distinct current),
    fun current => met (fresh other distinct current)⟩
  intro receipt taken
  simp only [RunPlatform.answer]
  rw [update_of_ne distinct]
  exact own receipt taken

theorem Held.acknowledge (input : RunInput) {payload : String} {receipt : Option Nat}
  (allowed : (contract platform.task).allowed (known actor) (.acknowledge payload receipt)) :
  Held platform (platform.answer actor input store (.acknowledge payload receipt)).2 known := by
  refine held.transfer rfl rfl rfl le_rfl ?_ fun found under => receipts_acknowledge under
  intro waits present
  refine pending_acknowledge present fun same holds => ?_
  obtain ⟨found, rfl⟩ := isSome_iff_exists.mp holds.1
  have taken : (known actor).taken = some (platform.task, some found) := same ▸ allowed.1
  have current : Deliveries.Current store actor platform.task :=
    ⟨found, holds.2, (held.informed actor).own found taken⟩
  exact absurd (waits.symm.trans ((held.informed actor).met current (allowed.2 same))) Bool.noConfusion

theorem Held.answer (guarded : HandedOver platform store actor op input)
  (allowed : (contract platform.task).allowed (known actor) op) (other : op ≠ .dequeue) :
  Held platform (platform.answer actor input store op).2 known := by
  have still : ∀ {later : RunStore}, later.run = store.run → later.queue = store.queue →
    later.history.awaited = store.history.awaited →
    later.history.leases = store.history.leases → store.generated ≤ later.generated →
    Held platform later known :=
    fun run queue awaited leases generated =>
      held.transfer run awaited leases generated (fun _ => by rw [queue]; exact id)
        (fun _ => by rw [queue]; exact id)
  cases op with
  | dequeue => exact absurd rfl other
  | compareAndSet site expected updated =>
    simp only [RunPlatform.answer]
    split
    · exact held.write actor site updated
    exact held
  | enqueue payload => exact held.enqueue guarded
  | acknowledge payload receipt => exact held.acknowledge input allowed
  | retry payload receipt =>
    refine held.transfer rfl rfl rfl le_rfl ?_ fun _ under => receipts_retry under
    intro _ present
    simp only [RunPlatform.answer]
    rw [pending_retry]
    exact present
  | extendLease payload receipt =>
    refine held.transfer rfl rfl rfl le_rfl ?_ ?_
    · intro _ present
      simp only [RunPlatform.answer]
      rw [pending_extendLease]
      exact present
    intro found under
    simp only [RunPlatform.answer] at under
    rwa [receipts_extendLease] at under
  | generateId kind => exact still rfl rfl rfl rfl (Nat.le_succ _)
  | addApproval approval =>
    simp only [RunPlatform.answer]
    split
    · exact held
    exact still rfl rfl rfl rfl le_rfl
  | getApproval approvalId =>
    simp only [RunPlatform.answer]
    split
    · exact held
    exact held
  | compareAndSetApproval expected updated =>
    simp only [RunPlatform.answer]
    split
    · exact held
    split
    · exact still rfl rfl rfl rfl le_rfl
    exact held
  | tryClaimIncident owner claimedAt leaseExpiresAt =>
    simp only [RunPlatform.answer]
    split
    · exact held
    exact still rfl rfl rfl rfl le_rfl
  | _ => exact still rfl rfl rfl rfl le_rfl

theorem Held.learn {learned : Delivery} (informed : Informed platform store actor learned) :
  Held platform store (update known actor learned) where
  running := held.running
  pending := held.pending
  issued := held.issued
  informed := Pool.forall_update informed fun other _ => held.informed other

end

theorem Informed.getRun (informed : Informed platform store actor about)
  (running : store.history.awaited = true → store.run.status = .running) (read : RunRead) :
  Informed platform store actor (about.after (.getRun read) (.ok store.run)) where
  own := informed.own
  seen _ status token same := by
    cases same
    exact .inl ⟨rfl, rfl⟩
  met current met := by
    simp only [Delivery.after, or_eq_true, decide_eq_true_eq] at met
    rcases met with before | moved
    · exact informed.met current before
    exact eq_false_iff.mpr fun waits => moved (running waits)

theorem Informed.refused (informed : Informed platform store actor about) {site : WriteSite}
  {expected : RunStatus} {updated : Run} (refused : ¬ store.accepts expected updated) :
  Informed platform store actor
    (about.after (.compareAndSet site expected updated) (.ok false)) where
  own := informed.own
  seen := informed.seen
  met current met := by
    simp only [Delivery.after, Bool.or_false, Bool.or_eq_true] at met
    rcases met with before | outdated
    · exact informed.met current before
    cases read : about.seen with
    | none =>
      rw [Delivery.outdates, read] at outdated
      cases outdated
    | some seen =>
      rw [Delivery.outdates, read, Option.any_some, decide_eq_true_eq] at outdated
      rcases informed.seen current seen.1 seen.2 read with ⟨status, token⟩ | idle
      · exact absurd ⟨status.trans outdated.1, by rw [token]; exact outdated.2⟩ refused
      exact idle

theorem Held.answered (held : Held platform store known)
  (guarded : HandedOver platform store actor op input)
  (allowed : (contract platform.task).allowed (known actor) op) :
  Held platform (platform.answer actor input store op).2
    (update known actor ((known actor).after op (platform.answer actor input store op).1)) := by
  have plainly : op ≠ .dequeue →
    (known actor).after op (platform.answer actor input store op).1 = known actor →
    Held platform (platform.answer actor input store op).2
      (update known actor ((known actor).after op (platform.answer actor input store op).1)) := by
    intro other same
    rw [same, update_eq_self]
    exact held.answer guarded allowed other
  cases op with
  | dequeue => exact held.dequeue actor input
  | popReceipt payload =>
    refine (held.answer guarded allowed RunOp.noConfusion).learn ?_
    obtain ⟨own, seen, met⟩ := held.informed actor
    refine ⟨?_, seen, met⟩
    intro receipt taken
    simp only [Delivery.after, RunPlatform.answer, some.injEq, Prod.mk.injEq] at taken
    obtain ⟨rfl, kept⟩ := taken
    exact guarded.2 rfl receipt kept
  | getRun read => exact held.learn ((held.informed actor).getRun held.running read)
  | compareAndSet site expected updated =>
    simp only [RunPlatform.answer]
    split
    · refine (held.write actor site updated).learn ?_
      exact ⟨(held.informed actor).own, fun _ _ _ _ => .inr rfl, fun _ _ => rfl⟩
    rename_i refused
    exact held.learn ((held.informed actor).refused refused)
  | _ => exact plainly RunOp.noConfusion rfl

theorem Held.hidden (held : Held platform store known)
  (guarded : HandedOver platform store actor op input)
  (allowed : (contract platform.task).allowed (known actor) op) (outage : Outage) :
  Held platform (platform.answer actor input store op).2
    (update known actor ((known actor).after op (.error (.outage outage)))) := by
  have plainly : op ≠ .dequeue →
    (known actor).after op (.error (.outage outage)) = known actor →
    Held platform (platform.answer actor input store op).2
      (update known actor ((known actor).after op (.error (.outage outage)))) := by
    intro other same
    rw [same, update_eq_self]
    exact held.answer guarded allowed other
  cases op with
  | dequeue => exact held.dequeue actor input
  | _ => exact plainly RunOp.noConfusion rfl

theorem Held.unanswered (held : Held platform store known) (op : RunOp) (outage : Outage) :
  Held platform store
    (update known actor ((known actor).after op (.error (.outage outage)))) := by
  cases op with
  | dequeue => exact held.learn ⟨fun _ => nofun, fun _ _ _ => nofun, fun _ => nofun⟩
  | _ => exact (update_eq_self actor known).symm ▸ held

theorem adheres (platform : RunPlatform) :
  Pool.Adheres platform.component (fun _ => contract platform.task) (Held platform)
    (HandedOver platform) := by
  intro store known actor op input held guarded allowed
  refine ⟨_, ⟨rfl, fun error failed => platform.respond_unowned actor input store op failed⟩, ?_⟩
  simp only [RunPlatform.component]
  rcases platform.respond_cases actor input store op with same | ⟨outage, same⟩ | ⟨outage, same⟩
  · rw [same]
    exact held.answered guarded allowed
  · rw [same]
    exact held.unanswered op outage
  rw [same]
  exact held.hidden guarded allowed outage

end

theorem held_created (platform : RunPlatform) (createdAt : Nat)
  (inputArtifactIds : Option (List (Option String))) :
  Held platform (RunStore.created createdAt inputArtifactIds) (fun _ => {}) where
  running impossible := by cases impossible
  pending impossible := by cases impossible
  issued _ _ impossible := by cases impossible
  informed _ := ⟨fun _ => nofun, fun _ _ _ => nofun, fun _ => nofun⟩

/-- A Run that an approval has resumed is never lost once it is in the queue, as long as
no delivery of its task is outstanding when it is put there and every worker settles its
own delivery. -/
theorem resumed_run_kept (platform : RunPlatform) (createdAt : Nat)
  (inputArtifactIds : Option (List (Option String))) (services : Nat → RunServices)
  (requests : Nat → List RunRequest) (schedule : List (Nat × RunInput))
  (handed : (runPool platform createdAt inputArtifactIds services requests).Along
    platform.component (HandedOver platform) schedule) :
  NotLost platform
    ((runPool platform createdAt inputArtifactIds services requests).run platform.component
    schedule).state := by
  have ready : (runPool platform createdAt inputArtifactIds services requests).Ready
    (fun _ => contract platform.task) (Held platform) (fun _ _ _ => True)
    (fun _ _ _ => True) (fun _ => {}) :=
    ⟨held_created platform createdAt inputArtifactIds,
      fun actor => settles_actor (services actor) (requests actor)⟩
  obtain ⟨_, held, _⟩ := Pool.run_ready (adheres platform) ready schedule handed
  exact held.pending

section

def separateProcesses : RunPlatform where
  generatedId kind _ := kind
  task := "run-1"

def reviewed : RunServices where
  orchestrator :=
    { policy := some ⟨[{ name := "review", decision := .ask }]⟩, approvals := some {} }
  controller := { workerId := "worker-1", thresholds := [] }

def queueWorkDecide : Nat → List RunRequest
  | 0 => [.announceQueued]
  | 1 => [.work]
  | _ => [.decide "approval" .approved]

def asksForBash : RunInput where
  stream :=
    { events := [{ yields := .toolRequest "call-1" "Bash" Dict.empty false }]
      ending := { yields := .ok () } }

def queuedAndExecuted : List (Nat × RunInput) :=
  List.replicate 2 (0, asksForBash) ++ List.replicate 30 (1, asksForBash)

/-- The approver enqueues the Run before the worker acknowledges the delivery that paused
it, so the enqueue adds nothing and the acknowledgement takes the task away. -/
def acknowledgedLate : List (Nat × RunInput) :=
  queuedAndExecuted ++ List.replicate 10 (2, asksForBash) ++ List.replicate 2 (1, asksForBash)

theorem resumed_run_lost : ∃ platform createdAt inputArtifactIds services requests schedule,
  ¬ NotLost platform ((runPool platform createdAt inputArtifactIds services requests).run
  platform.component schedule).state := by
  refine ⟨separateProcesses, 0, some [], fun _ => reviewed, queueWorkDecide, acknowledgedLate, ?_⟩
  intro kept
  exact absurd (kept rfl) (by decide)

def approvedLater : List (Nat × RunInput) :=
  queuedAndExecuted ++ List.replicate 2 (1, asksForBash) ++ List.replicate 10 (2, asksForBash)

/-- The approval arrives after the acknowledgement. -/
theorem resumed_run_kept_later : NotLost separateProcesses
  ((runPool separateProcesses 0 (some []) (fun _ => reviewed) queueWorkDecide).run
  separateProcesses.component approvedLater).state :=
  resumed_run_kept separateProcesses 0 (some []) (fun _ => reviewed) queueWorkDecide
    approvedLater (by decide)

end

end Resumption

end AgentHarness
