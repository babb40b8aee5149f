import AgentHarness.Worker.Conduct

/-!
What an executor knows about its hold on the Run.
-/

namespace AgentHarness

open Interaction Program Ports Policy RunOrchestrator RunStatus

structure Hold where
  seen : Option (RunStatus × Nat) := none
  settled : Bool := false

def RunStatus.rests (status : RunStatus) : Bool :=
  status.isTerminal || decide (status = .waitingApproval)

theorem RunStatus.rests_of_terminal {status : RunStatus} (terminal : status.isTerminal = true) :
  status.rests = true := by
  rw [RunStatus.rests, terminal, Bool.true_or]

namespace Hold

def of (run : Run) : Option (RunStatus × Nat) := some (run.status, run.fencingToken)

def after (known : Hold) : (op : RunOp) → Except Failure op.Answer → Hold
  | .getRun .carried, .ok run => { seen := of run, settled := known.settled || run.status.rests }
  | .compareAndSet _ _ updated, .ok true => { seen := of updated, settled := updated.status.rests }
  | .compareAndSet _ _ _, .ok false => { known with settled := true }
  | .compareAndSet _ _ _, .error _ => {}
  | .findByToolCall _, .ok found =>
    { known with
      settled := known.settled || found.any (fun approval => approval.status = .pending) }
  | _, _ => known

def contract (task : String) : Contract RunOp RunOp.Answer Failure Hold where
  allowed known op :=
    match op with
    | .compareAndSet _ expected updated =>
      expected.isTerminal = false ∧
        ∃ token, known.seen = some (expected, token) ∧ updated.fencingToken = token + 1
    | .acknowledge payload _ => payload = task → known.settled = true
    | _ => True
  learns known op answer later :=
    later = known.after op answer ∧
      ∀ error, answer = .error error → isOwnershipConflict error = false

def contracts (task : String) (executor actor : Nat) : Contract RunOp RunOp.Answer Failure Hold :=
  if actor = executor then contract task else Pool.unrestricted

theorem contracts_self (task : String) (executor : Nat) :
  contracts task executor executor = contract task := if_pos rfl

variable {task : String} {known : Hold}

abbrev Told (later : Hold) (error : Failure) : Prop :=
  isOwnershipConflict error = true → later.settled = true

theorem told_of_unowned {later : Hold} {error : Failure}
  (unowned : RunOrchestrator.Unowned error) : Told later error :=
  fun ownership => absurd (unowned.symm.trans ownership) Bool.noConfusion

theorem after_quiet {op : RunOp} (quiet : op.IsQuiet) (answer : Except Failure op.Answer) :
  known.after op answer = known := by
  obtain ⟨off, quiet⟩ := quiet
  cases op with
  | getRun read =>
    cases quiet
    cases answer with
    | ok run | error error => rfl
  | compareAndSet site expected updated | findByToolCall toolCallId => exact quiet.elim
  | _ => rfl

theorem quiet_preserves (kept : Hold) :
  quietWork.Preserves (contract task) (fun known => known = kept) := by
  rintro known op rfl permit
  constructor
  · obtain ⟨off, quiet⟩ := permit
    cases op with
    | compareAndSet site expected updated => exact quiet.elim
    | acknowledge payload receipt => exact off.elim
    | _ => trivial
  rintro answer later ⟨rfl, foreseen⟩
  exact ⟨after_quiet permit answer, foreseen⟩

section

variable {α β : Type} {footprint : Footprint RunOp Failure} {program : RunProgram α}
  {post : Hold → β → Prop}

theorem wp_quiet (quiet : program.Within quietWork) {post : Hold → α → Prop}
  (ends : ∀ value, post known value) : program.wp (contract task) post Told known :=
  wp_mono (quiet.wp (quiet_preserves known) rfl)
    (fun _ value same => same ▸ ends value)
    (fun _ _ ended => told_of_unowned ended.2)

theorem wp_plain (plain : program.Within plainWork) {post : Hold → α → Prop}
  (ends : ∀ value, post known value) : program.wp (contract task) post Told known :=
  wp_quiet (plain.mono RunOrchestrator.plainWork_quiet) ends

theorem wp_quiet_bind {next : α → RunProgram β} (quiet : program.Within quietWork)
  (rest : ∀ value, (next value).wp (contract task) post Told known) :
  (program.bind next).wp (contract task) post Told known := by
  rw [wp_bind]
  exact wp_quiet quiet rest

theorem wp_plain_bind {next : α → RunProgram β} (plain : program.Within plainWork)
  (rest : ∀ value, (next value).wp (contract task) post Told known) :
  (program.bind next).wp (contract task) post Told known :=
  wp_quiet_bind (plain.mono RunOrchestrator.plainWork_quiet) rest

structure Read (later : Hold) (run : Run) : Prop where
  seen : later.seen = of run
  settled : run.status.rests = true → later.settled = true

theorem wp_getRun : (Ports.call (.getRun .carried)).wp (contract task)
  (fun later run => Read later run ∧ (known.settled = true → later.settled = true)) Told
    known := by
  rw [wp_perform]
  refine ⟨trivial, ?_, ?_⟩
  · rintro run later ⟨rfl, _⟩
    refine ⟨⟨rfl, fun rests => ?_⟩, fun settled => ?_⟩
    · simp [after, rests]
    simp [after, settled]
  rintro error later ⟨_, foreseen⟩
  exact told_of_unowned (foreseen error rfl)

theorem wp_read {next : Run → RunProgram β} (rest : ∀ (run : Run) later, Read later run →
    (next run).wp (contract task) post Told later) :
  ((call (.getRun .carried)).bind next).wp (contract task) post Told known := by
  rw [wp_bind]
  exact wp_mono wp_getRun (fun later run read => rest run later read.1) fun _ _ => id

variable {vars : ExecutionLocals}

abbrev Keeps (task : String) (routine : ExecutionRoutine α) (post : Hold → α → Prop)
  (known : Hold) (vars : ExecutionLocals) : Prop :=
  routine.wp (contract task) (fun later _ result => post later result)
    (fun later _ error => Told later error) known vars

theorem keeps_lift {post : Hold → α → Prop} (keeps : program.wp (contract task) post Told known) :
  Keeps task (Routine.lift program) post known vars :=
  (Routine.wp_lift program).mpr keeps

variable {next : α → ExecutionRoutine β} {first : ExecutionRoutine α}

theorem keeps_bind {between : Hold → α → Prop} (keeps : Keeps task first between known vars)
  (rest : ∀ later now result, between later result → Keeps task (next result) post later now) :
  Keeps task (first.bind next) post known vars := by
  unfold Keeps
  rw [Routine.wp_bind]
  exact Routine.wp_mono keeps rest fun _ _ _ => id

theorem keeps_plain {routine : ExecutionRoutine α} (plain : routine.Within plainWork) :
  Keeps task routine (fun later _ => later = known) known vars :=
  Routine.wp_mono ((plain.mono RunOrchestrator.plainWork_quiet).wp (quiet_preserves known) rfl vars)
    (fun _ _ _ => id) fun _ _ _ ended => told_of_unowned ended.2

theorem keeps_plain_bind
  (plain : first.Within plainWork) (rest : ∀ now result, Keeps task (next result) post known now) :
  Keeps task (first.bind next) post known vars :=
  keeps_bind (keeps_plain plain) fun _ now result same => same ▸ rest now result

theorem keeps_assign {change : ExecutionLocals → ExecutionLocals} {next : Unit → ExecutionRoutine β}
  (rest : Keeps task (next ()) post known (change vars)) :
  Keeps task ((Routine.assign change).bind next) post known vars := by
  unfold Keeps
  rw [Routine.wp_bind]
  exact rest

end

theorem quiet_clock : (Ports.call .clock).Within quietWork :=
  RunOrchestrator.within_call ⟨trivial, trivial⟩

theorem quiet_generateId {kind : String} : (Ports.call (.generateId kind)).Within quietWork :=
  RunOrchestrator.within_call ⟨trivial, trivial⟩

theorem quiet_addApproval (approval : ApprovalRequest) :
  (Ports.call (.addApproval approval)).Within quietWork :=
  RunOrchestrator.within_call ⟨trivial, trivial⟩

theorem quiet_registerWaiter (approvalId : String) :
  (Ports.call (.registerWaiter approvalId)).Within quietWork :=
  RunOrchestrator.within_call ⟨trivial, trivial⟩

theorem quiet_append (source : EventSource) (event : RunEvent) :
  (Ports.call (.appendEvent source event)).Within quietWork :=
  RunOrchestrator.within_call ⟨trivial, trivial⟩

theorem quiet_failActiveSubagents (code : ErrorCode) :
  (failActiveSubagents code).Within quietWork :=
  Within.bind (RunOrchestrator.within_call ⟨trivial, trivial⟩)
    (fun _ => within_each fun _ => quiet_append _ _)

section

variable {current : Run}

structure Wrote (later : Hold) (written : Run) : Prop where
  seen : later.seen = of written
  settled : written.status.rests = true → later.settled = true

variable (site : WriteSite) (lost : Conflict)

theorem wp_write {updated : Run} {event : RunEvent}
  (seen : known.seen = of current) (open_ : current.status.isTerminal = false)
  (token : updated.fencingToken = current.fencingToken + 1) :
  ((call (.compareAndSet site current.status updated)).bind (fun changed =>
      if changed then
        (call (.appendEvent .harness event)).bind fun _ => Program.done updated
      else raised (.conflict lost))).wp (contract task)
    (fun later value => value = updated ∧ Wrote later updated) Told known := by
  rw [wp_bind, wp_perform]
  refine ⟨⟨open_, current.fencingToken, seen, token⟩, ?_, ?_⟩
  · rintro changed later ⟨rfl, _⟩
    cases changed with
    | true =>
      rw [if_pos rfl]
      refine wp_quiet_bind (quiet_append _ _) fun _ => ?_
      exact ⟨rfl, rfl, id⟩
    | false => exact fun _ => rfl
  rintro error later ⟨_, foreseen⟩
  exact told_of_unowned (foreseen error rfl)

theorem wp_advance (target : RunStatus)
  (errorCode announcedCode : Option ErrorCode) (seen : known.seen = of current) :
  (advance site lost current target errorCode announcedCode).wp (contract task)
    (fun later value => value.status = target ∧ Wrote later value) Told known := by
  unfold advance
  rw [wp_do]
  unfold ensure
  split
  · rename_i status passed
    obtain ⟨rfl, _⟩ := transition_ok passed
    rw [wp_done]
    refine wp_quiet_bind quiet_clock fun updatedAt => ?_
    refine wp_mono (wp_write site lost seen (transition_open passed) rfl) ?_
      (fun _ _ => id)
    rintro later value ⟨rfl, wrote⟩
    exact ⟨rfl, wrote⟩
  rename_i error refused
  unfold transition at refused
  split at refused
  · cases refused
    exact told_of_unowned rfl
  cases refused

theorem wp_reclaim (seen : known.seen = of current) (open_ : current.status.isTerminal = false) :
  (reclaim current).wp (contract task) (fun later value => Wrote later value)
    Told known := by
  refine wp_quiet_bind quiet_clock fun updatedAt => ?_
  refine wp_mono (wp_write .reclaim _ seen open_ rfl) ?_ fun _ _ => id
  rintro later value ⟨rfl, wrote⟩
  exact wrote

theorem wp_takeOwnership (run : Run) (seen : known.seen = of run) :
  (takeOwnership run).wp (contract task)
    (fun later owned => Wrote later owned) Told known := by
  unfold takeOwnership
  split
  · rename_i active
    refine wp_reclaim seen ?_
    rcases active with running | provisioning
    · rw [running]
      rfl
    rw [provisioning]
    rfl
  exact wp_mono (wp_advance _ _ _ _ _ seen) (fun _ _ ended => ended.2) fun _ _ => id

variable {target : RunStatus}

theorem wp_settle (errorCode announcedCode : Option ErrorCode) (seen : known.seen = of current)
  (rests : target.rests = true) :
  (advance site lost current target errorCode announcedCode).wp (contract task)
    (fun later _ => later.settled = true) Told known :=
  wp_mono (wp_advance site lost target errorCode announcedCode seen)
    (fun _ _ ended => ended.2.settled (ended.1 ▸ rests)) fun _ _ => id

theorem wp_close (code : ErrorCode) (site : WriteSite)
  (errorCode : Option ErrorCode) (seen : known.seen = of current) (rests : target.rests = true) :
  ((failActiveSubagents code).bind
    fun _ => move site current target errorCode).wp (contract task)
    (fun later _ => later.settled = true) Told known := by
  exact wp_quiet_bind (quiet_failActiveSubagents code) fun _ => wp_settle _ _ _ _ seen rests

end

section

open RunOrchestrator

theorem wp_startRunning (isResume : Bool) (owned : Run) (seen : known.seen = of owned) :
  (startRunning isResume owned).wp (contract task) (fun _ _ => True) Told known := by
  unfold startRunning
  split
  · exact wp_quiet (quiet_append _ _) fun _ => trivial
  rw [wp_bind]
  exact wp_mono (wp_advance _ _ _ _ _ seen) (fun _ _ _ => trivial) fun _ _ => id

theorem wp_cancelFromLoop (event : RuntimeEvent) (latest : Run) (seen : known.seen = of latest) :
  (cancelFromLoop event latest).wp (contract task) (fun later _ => later.settled = true)
    Told known := by
  refine wp_quiet_bind ?_ fun _ => wp_close _ _ _ seen rfl
  unfold passOnStarted
  split
  · exact quiet_append _ _
  exact within_done ()

theorem wp_create (service : ApprovalService) (toolCallId : String) (inline : Bool) :
  (service.create toolCallId inline).wp (contract task)
    (fun later _ => later.settled = true) Told known := by
  refine wp_read fun run later read => ?_
  split
  · exact told_of_unowned rfl
  refine wp_quiet_bind quiet_clock fun now => ?_
  refine wp_quiet_bind quiet_generateId fun approvalId => ?_
  refine wp_quiet_bind ?_ fun _ => ?_
  · unfold ApprovalService.registerIf
    split
    · exact within_call ⟨trivial, trivial⟩
    exact within_done ()
  refine wp_quiet_bind (quiet_addApproval _) fun _ => ?_
  refine wp_quiet_bind (quiet_append _ _) fun _ => ?_
  exact (wp_bind _ _).mpr (wp_mono (wp_settle _ _ _ _ read.seen rfl) (fun _ _ => id)
    fun _ _ => id)

theorem wp_request (service : ApprovalService) (toolCallId : String) (inline : Bool) :
  (service.request toolCallId inline).wp (contract task)
    (fun later approval => approval.status = .pending → later.settled = true) Told known := by
  unfold ApprovalService.request
  rw [wp_do_perform]
  refine ⟨trivial, ?_, ?_⟩
  · rintro found later ⟨rfl, _⟩
    cases found with
    | none =>
      exact wp_mono (wp_create service toolCallId inline) (fun _ _ settled _ => settled)
        (fun _ _ => id)
    | some existing =>
      have adopted : existing.status = .pending →
        (known.after (.findByToolCall toolCallId) (.ok (some existing))).settled = true := by
        intro pending
        simp [after, pending]
      dsimp only
      unfold ApprovalService.adopt
      split
      · exact wp_quiet_bind (quiet_registerWaiter _) fun _ => adopted
      exact adopted
  rintro error later ⟨_, foreseen⟩
  exact told_of_unowned (foreseen error rfl)

def Concluded (later : Hold) : EventOutcome → Prop
  | .goOn => True
  | .finished _ => later.settled = true

variable (orchestrator : RunOrchestrator)

theorem wp_askApproval (loop : EventLoop) (toolCallId : String) :
  (orchestrator.askApproval loop toolCallId).wp (contract task) Concluded Told known := by
  unfold askApproval
  split
  · exact told_of_unowned rfl
  rw [wp_do]
  refine wp_mono (wp_request _ toolCallId false) ?_ fun _ _ => id
  intro later approval paused
  split
  · rename_i pending
    refine wp_plain_bind (plain_completeMessageIf _) fun _ => ?_
    refine wp_plain_bind plain_observe fun latest => ?_
    exact paused pending
  exact wp_quiet_bind (quiet_append _ _) fun _ => trivial

variable (handle : SandboxHandle) (policy : Option PolicyEngine)

theorem wp_recordEvent (loop : EventLoop) (event : RuntimeEvent) :
  (orchestrator.recordEvent handle policy loop event).wp (contract task) Concluded Told
    known := by
  unfold recordEvent
  split
  · refine wp_quiet_bind ?_ (fun _ => trivial)
    split
    · exact (plain_publishArtifact _ _).mono plainWork_quiet
    exact quiet_append _ _
  · refine wp_quiet_bind (quiet_append _ _) (fun _ => ?_)
    dsimp only
    split
    · exact wp_quiet_bind (quiet_append _ _) fun _ => trivial
    · exact wp_askApproval orchestrator _ _
    exact wp_quiet_bind (quiet_append _ _) fun _ => trivial
  exact wp_quiet_bind (quiet_append _ _) fun _ => trivial

variable {vars : ExecutionLocals}

theorem keeps_handleEvent (loop : EventLoop) (event : RuntimeEvent) :
  Keeps task (orchestrator.handleEvent handle policy loop event) Concluded known vars := by
  refine keeps_bind (keeps_lift wp_getRun) ?_
  rintro later now latest ⟨read, _⟩
  split
  · refine keeps_bind (keeps_lift (wp_cancelFromLoop event latest read.seen)) ?_
    exact fun _ _ _ => id
  split
  · rename_i terminal
    exact read.settled (rests_of_terminal terminal)
  refine keeps_assign ?_
  refine keeps_plain_bind (Routine.within_lift (plain_serviceIf _ _)) fun now _ => ?_
  refine keeps_plain_bind (Routine.within_lift (plain_lookUpRequest loop event))
    (fun now _ => ?_)
  exact keeps_lift (wp_recordEvent orchestrator handle policy _ event)

def Ended (later : Hold) (result : Option Run) : Prop := result ≠ none → later.settled = true

theorem keeps_drainQueue (events : List RuntimeEvent) (loop : EventLoop) :
  Keeps task (orchestrator.drainQueue handle policy loop events) Ended known vars := by
  induction events generalizing loop known vars with
  | nil => exact told_of_unowned rfl
  | cons event rest ih =>
    refine keeps_bind (keeps_handleEvent orchestrator handle policy loop event) ?_
    intro later now outcome concluded
    cases outcome with
    | finished result => exact fun _ => concluded
    | goOn => exact ih _

theorem keeps_followRuntime
  (ending : RuntimeWait (Except Outage Unit)) (waits : List (RuntimeWait RuntimeEvent))
  (loop : EventLoop) :
  Keeps task (orchestrator.followRuntime handle policy ending loop waits) Ended known vars := by
  induction waits generalizing loop known vars with
  | nil =>
    refine keeps_plain_bind (Routine.within_lift (plain_noticesCancellation _))
      (fun now noticed => ?_)
    split
    · exact keeps_drainQueue orchestrator _ _ _ _
    split
    · exact fun impossible => absurd rfl impossible
    exact told_of_unowned rfl
  | cons wait rest ih =>
    refine keeps_plain_bind (Routine.within_lift (plain_noticesCancellation _))
      (fun now noticed => ?_)
    split
    · exact keeps_drainQueue orchestrator _ _ _ _
    refine keeps_bind (keeps_handleEvent orchestrator _ _ _ _) ?_
    intro later now outcome concluded
    cases outcome with
    | finished result => exact fun _ => concluded
    | goOn =>
      dsimp only
      split
      · exact fun impossible => absurd rfl impossible
      exact ih _

theorem keeps_complete :
  Keeps task orchestrator.complete (fun later _ => later.settled = true) known vars := by
  refine keeps_plain_bind orchestrator.plain_settleResult fun now _ => ?_
  refine keeps_plain_bind (Routine.within_lift (plain_service _)) fun now _ => ?_
  refine keeps_plain_bind (Routine.within_lift orchestrator.plain_publishWorkspaceOutputs)
    (fun now _ => ?_)
  refine keeps_plain_bind orchestrator.plain_archiveCompleted fun now _ => ?_
  refine keeps_bind (keeps_lift wp_getRun) ?_
  rintro later now latest ⟨read, _⟩
  apply keeps_lift
  unfold concludeSuccess
  split
  · exact wp_settle _ _ _ _ read.seen rfl
  split
  · rename_i terminal
    exact read.settled (rests_of_terminal terminal)
  exact wp_settle _ _ _ _ read.seen rfl

theorem keeps_perform (run : Run) (seen : known.seen = of run) :
  Keeps task (orchestrator.perform run) (fun later _ => later.settled = true) known vars := by
  refine keeps_bind (keeps_lift (wp_takeOwnership run seen)) ?_
  intro later now owned wrote
  refine keeps_plain_bind (orchestrator.plain_prepare owned) ?_
  rintro now ⟨handle, resolution⟩
  refine keeps_bind (keeps_lift (wp_startRunning _ owned wrote.seen)) ?_
  intro later now _ _
  refine keeps_plain_bind (Routine.within_lift (plain_announcePolicy _)) fun now _ => ?_
  refine keeps_plain_bind (Routine.within_lift (plain_service _)) fun now _ => ?_
  refine keeps_assign ?_
  refine keeps_plain_bind (Routine.within_lift plain_executeRuntime) fun now stream => ?_
  refine keeps_bind (keeps_followRuntime orchestrator _ _ _ _ _) ?_
  intro later now result ended
  cases result with
  | some result => exact ended nofun
  | none => exact keeps_complete orchestrator

theorem wp_concludeTimeout (latest : Run) (read : Read known latest) :
  (concludeTimeout latest).wp (contract task) (fun later _ => later.settled = true) Told
    known := by
  unfold concludeTimeout
  split
  · exact wp_close _ _ _ read.seen rfl
  split
  · rename_i terminal
    exact read.settled (rests_of_terminal terminal)
  exact wp_close _ _ _ read.seen rfl

theorem wp_concludeResultError (errorCode : String) (latest : Run) (read : Read known latest) :
  (concludeResultError errorCode latest).wp (contract task)
    (fun later _ => later.settled = true) Told known := by
  unfold concludeResultError
  split
  · exact wp_settle _ _ _ _ read.seen rfl
  split
  · rename_i terminal
    exact read.settled (rests_of_terminal terminal)
  exact wp_settle _ _ _ _ read.seen rfl

theorem wp_handleUnexpectedError (error : Failure) (told : Told known error) :
  (handleUnexpectedError error).wp (contract task) (fun later _ => later.settled = true) Told
    known := by
  unfold handleUnexpectedError
  rw [wp_do]
  refine wp_mono wp_getRun ?_ fun _ _ => id
  rintro later latest ⟨read, kept⟩
  split
  · exact wp_settle _ _ _ _ read.seen rfl
  split
  · rename_i cancelled
    exact read.settled (by rw [cancelled]; rfl)
  split
  · rename_i ownership
    exact kept (told ownership)
  split
  · rename_i terminal
    exact read.settled (rests_of_terminal terminal)
  exact wp_close _ _ _ read.seen rfl

theorem keeps_conclusion {conclude : Run → RunProgram Run}
  (concludes : ∀ latest later, Read later latest →
    (conclude latest).wp (contract task) (fun later _ => later.settled = true) Told later) :
  Keeps task
    (orchestrator.recover.bind (fun _ =>
    (Routine.lift (Ports.call (.getRun .carried))).bind
    fun latest => Routine.lift (conclude latest)))
    (fun later _ => later.settled = true) known vars := by
  refine keeps_plain_bind orchestrator.plain_recover fun now _ => ?_
  refine keeps_bind (keeps_lift wp_getRun) ?_
  rintro later now latest ⟨read, _⟩
  exact keeps_lift (concludes latest later read)

theorem keeps_handleFailure (error : Failure) (told : Told known error) :
  Keeps task (orchestrator.handleFailure error) (fun later _ => later.settled = true) known
    vars := by
  unfold handleFailure
  split
  · exact keeps_conclusion orchestrator fun latest _ read => wp_concludeTimeout latest read
  · exact keeps_conclusion orchestrator fun latest _ read => wp_concludeTimeout latest read
  · rename_i errorCode
    refine keeps_plain_bind orchestrator.plain_settleFailedResult fun now _ => ?_
    exact keeps_conclusion orchestrator
      (fun latest _ read => wp_concludeResultError errorCode latest read)
  refine keeps_plain_bind orchestrator.plain_recover fun now _ => ?_
  exact keeps_lift (wp_handleUnexpectedError error told)

theorem wp_executeOwned (run : Run) (seen : known.seen = of run) :
  (orchestrator.executeOwned run).wp (contract task) (fun later _ => later.settled = true)
    Told known := by
  apply Routine.wp_run
  rw [Routine.wp_ensuring, Routine.wp_catching]
  have cleans : ∀ later now, later.settled = true → Keeps task orchestrator.cleanUp
    (fun last _ => last.settled = true) later now :=
    fun later now settled => Routine.wp_mono (keeps_plain orchestrator.plain_cleanUp)
      (fun _ _ _ same => same ▸ settled) fun _ _ _ => id
  have tidies : ∀ later now error, Told later error →
    orchestrator.cleanUp.wp (contract task) (fun last _ _ => Told last error)
      (fun last _ raised => Told last raised) later now :=
    fun later now error told => Routine.wp_mono (keeps_plain orchestrator.plain_cleanUp)
      (fun _ _ _ same => same ▸ told) fun _ _ _ => id
  refine Routine.wp_mono (keeps_perform orchestrator run seen)
    (fun later now _ settled => cleans later now settled) ?_
  intro later now error told
  exact Routine.wp_mono (keeps_handleFailure orchestrator error told)
    (fun last final _ settled => cleans last final settled)
    (fun last final raised told => tidies last final raised told)

theorem wp_executeRun :
  orchestrator.executeRun.wp (contract task) (fun later _ => later.settled = true)
    (fun _ _ => True) known := by
  unfold executeRun
  rw [wp_do]
  refine wp_mono wp_getRun ?_ fun _ _ _ => trivial
  rintro later run ⟨read, _⟩
  split
  · rename_i terminal
    exact read.settled (rests_of_terminal terminal)
  split
  · exact wp_mono (wp_settle _ _ _ _ read.seen rfl) (fun _ _ => id)
      (fun _ _ _ => trivial)
  split
  · rename_i waiting
    exact read.settled (by rw [waiting]; rfl)
  split
  · exact trivial
  exact wp_mono (wp_executeOwned orchestrator run read.seen) (fun _ _ => id)
    (fun _ _ _ => trivial)

theorem wp_afterwards {result : Run} (settled : known.settled = true) :
  (orchestrator.releaseTerminalQuota result).wp (contract task)
    (fun later _ => later.settled = true) (fun _ _ => True) known :=
  wp_mono (wp_plain (orchestrator.plain_releaseTerminalQuota result) fun _ => settled)
    (fun _ _ => id) fun _ _ _ => trivial

theorem wp_execute : orchestrator.execute.wp (contract task) (fun later _ => later.settled = true)
  (fun _ _ => True) known := by
  unfold execute
  split
  · unfold executeObserved
    rw [wp_do_perform]
    refine ⟨trivial, fun observed later _ => ?_, fun _ _ _ => trivial⟩
    rw [wp_do_perform]
    refine ⟨trivial, fun session later _ => ?_, fun _ _ _ => trivial⟩
    rw [wp_do]
    refine wp_mono (wp_executeRun orchestrator) ?_ fun _ _ _ => trivial
    intro later result settled
    rw [wp_do]
    refine wp_mono (wp_afterwards orchestrator settled) ?_ fun _ _ _ => trivial
    intro later _ settled
    rw [wp_do]
    exact wp_mono (wp_plain (orchestrator.plain_exportQuality result) fun _ => settled)
      (fun _ _ => id) fun _ _ _ => trivial
  rw [wp_do]
  refine wp_mono (wp_executeRun orchestrator) ?_ fun _ _ _ => trivial
  intro later result settled
  rw [wp_do]
  exact wp_afterwards orchestrator settled

end

end Hold

end AgentHarness
