import AgentHarness.Interaction.Upkeep
import AgentHarness.Worker.Conduct

/-!
How everyone but the reaper works on a Run.
-/

namespace AgentHarness

open Interaction Program Ports Policy RunOrchestrator ApprovalService Routine RunWorker

namespace RunOp

def IsCommon : RunOp → Prop
  | .compareAndSet _ _ _ | .upsertIncident _ | .tryClaimIncident _ _ _ => False
  | .appendEvent source event =>
    event.announced = none ∧ (source = .harness → event.subagent = none)
  | _ => True

end RunOp

def Announces (expected : RunStatus) (updated : Run) (event : RunEvent) : Prop :=
  expected.isTerminal = false ∧
    (RunStatus.Allowed expected updated.status ∧ event.type = .run updated.status ∨
      updated.status = expected ∧ event.type = .runRecovered expected)

variable {Knowledge : Type} {contract : Contract RunOp RunOp.Answer Failure Knowledge}
  {invariant : Knowledge → Prop}

structure Announcing (contract : Contract RunOp RunOp.Answer Failure Knowledge)
    (invariant : Knowledge → Prop) : Prop where
  foreseen : ∀ known op answer later, contract.learns known op answer later →
    ∀ error, answer = .error error → Unowned error
  call : ∀ known op, invariant known → op.IsCommon → contract.allowed known op ∧
    ∀ answer later, contract.learns known op answer later → invariant later
  write : ∀ {α : Type} (site : WriteSite) (expected : RunStatus) (updated : Run)
    (event : RunEvent) (next otherwise : RunProgram α), Announces expected updated event →
    next.Upholds contract invariant → otherwise.Upholds contract invariant →
      ((Ports.call (.compareAndSet site expected updated)).bind (fun changed =>
        if changed then (Ports.call (.appendEvent .harness event)).bind fun _ => next
        else otherwise)).Upholds contract invariant

structure Practice (contract : Contract RunOp RunOp.Answer Failure Knowledge)
    (invariant : Knowledge → Prop) : Prop extends Announcing contract invariant where
  close : ∀ (code : ErrorCode) (site : WriteSite) (current : Run) (target : RunStatus)
    (errorCode : Option ErrorCode), ((failActiveSubagents code).bind
        fun _ => RunOrchestrator.move site current target errorCode).Upholds contract invariant

theorem RunOp.IsPlain.isCommon {op : RunOp} (plain : op.IsPlain) : op.IsCommon := by
  cases op with
  | appendEvent source event =>
    obtain ⟨_, unrelated, other⟩ := plain
    exact ⟨RunEvent.announced_eq_none other, fun _ => unrelated⟩
  | _ => first | exact plain.elim | trivial

variable {α : Type}

theorem upholds_transition {current target : RunStatus} {next : RunStatus → RunProgram α}
  (rest : current.isTerminal = false → RunStatus.Allowed current target →
    (next target).Upholds contract invariant) :
  ((ensure (transition current target)).bind next).Upholds contract invariant := by
  unfold ensure
  split
  · rename_i status passed
    obtain ⟨rfl, allowed⟩ := transition_ok passed
    exact rest (transition_open passed) allowed
  exact upholds_raised _

theorem upholds_succeeds {program : RunProgram Unit}
  (upholds : program.Upholds contract invariant) :
  (succeeds program).Upholds contract invariant :=
  (upholds.bind fun _ => upholds_done true).catching fun _ => upholds_done false

namespace Announcing

variable (practice : Announcing contract invariant)

include practice

theorem plain_preserved : plainWork.Preserves contract invariant := by
  intro known op holds plain
  obtain ⟨allowed, later⟩ := practice.call known op holds plain.isCommon
  exact ⟨allowed, fun answer now learned =>
    ⟨later answer now learned, practice.foreseen known op answer now learned⟩⟩

theorem upholds_plain {program : RunProgram α} (plain : program.Within plainWork) :
  program.Upholds contract invariant :=
  plain.upholds practice.plain_preserved

theorem upholds_plainly {routine : ExecutionRoutine α} (plain : routine.Within plainWork) :
  routine.Upholds contract invariant :=
  plain.upholds practice.plain_preserved

theorem upholds_call {op : RunOp} (common : op.IsCommon) :
  (Ports.call op).Upholds contract invariant :=
  upholds_perform _ fun known holds => practice.call known op holds common

theorem upholds_read : (Ports.call (.getRun .carried)).Upholds contract invariant :=
  practice.upholds_call trivial

theorem upholds_listEvents : (Ports.call .listEvents).Upholds contract invariant :=
  practice.upholds_call trivial

theorem upholds_append {type : EventType} (silent : ({ type } : RunEvent).announced = none)
  (unrelated : ({ type } : RunEvent).subagent = none) : (append type).Upholds contract invariant :=
  practice.upholds_call ⟨silent, fun _ => unrelated⟩

theorem upholds_advance (site : WriteSite) (lost : Conflict) (current : Run)
  (target : RunStatus) (errorCode announcedCode : Option ErrorCode) :
  (advance site lost current target errorCode announcedCode).Upholds contract invariant := by
  apply upholds_transition
  intro active allowed
  refine Upholds.bind (practice.upholds_call trivial) fun updatedAt => ?_
  exact practice.write _ _ _ _ _ _ ⟨active, .inl ⟨allowed, rfl⟩⟩ (upholds_done _)
    (upholds_raised _)

theorem upholds_reclaim (current : Run) (active : current.status.isTerminal = false) :
  (reclaim current).Upholds contract invariant := by
  refine Upholds.bind (practice.upholds_call trivial) fun updatedAt => ?_
  exact practice.write _ _ _ _ _ _ ⟨active, .inr ⟨rfl, rfl⟩⟩ (upholds_done _)
    (upholds_raised _)

section

variable (service : ApprovalService)

theorem upholds_request (toolCallId : String) (inline : Bool) :
  (service.request toolCallId inline).Upholds contract invariant := by
  refine Upholds.bind (practice.upholds_call trivial) fun found => ?_
  cases found with
  | some existing =>
    dsimp only
    unfold adopt
    split
    · exact Upholds.bind (practice.upholds_call trivial) fun _ => upholds_done _
    exact upholds_done _
  | none =>
    refine Upholds.bind (practice.upholds_call trivial) fun run => ?_
    split
    · exact upholds_raised _
    refine Upholds.bind (practice.upholds_call trivial) fun now => ?_
    refine Upholds.bind (practice.upholds_call trivial) fun approvalId => ?_
    have registers : (registerIf inline approvalId).Upholds contract
      invariant := by
      unfold registerIf
      split
      · exact practice.upholds_call trivial
      exact upholds_done ()
    apply registers.bind
    intro _
    refine Upholds.bind (practice.upholds_call trivial) fun _ => ?_
    refine Upholds.bind (practice.upholds_append rfl rfl) fun _ => ?_
    exact (practice.upholds_advance _ _ _ _ _ _).bind fun _ => upholds_done _

variable (current : ApprovalRequest)

theorem upholds_closePending : (closePending current).Upholds contract invariant := by
  refine Upholds.bind (practice.upholds_call trivial) fun changed => ?_
  split
  · refine Upholds.bind (practice.upholds_append rfl rfl) (fun _ => ?_)
    exact Upholds.bind (practice.upholds_call trivial) fun _ => upholds_done _
  exact practice.upholds_call trivial

variable (approvalId : String)

theorem upholds_cancelPending : (cancelPending approvalId).Upholds contract invariant := by
  refine Upholds.bind (practice.upholds_call trivial) fun current => ?_
  split
  · exact upholds_done _
  exact Upholds.bind (practice.upholds_call trivial)
    (fun _ => practice.upholds_closePending current)

theorem upholds_ensureInlineRunResumed : ensureInlineRunResumed.Upholds contract invariant := by
  refine Upholds.bind (practice.upholds_call trivial) fun run => ?_
  split
  · exact upholds_done ()
  apply Upholds.catching ((practice.upholds_advance _ _ _ _ _ _).bind fun _ => upholds_done ())
  intro error
  unfold resumedElsewhere
  split
  · refine Upholds.bind (practice.upholds_call trivial) (fun refreshed => ?_)
    split
    · exact upholds_raised _
    exact upholds_done ()
  exact upholds_raised _

theorem upholds_rejectExpired (run : Run) :
  (rejectExpired current run).Upholds contract invariant := by
  unfold rejectExpired
  split
  · exact upholds_done ()
  refine Upholds.bind (practice.upholds_append rfl rfl) fun _ => ?_
  split
  · exact (practice.upholds_advance _ _ _ _ _ _).bind fun _ => upholds_done ()
  exact upholds_done ()

theorem upholds_expire : (expire current).Upholds contract invariant := by
  refine Upholds.bind (practice.upholds_call trivial) fun changed => ?_
  split
  · refine Upholds.bind (practice.upholds_call trivial) (fun run => ?_)
    refine Upholds.bind (practice.upholds_append rfl rfl) fun _ => ?_
    refine Upholds.bind (practice.upholds_call trivial) fun hasLocalWaiter => ?_
    have concludes : (resumeOrReject current run hasLocalWaiter).Upholds contract
      invariant := by
      unfold resumeOrReject
      split
      · exact practice.upholds_ensureInlineRunResumed
      exact practice.upholds_rejectExpired current run
    apply concludes.bind
    intro _
    exact Upholds.bind (practice.upholds_call trivial) fun _ => upholds_done _
  exact practice.upholds_call trivial

theorem upholds_pollDecision (rounds : Nat) :
  (pollDecision approvalId rounds).Upholds contract invariant := by
  induction rounds with
  | zero => exact upholds_done none
  | succ rounds ih =>
    refine Upholds.bind (practice.upholds_call trivial) fun current => ?_
    split
    · refine Upholds.bind ?_ (fun _ => upholds_done _)
      unfold decidedStatus
      split
      · exact practice.upholds_ensureInlineRunResumed.bind fun _ => upholds_done _
      exact upholds_done _
    refine Upholds.bind (practice.upholds_call trivial) fun run => ?_
    split
    · exact (practice.upholds_closePending current).bind fun _ => upholds_done _
    refine Upholds.bind (practice.upholds_call trivial) fun now => ?_
    split
    · exact (practice.upholds_expire current).bind fun _ => upholds_done _
    refine Upholds.bind (practice.upholds_call trivial) fun waiter => ?_
    split
    · exact upholds_done _
    exact ih

theorem upholds_waitForDecision : (waitForDecision approvalId).Upholds contract invariant := by
  refine Upholds.bind (practice.upholds_call trivial) fun waiter => ?_
  split
  · exact upholds_raised _
  refine Upholds.bind (practice.upholds_call trivial) fun rounds => ?_
  exact (practice.upholds_pollDecision approvalId rounds).ensuring
    (practice.upholds_call trivial)

theorem upholds_reapExpired (limit : Nat) :
  (ApprovalService.reapExpired limit).Upholds contract invariant := by
  have reaps : ∀ due, (reapEach due).Upholds contract invariant := by
    intro due
    induction due with
    | nil => exact upholds_done 0
    | cons approval rest ih =>
      have first : (reapDue approval).Upholds contract invariant := by
        refine Upholds.bind (practice.upholds_call trivial) fun current => ?_
        split
        · exact upholds_done 0
        refine Upholds.bind (practice.upholds_call trivial) fun now => ?_
        split
        · exact upholds_done 0
        exact (practice.upholds_expire current).bind fun _ => upholds_done _
      exact first.bind fun _ => ih.bind (fun _ => upholds_done _)
  unfold ApprovalService.reapExpired
  split
  · exact upholds_raised _
  refine Upholds.bind (practice.upholds_call trivial) fun now => ?_
  exact Upholds.bind (practice.upholds_call trivial) reaps

theorem upholds_enqueueResumedRun : service.enqueueResumedRun.Upholds contract invariant := by
  unfold enqueueResumedRun
  split
  · exact upholds_done ()
  exact Upholds.bind (practice.upholds_call trivial) fun _ => practice.upholds_call trivial

theorem upholds_carryOut (run : Run) (decision : ApprovalStatus) :
  (service.carryOut current run decision).Upholds contract invariant := by
  unfold carryOut
  split
  · apply Upholds.bind (practice.upholds_advance _ _ _ _ _ _)
    intro _
    split
    · exact upholds_done ()
    exact practice.upholds_enqueueResumedRun service
  have tells : (toolResultUnless current.inline current.toolCallId).Upholds
    contract invariant := by
    unfold toolResultUnless
    split
    · exact upholds_done ()
    exact practice.upholds_append rfl rfl
  apply tells.bind
  intro _
  exact Upholds.bind (practice.upholds_advance _ _ _ _ _ _) fun _ => upholds_done ()

theorem upholds_decide (decision : ApprovalStatus) :
  (service.decide approvalId decision).Upholds contract invariant := by
  unfold ApprovalService.decide
  split
  · exact upholds_raised _
  refine Upholds.bind (practice.upholds_call trivial) fun current => ?_
  split
  · unfold redecide
    split
    · split
      · exact practice.upholds_ensureInlineRunResumed.bind fun _ => upholds_done _
      exact (practice.upholds_enqueueResumedRun service).bind fun _ => upholds_done _
    exact upholds_done _
  split
  · exact upholds_raised _
  refine Upholds.bind (practice.upholds_call trivial) fun decidedAt => ?_
  split
  · exact (practice.upholds_expire current).bind fun _ => upholds_raised _
  refine Upholds.bind (practice.upholds_call trivial) fun changed => ?_
  split
  · refine Upholds.bind (practice.upholds_call trivial) (fun run => ?_)
    apply Upholds.bind (practice.upholds_call ?_)
    · intro _
      apply (practice.upholds_carryOut service current run decision).bind
      intro _
      exact Upholds.bind (practice.upholds_call trivial) fun _ => upholds_done _
    exact ⟨rfl, fun _ => rfl⟩
  exact upholds_raised _

end

theorem upholds_completeCancellation (service : RunService) (requestedFrom : RunStatus)
  (current : Run) (cancelling : current.status = .cancelling) :
  (service.completeCancellation requestedFrom current).Upholds contract invariant := by
  unfold RunService.completeCancellation
  split
  · exact upholds_done _
  apply upholds_transition
  intro active allowed
  refine Upholds.bind (practice.upholds_call trivial) fun updatedAt => ?_
  rw [cancelling] at active allowed
  refine practice.write _ _ _ _ _ _ ⟨active, .inl ⟨allowed, rfl⟩⟩ ?_ ?_
  · exact (practice.upholds_plain (plain_serviceIf _ _)).bind fun _ => upholds_done _
  refine Upholds.bind (practice.upholds_call trivial) fun latest => ?_
  split
  · exact upholds_done _
  exact upholds_raised _

theorem upholds_cancel (service : RunService) : service.cancel.Upholds contract invariant := by
  refine Upholds.bind (practice.upholds_call trivial) fun current => ?_
  split
  · exact (practice.upholds_plain (plain_serviceIf _ _)).bind fun _ => upholds_done _
  split
  · exact upholds_done _
  apply upholds_transition
  intro active allowed
  refine Upholds.bind (practice.upholds_call trivial) fun updatedAt => ?_
  refine practice.write _ _ _ _ _ _ ⟨active, .inl ⟨allowed, rfl⟩⟩ ?_ ?_
  · exact practice.upholds_completeCancellation service _ _ rfl
  refine Upholds.bind (practice.upholds_call trivial) fun latest => ?_
  split
  · exact upholds_done _
  split
  · exact upholds_raised _
  rename_i cancelling
  exact practice.upholds_completeCancellation service _ _ (not_not.mp cancelling)

section

theorem upholds_takeOwnership (run : Run) : (takeOwnership run).Upholds contract invariant := by
  unfold takeOwnership
  split
  · rename_i active
    apply practice.upholds_reclaim
    rcases active with running | provisioning
    · rw [running]
      rfl
    rw [provisioning]
    rfl
  exact practice.upholds_advance _ _ _ _ _ _

theorem upholds_startRunning (isResume : Bool) (run : Run) :
  (startRunning isResume run).Upholds contract invariant := by
  unfold startRunning
  split
  · exact practice.upholds_append rfl rfl
  exact (practice.upholds_advance _ _ _ _ _ _).bind fun _ => upholds_done ()

theorem upholds_passOn (event : RuntimeEvent) : (passOn event).Upholds contract invariant := by
  apply practice.upholds_call
  refine ⟨?_, nofun⟩
  cases event <;> rfl

end

end Announcing

namespace Practice

variable (practice : Practice contract invariant)

include practice

section

theorem upholds_cancelFromLoop (event : RuntimeEvent) (latest : Run) :
  (cancelFromLoop event latest).Upholds contract invariant := by
  refine Upholds.bind ?_ fun _ => practice.close _ _ _ _ _
  unfold passOnStarted
  split
  · exact practice.upholds_passOn _
  exact upholds_done ()

variable (orchestrator : RunOrchestrator)

theorem upholds_askApproval (loop : EventLoop) (toolCallId : String) :
  (orchestrator.askApproval loop toolCallId).Upholds contract invariant := by
  unfold askApproval
  split
  · exact upholds_raised _
  apply (practice.upholds_request _ _ _).bind
  intro approval
  split
  · apply (practice.upholds_plain (plain_completeMessageIf _)).bind
    intro _
    exact Upholds.bind (practice.upholds_call trivial) fun _ => upholds_done _
  exact Upholds.bind (practice.upholds_append rfl rfl) fun _ => upholds_done _

variable (handle : SandboxHandle)

section

variable (policy : Option PolicyEngine)

include policy

theorem upholds_recordEvent (loop : EventLoop) (event : RuntimeEvent) :
  (orchestrator.recordEvent handle policy loop event).Upholds contract invariant := by
  unfold recordEvent
  split
  · refine Upholds.bind ?_ (fun _ => upholds_done _)
    split
    · exact practice.upholds_plain (plain_publishArtifact _ _)
    exact practice.upholds_passOn _
  · apply (practice.upholds_passOn _).bind
    intro _
    dsimp only
    split
    · exact Upholds.bind (practice.upholds_append rfl rfl) fun _ => upholds_done _
    · exact practice.upholds_askApproval orchestrator _ _
    exact Upholds.bind (practice.upholds_append rfl rfl) fun _ => upholds_done _
  exact (practice.upholds_passOn _).bind fun _ => upholds_done _

theorem upholds_handleEvent (loop : EventLoop) (event : RuntimeEvent) :
  (orchestrator.handleEvent handle policy loop event).Upholds contract invariant := by
  apply Routine.Upholds.bind (upholds_lift practice.upholds_read)
  intro latest
  split
  · apply Routine.Upholds.bind (upholds_lift (practice.upholds_cancelFromLoop event latest))
    intro result
    exact upholds_value _
  split
  · exact upholds_value _
  apply Routine.Upholds.bind (upholds_assign _)
  intro _
  apply Routine.Upholds.bind (upholds_lift (practice.upholds_plain (plain_serviceIf _ _)))
  intro _
  apply Routine.Upholds.bind
    (upholds_lift (practice.upholds_plain (plain_lookUpRequest loop event)))
  intro _
  exact upholds_lift (practice.upholds_recordEvent orchestrator _ _ _ _)

theorem upholds_drainQueue (events : List RuntimeEvent) (loop : EventLoop) :
  (orchestrator.drainQueue handle policy loop events).Upholds contract invariant := by
  induction events generalizing loop with
  | nil => exact upholds_raise _
  | cons event rest ih =>
    apply Routine.Upholds.bind (practice.upholds_handleEvent orchestrator handle policy loop event)
    intro outcome
    cases outcome with
    | finished result => exact upholds_value _
    | goOn => exact ih _

theorem upholds_followRuntime (ending : RuntimeWait (Except Outage Unit))
  (waits : List (RuntimeWait RuntimeEvent)) (loop : EventLoop) :
  (orchestrator.followRuntime handle policy ending loop waits).Upholds contract invariant := by
  have notices : ∀ polls, (lift (noticesCancellation polls) :
    ExecutionRoutine Bool).Upholds contract invariant :=
    fun polls => upholds_lift (practice.upholds_plain (plain_noticesCancellation polls))
  induction waits generalizing loop with
  | nil =>
    apply Routine.Upholds.bind (notices ending.polls)
    intro noticed
    split
    · exact practice.upholds_drainQueue orchestrator _ _ _ _
    split
    · exact upholds_value _
    exact upholds_raise _
  | cons wait rest ih =>
    apply Routine.Upholds.bind (notices wait.polls)
    intro noticed
    split
    · exact practice.upholds_drainQueue orchestrator _ _ _ _
    apply Routine.Upholds.bind (practice.upholds_handleEvent orchestrator _ _ _ _)
    intro outcome
    cases outcome with
    | finished result => exact upholds_value _
    | goOn =>
      dsimp only
      split
      · exact upholds_value _
      exact ih _

end

theorem upholds_complete : orchestrator.complete.Upholds contract invariant := by
  apply Routine.Upholds.bind (practice.upholds_plainly orchestrator.plain_settleResult)
  intro _
  apply Routine.Upholds.bind (upholds_lift (practice.upholds_plain (plain_service _)))
  intro _
  apply Routine.Upholds.bind
    (upholds_lift (practice.upholds_plain orchestrator.plain_publishWorkspaceOutputs))
  intro _
  apply Routine.Upholds.bind (practice.upholds_plainly orchestrator.plain_archiveCompleted)
  intro _
  apply Routine.Upholds.bind (upholds_lift practice.upholds_read)
  intro latest
  apply upholds_lift
  unfold concludeSuccess
  split
  · exact practice.upholds_advance _ _ _ _ _ _
  split
  · exact upholds_done _
  exact practice.upholds_advance _ _ _ _ _ _

theorem upholds_perform (run : Run) : (orchestrator.perform run).Upholds contract invariant := by
  apply Routine.Upholds.bind (upholds_lift (practice.upholds_takeOwnership run))
  intro owned
  apply Routine.Upholds.bind (practice.upholds_plainly (orchestrator.plain_prepare owned))
  rintro ⟨handle, resolution⟩
  apply Routine.Upholds.bind (upholds_lift (practice.upholds_startRunning _ _))
  intro _
  apply Routine.Upholds.bind
    (upholds_lift (practice.upholds_plain (plain_announcePolicy _)))
  intro _
  apply Routine.Upholds.bind (upholds_lift (practice.upholds_plain (plain_service _)))
  intro _
  apply Routine.Upholds.bind (upholds_assign _)
  intro _
  apply Routine.Upholds.bind (upholds_lift (practice.upholds_plain plain_executeRuntime))
  intro stream
  apply Routine.Upholds.bind (practice.upholds_followRuntime orchestrator _ _ _ _ _)
  intro result
  cases result with
  | some result => exact upholds_value _
  | none => exact practice.upholds_complete orchestrator

theorem upholds_handleTimeout : orchestrator.handleTimeout.Upholds contract invariant := by
  apply Routine.Upholds.bind (practice.upholds_plainly orchestrator.plain_recover)
  intro _
  apply Routine.Upholds.bind (upholds_lift practice.upholds_read)
  intro latest
  apply upholds_lift
  unfold concludeTimeout
  split
  · exact practice.close _ _ _ _ _
  split
  · exact upholds_done _
  exact practice.close _ _ _ _ _

theorem upholds_handleResultError (errorCode : String) :
  (orchestrator.handleResultError errorCode).Upholds contract invariant := by
  apply Routine.Upholds.bind (practice.upholds_plainly orchestrator.plain_settleFailedResult)
  intro _
  apply Routine.Upholds.bind (practice.upholds_plainly orchestrator.plain_recover)
  intro _
  apply Routine.Upholds.bind (upholds_lift practice.upholds_read)
  intro latest
  apply upholds_lift
  unfold concludeResultError
  split
  · exact practice.upholds_advance _ _ _ _ _ _
  split
  · exact upholds_done _
  exact practice.upholds_advance _ _ _ _ _ _

theorem upholds_handleUnexpectedError (error : Failure) :
  (handleUnexpectedError error).Upholds contract invariant := by
  apply practice.upholds_read.bind
  intro latest
  split
  · exact practice.upholds_advance _ _ _ _ _ _
  split
  · exact upholds_done _
  split
  · exact upholds_done _
  split
  · exact upholds_done _
  exact practice.close _ _ _ _ _

theorem upholds_handleFailure (error : Failure) :
  (orchestrator.handleFailure error).Upholds contract invariant := by
  unfold handleFailure
  split
  · exact practice.upholds_handleTimeout orchestrator
  · exact practice.upholds_handleTimeout orchestrator
  · exact practice.upholds_handleResultError orchestrator _
  apply Routine.Upholds.bind (practice.upholds_plainly orchestrator.plain_recover)
  intro _
  exact upholds_lift (practice.upholds_handleUnexpectedError error)

theorem upholds_executeRun : orchestrator.executeRun.Upholds contract invariant := by
  apply practice.upholds_read.bind
  intro run
  split
  · exact upholds_done _
  split
  · exact practice.upholds_advance _ _ _ _ _ _
  split
  · exact upholds_done _
  split
  · exact upholds_raised _
  apply Routine.Upholds.run
  apply Routine.Upholds.ensuring
  · apply Routine.Upholds.catching (practice.upholds_perform orchestrator run)
    exact practice.upholds_handleFailure orchestrator
  exact practice.upholds_plainly orchestrator.plain_cleanUp

theorem upholds_execute : orchestrator.execute.Upholds contract invariant := by
  have releases : ∀ result, (orchestrator.releaseTerminalQuota result).Upholds contract invariant :=
    fun result => practice.upholds_plain (orchestrator.plain_releaseTerminalQuota result)
  unfold execute
  split
  · apply (practice.upholds_plain plain_observe).bind
    intro _
    apply (practice.upholds_plain (plain_service _)).bind
    intro _
    apply (practice.upholds_executeRun orchestrator).bind
    intro result
    apply (releases result).bind
    intro _
    apply (practice.upholds_plain (orchestrator.plain_exportQuality result)).bind
    intro _
    exact upholds_done result
  apply (practice.upholds_executeRun orchestrator).bind
  intro result
  exact (releases result).bind fun _ => upholds_done result

end

section

theorem upholds_round (worker : RunWorker) : worker.round.Upholds contract invariant := by
  have takes : takeTask.Upholds contract invariant := by
    refine Upholds.bind (practice.upholds_call trivial) fun taken => ?_
    split
    · exact upholds_done none
    exact Upholds.bind (practice.upholds_call trivial) fun _ => upholds_done _
  have executes : ∀ payload, (worker.executeTask payload).Upholds contract invariant := by
    intro payload
    unfold executeTask
    split
    · exact (practice.upholds_execute _).bind fun _ => upholds_done ()
    exact practice.upholds_call trivial
  have settles : ∀ (executed : Bool) payload, (if executed then acknowledge payload
        else retry payload).Upholds contract invariant := by
    intro executed payload
    split
    · exact Upholds.bind (practice.upholds_call trivial) fun _ => practice.upholds_call trivial
    exact Upholds.bind (practice.upholds_call trivial) fun _ => practice.upholds_call trivial
  apply (takes.catching fun _ => upholds_done none).bind
  intro taken
  split
  · exact upholds_done ()
  rename_i payload
  apply (upholds_succeeds (executes payload)).bind
  intro executed
  exact (upholds_succeeds (settles executed payload)).bind fun _ => upholds_done ()

theorem upholds_renewLease (payload : String) (rounds : Nat) :
  (RunWorker.renewLease payload rounds).Upholds contract invariant := by
  induction rounds with
  | zero => exact upholds_done ()
  | succ rounds ih =>
    refine Upholds.bind (upholds_succeeds ?_) fun _ => ih
    exact Upholds.bind (practice.upholds_call trivial) fun _ => practice.upholds_call trivial

theorem upholds_awaitInline (services : RunServices) (task toolCallId : String) :
  (services.awaitInline task toolCallId).Upholds contract invariant := by
  apply (practice.upholds_request _ _ _).bind
  intro approval
  apply (practice.upholds_waitForDecision _).bind
  intro status
  split
  · exact upholds_done ()
  exact (practice.upholds_cancelPending _).bind fun _ => upholds_done ()

theorem upholds_announceQueued (service : RunService) :
  service.announceQueued.Upholds contract invariant := by
  apply (practice.upholds_append rfl rfl).bind
  intro _
  exact practice.upholds_call trivial

theorem upholds_actor (services : RunServices) (task : String) (requests : List RunRequest)
  (reaps : services.controller.processOnce.Upholds contract invariant) :
  (services.actor task requests).Upholds contract invariant := by
  apply upholds_each
  intro request
  refine Upholds.catching ?_ fun _ => upholds_done ()
  cases request with
  | announceQueued => exact practice.upholds_announceQueued _
  | work => exact practice.upholds_round _
  | renewLease rounds => exact practice.upholds_renewLease _ rounds
  | awaitInline toolCallId => exact practice.upholds_awaitInline services task toolCallId
  | decide approvalId decision =>
    exact (practice.upholds_decide _ approvalId decision).bind fun _ => upholds_done ()
  | cancel => exact (practice.upholds_cancel _).bind fun _ => upholds_done ()
  | reapExpired limit => exact (practice.upholds_reapExpired limit).bind fun _ => upholds_done ()
  | processOnce => exact reaps.bind fun _ => upholds_done ()

end

end Practice

end AgentHarness
