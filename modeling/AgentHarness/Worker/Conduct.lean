import AgentHarness.Interaction.Footprint
import AgentHarness.Worker.Actors

/-!
What each part of an execution can come to do.
-/

namespace AgentHarness

open Interaction Program Ports Policy

namespace RunOp

def IsPlain : RunOp → Prop
  | .getRun read => read = .observed
  | .appendEvent source event =>
    source = .harness ∧ event.subagent = none ∧ ∀ status, event.type ≠ .run status
  | .clock | .listEvents | .waitIntervals | .provision | .resolvePolicy
  | .resolveWorkspacePolicy | .restoreLatest | .stageForRun _ | .workspaceOutputs
  | .executeRuntime | .service _ => True
  | _ => False

def IsOffQueue : RunOp → Prop
  | .dequeue | .rememberReceipt _ _ | .readReceipt _ | .popReceipt _ | .acknowledge _ _
  | .retry _ _ | .extendLease _ _ => False
  | _ => True

def IsQuiet (op : RunOp) : Prop :=
  op.IsOffQueue ∧
    match op with
    | .getRun read => read = .observed
    | .compareAndSet _ _ _ | .findByToolCall _ => False
    | _ => True

theorem IsPlain.isQuiet {op : RunOp} (plain : op.IsPlain) : op.IsQuiet := by
  cases op with
  | getRun read => exact ⟨trivial, plain⟩
  | _ => first | exact plain.elim | exact ⟨trivial, trivial⟩

end RunOp

theorem transition_open {current target next : RunStatus}
  (passed : transition current target = .ok next) : current.isTerminal = false := by
  unfold transition at passed
  split at passed
  · cases passed
  rename_i valid
  exact Bool.eq_false_iff.mpr fun terminal => valid (.inl terminal)

namespace RunOrchestrator

abbrev Unowned (error : Failure) : Prop := isOwnershipConflict error = false

def plainWork : Footprint RunOp Failure where
  permitted := RunOp.IsPlain
  foreseen := Unowned
  raises := Unowned
  passes _ := id

def quietWork : Footprint RunOp Failure where
  permitted := RunOp.IsQuiet
  foreseen := Unowned
  raises := Unowned
  passes _ := id

def offQueueWork : Footprint RunOp Failure where
  permitted := RunOp.IsOffQueue
  foreseen := Unowned
  raises _ := True
  passes _ _ := trivial

theorem plainWork_quiet : plainWork.Covers quietWork :=
  ⟨fun _ => RunOp.IsPlain.isQuiet, fun _ => id, fun _ => id⟩

theorem plainWork_offQueue : plainWork.Covers offQueueWork :=
  ⟨fun _ plain => plain.isQuiet.1, fun _ => id, fun _ _ => trivial⟩

variable {α : Type} {footprint : Footprint RunOp Failure}

theorem within_call {op : RunOp} (permit : footprint.permitted op) :
  (Ports.call op).Within footprint :=
  within_perform permit id

theorem within_succeeds {program : RunProgram Unit} (within : program.Within footprint) :
  (succeeds program).Within footprint :=
  (within.bind fun _ => within_done true).catching fun _ _ => within_done false

section

theorem plain_append {type : EventType} (unrelated : ({ type } : RunEvent).subagent = none)
  (other : ∀ status, type ≠ .run status) : (append type).Within plainWork :=
  within_call ⟨rfl, unrelated, other⟩

theorem plain_other (name : String) : (append (.other name)).Within plainWork :=
  plain_append rfl fun _ => nofun

theorem plain_service (used : Service) : (service used).Within plainWork := within_call trivial

theorem plain_observe : (Ports.call (.getRun .observed)).Within plainWork := within_call rfl

theorem plain_executeRuntime : (Ports.call .executeRuntime).Within plainWork := within_call trivial

theorem plain_serviceIf (configured : Bool) (used : Service) :
  (serviceIf configured used).Within plainWork := by
  unfold serviceIf
  split
  · exact plain_service used
  exact within_done ()

theorem plain_pollCancellation (polls : Nat) : (pollCancellation polls).Within plainWork := by
  induction polls with
  | zero => exact within_done ()
  | succ polls ih =>
    refine Within.bind (within_call rfl) fun latest => ?_
    split
    · exact within_raised rfl
    exact ih

theorem plain_awaitCancellable {operation : RunProgram α} (plain : operation.Within plainWork) :
  (awaitCancellable operation).Within plainWork :=
  Within.bind (within_call trivial) fun polls => (plain_pollCancellation polls).bind (fun _ => plain)

theorem plain_publishOutput (priorEvents : List RunEvent) (output : String × Bool) :
  (publishOutput priorEvents output).Within plainWork := by
  unfold publishOutput
  split
  · exact within_done ()
  refine (plain_service _).bind fun _ => ?_
  split
  · exact within_done ()
  exact (plain_service _).bind fun _ => plain_append rfl (fun _ => nofun)

variable (orchestrator : RunOrchestrator)

theorem plain_publishWorkspaceOutputs : orchestrator.publishWorkspaceOutputs.Within plainWork := by
  unfold publishWorkspaceOutputs
  split
  · exact within_done ()
  refine Within.bind (within_call trivial) fun outputs => ?_
  split
  · exact within_raised rfl
  exact Within.bind (within_call trivial) fun events => within_each (plain_publishOutput events)

theorem plain_archiveWorkspace : archiveWorkspace.Within plainWork :=
  (plain_service _).bind fun _ => plain_other _

theorem plain_recoverWorkspace (archiveOnComplete : Bool) :
  (orchestrator.recoverWorkspace archiveOnComplete).Within plainWork := by
  refine (within_succeeds (plain_service _)).bind fun collected => ?_
  split
  · refine (within_succeeds orchestrator.plain_publishWorkspaceOutputs).bind (fun _ => ?_)
    split
    · exact within_succeeds plain_archiveWorkspace
    exact within_done true
  exact within_done false

theorem plain_recoverFailedWorkspace (vars : ExecutionLocals) :
  (orchestrator.recoverFailedWorkspace vars).Within plainWork := by
  unfold recoverFailedWorkspace
  split
  · exact orchestrator.plain_recoverWorkspace _
  exact within_done true

theorem plain_ensureQuotaAdmission : orchestrator.ensureQuotaAdmission.Within plainWork := by
  unfold ensureQuotaAdmission
  split
  · exact (plain_serviceIf _ _).bind fun _ => plain_service _
  exact within_done ()

theorem plain_releaseTerminalQuota (result : Run) :
  (orchestrator.releaseTerminalQuota result).Within plainWork :=
  plain_serviceIf _ _

theorem plain_restoreWorkspace (policy : WorkspacePolicy) :
  (orchestrator.restoreWorkspace policy).Within plainWork := by
  unfold restoreWorkspace
  split
  · refine Within.bind (within_call trivial) (fun restored => ?_)
    split
    · exact plain_other _
    exact within_done ()
  exact within_done ()

theorem plain_stageIds (inputArtifactIds : List String) :
  (orchestrator.stageIds inputArtifactIds).Within plainWork := by
  unfold stageIds
  split
  · exact within_raised rfl
  split
  · exact Within.bind (within_call trivial) fun staged => within_each (fun _ => plain_other _)
  exact within_done ()

theorem plain_stageInputs (run : Run) : (orchestrator.stageInputs run).Within plainWork := by
  unfold stageInputs
  split
  · exact within_raised rfl
  split
  · exact orchestrator.plain_stageIds _
  exact within_raised rfl

theorem plain_stageAssets : orchestrator.stageAssets.Within plainWork := by
  unfold stageAssets
  split
  · exact (plain_service _).bind fun _ => plain_other _
  exact within_done ()

theorem plain_resolvePolicy : orchestrator.resolvePolicy.Within plainWork := by
  unfold resolvePolicy
  split
  · exact Within.bind (within_call trivial) fun found => within_done (some found)
  exact within_done _

theorem plain_resolveWorkspacePolicy : orchestrator.resolveWorkspacePolicy.Within plainWork := by
  unfold resolveWorkspacePolicy
  split
  · exact within_call trivial
  exact within_done _

theorem plain_announcePolicy (resolution : Option PolicyResolution) :
  (announcePolicy resolution).Within plainWork := by
  unfold announcePolicy
  split
  · exact plain_other _
  exact within_done ()

theorem plain_lookUpRequest (loop : EventLoop) (event : RuntimeEvent) :
  (lookUpRequest loop event).Within plainWork := by
  unfold lookUpRequest
  split
  · split
    · exact Within.bind (within_call trivial) fun _ => within_done ()
    exact within_done ()
  exact within_done ()

theorem plain_publishArtifact (handle : SandboxHandle) (path : String) :
  (publishArtifact handle path).Within plainWork :=
  (plain_serviceIf _ _).bind (fun _ => (plain_service _).bind (fun _ =>
    (plain_service _).bind fun _ => plain_append rfl fun _ => nofun))

theorem plain_completeMessageIf (activeMessage : Bool) :
  (completeMessageIf activeMessage).Within plainWork := by
  unfold completeMessageIf
  split
  · exact plain_append rfl fun _ => nofun
  exact within_done ()

theorem plain_noticesCancellation (polls : Nat) : (noticesCancellation polls).Within plainWork := by
  refine ((plain_pollCancellation polls).bind fun _ => within_done false).catching
    (fun error fails => ?_)
  split
  · exact within_done true
  exact within_raised fails

theorem plain_exportQuality (result : Run) :
  (orchestrator.exportQuality result).Within plainWork := by
  unfold exportQuality
  split
  · exact (within_succeeds (plain_service _)).bind fun _ => within_done ()
  exact within_done ()

theorem plain_retainWorkspace (vars : ExecutionLocals) (handle : SandboxHandle) :
  (retainWorkspace vars handle).Within plainWork := by
  unfold retainWorkspace
  split
  · exact (within_succeeds (plain_other _)).bind fun _ => within_done _
  exact within_done handle

theorem plain_provision : (Ports.call .provision).Within plainWork := within_call trivial

theorem plain_prepare (run : Run) : (orchestrator.prepare run).Within plainWork := by
  apply Routine.Within.bind (Routine.within_lift (plain_service _))
  intro _
  apply Routine.Within.bind (Routine.within_lift (plain_serviceIf _ _))
  intro _
  apply Routine.Within.bind (Routine.within_lift orchestrator.plain_ensureQuotaAdmission)
  intro _
  apply Routine.Within.bind (Routine.within_lift (plain_awaitCancellable plain_provision))
  intro handle
  apply Routine.Within.bind (Routine.within_assign _)
  intro _
  apply Routine.Within.bind (Routine.within_lift orchestrator.plain_resolvePolicy)
  intro resolution
  apply Routine.Within.bind (Routine.within_lift orchestrator.plain_resolveWorkspacePolicy)
  intro workspacePolicy
  apply Routine.Within.bind (Routine.within_assign _)
  intro _
  apply Routine.Within.bind (Routine.within_lift (orchestrator.plain_restoreWorkspace _))
  intro _
  apply Routine.Within.bind (Routine.within_lift (plain_serviceIf _ _))
  intro _
  apply Routine.Within.bind (Routine.within_lift (orchestrator.plain_stageInputs run))
  intro _
  apply Routine.Within.bind (Routine.within_lift orchestrator.plain_stageAssets)
  intro _
  apply Routine.Within.bind (Routine.within_lift (plain_awaitCancellable (plain_service _)))
  intro _
  apply Routine.Within.bind (Routine.within_assign _)
  intro _
  exact Routine.within_value _

theorem plain_settleResult : orchestrator.settleResult.Within plainWork := by
  refine Routine.Within.bind Routine.within_locals fun vars => ?_
  split
  · exact Routine.Within.bind (Routine.within_assign _)
      (fun _ => Routine.within_lift (plain_serviceIf _ _))
  exact Routine.within_value ()

theorem plain_settleFailedResult : orchestrator.settleFailedResult.Within plainWork := by
  refine Routine.Within.bind Routine.within_locals fun vars => ?_
  split
  · exact Routine.Within.bind (Routine.within_lift (within_succeeds (plain_serviceIf _ _)))
      (fun _ => Routine.within_assign _)
  exact Routine.within_value ()

theorem plain_archiveCompleted : orchestrator.archiveCompleted.Within plainWork := by
  refine Routine.Within.bind Routine.within_locals fun vars => ?_
  split
  · refine Routine.Within.bind (Routine.within_lift (within_succeeds plain_archiveWorkspace)) (fun archived =>
      Routine.Within.bind (Routine.within_assign _) fun _ => ?_)
    split
    · exact Routine.within_value ()
    exact Routine.within_lift (within_call ⟨rfl, rfl, fun _ => nofun⟩)
  exact Routine.within_assign _

theorem plain_recover : orchestrator.recover.Within plainWork :=
  Routine.Within.bind Routine.within_locals (fun vars =>
    Routine.Within.bind (Routine.within_lift (orchestrator.plain_recoverFailedWorkspace vars))
      fun _ => Routine.within_assign _)

theorem plain_cleanUp : orchestrator.cleanUp.Within plainWork := by
  refine Routine.Within.bind (Routine.within_lift (plain_serviceIf _ _)) (fun _ =>
    Routine.Within.bind Routine.within_locals fun vars => ?_)
  split
  · exact Routine.within_value ()
  exact Routine.Within.bind (Routine.within_lift (plain_retainWorkspace vars _))
    (fun _ => Routine.within_lift (plain_service _))

end

section

theorem offQueue_of_plain {program : RunProgram α} (plain : program.Within plainWork) :
  program.Within offQueueWork :=
  plain.mono plainWork_offQueue

theorem offQueue_advance (site : WriteSite) (lost : Conflict) (current : Run)
  (target : RunStatus) (errorCode announcedCode : Option ErrorCode) :
  (advance site lost current target errorCode announcedCode).Within offQueueWork := by
  refine Within.bind ?_ fun status => ?_
  · unfold ensure
    split
    · exact within_done _
    exact within_raised trivial
  refine Within.bind (within_call trivial) fun updatedAt => ?_
  refine Within.bind (within_call trivial) fun changed => ?_
  split
  · exact Within.bind (within_call trivial) fun _ => within_done _
  exact within_raised trivial

theorem offQueue_failActiveSubagents (errorCode : ErrorCode) :
  (failActiveSubagents errorCode).Within offQueueWork :=
  Within.bind (within_call trivial) fun _ => within_each (fun _ => within_call trivial)

theorem offQueue_startRunning (isResume : Bool) (run : Run) :
  (startRunning isResume run).Within offQueueWork := by
  unfold startRunning
  split
  · exact within_call trivial
  exact (offQueue_advance _ _ _ _ _ _).bind fun _ => within_done ()

theorem offQueue_cancelFromLoop (event : RuntimeEvent) (latest : Run) :
  (cancelFromLoop event latest).Within offQueueWork := by
  refine Within.bind ?_ (fun _ => (offQueue_failActiveSubagents _).bind
    fun _ => offQueue_advance _ _ _ _ _ _)
  unfold passOnStarted
  split
  · exact within_call trivial
  exact within_done ()

theorem offQueue_request (service : ApprovalService) (toolCallId : String) (inline : Bool) :
  (service.request toolCallId inline).Within offQueueWork := by
  refine Within.bind (within_call trivial) fun found => ?_
  split
  · unfold ApprovalService.adopt
    split
    · exact Within.bind (within_call trivial) fun _ => within_done _
    exact within_done _
  refine Within.bind (within_call trivial) fun run => ?_
  split
  · exact within_raised trivial
  refine Within.bind (within_call trivial) fun now => ?_
  refine Within.bind (within_call trivial) fun approvalId => ?_
  refine Within.bind ?_ fun _ => ?_
  · unfold ApprovalService.registerIf
    split
    · exact within_call trivial
    exact within_done ()
  refine Within.bind (within_call trivial) fun _ => ?_
  refine Within.bind (within_call trivial) fun _ => ?_
  exact (offQueue_advance _ _ _ _ _ _).bind fun _ => within_done _

variable (orchestrator : RunOrchestrator)

theorem offQueue_askApproval (loop : EventLoop) (toolCallId : String) :
  (orchestrator.askApproval loop toolCallId).Within offQueueWork := by
  unfold askApproval
  split
  · exact within_raised trivial
  refine (offQueue_request _ _ _).bind fun approval => ?_
  split
  · refine (offQueue_of_plain (plain_completeMessageIf _)).bind (fun _ => ?_)
    exact Within.bind (within_call trivial) fun _ => within_done _
  exact Within.bind (within_call trivial) fun _ => within_done _

variable (handle : SandboxHandle)

section

variable (policy : Option PolicyEngine)

include policy

theorem offQueue_recordEvent (loop : EventLoop) (event : RuntimeEvent) :
  (orchestrator.recordEvent handle policy loop event).Within offQueueWork := by
  have passes : ∀ event : RuntimeEvent, (passOn event).Within offQueueWork :=
    fun _ => within_call trivial
  unfold recordEvent
  split
  · refine Within.bind ?_ (fun _ => within_done _)
    split
    · exact offQueue_of_plain (plain_publishArtifact _ _)
    exact passes _
  · refine (passes _).bind (fun _ => ?_)
    dsimp only
    split
    · exact Within.bind (within_call trivial) fun _ => within_done _
    · exact orchestrator.offQueue_askApproval _ _
    exact Within.bind (within_call trivial) fun _ => within_done _
  exact (passes _).bind fun _ => within_done _

theorem offQueue_handleEvent (loop : EventLoop) (event : RuntimeEvent) :
  (orchestrator.handleEvent handle policy loop event).Within offQueueWork := by
  apply Routine.Within.bind (Routine.within_lift (within_call trivial))
  intro latest
  split
  · apply Routine.Within.bind (Routine.within_lift (offQueue_cancelFromLoop event latest))
    intro result
    exact Routine.within_value _
  split
  · exact Routine.within_value _
  apply Routine.Within.bind (Routine.within_assign _)
  intro _
  apply Routine.Within.bind (Routine.within_lift (offQueue_of_plain (plain_serviceIf _ _)))
  intro _
  apply Routine.Within.bind
    (Routine.within_lift (offQueue_of_plain (plain_lookUpRequest loop event)))
  intro _
  exact Routine.within_lift (orchestrator.offQueue_recordEvent _ _ _ _)

theorem offQueue_drainQueue (events : List RuntimeEvent) (loop : EventLoop) :
  (orchestrator.drainQueue handle policy loop events).Within offQueueWork := by
  induction events generalizing loop with
  | nil => exact Routine.within_raise trivial
  | cons event rest ih =>
    apply Routine.Within.bind (orchestrator.offQueue_handleEvent handle policy loop event)
    intro outcome
    cases outcome with
    | finished result => exact Routine.within_value _
    | goOn => exact ih _

theorem offQueue_followRuntime (ending : RuntimeWait (Except Outage Unit))
  (waits : List (RuntimeWait RuntimeEvent)) (loop : EventLoop) :
  (orchestrator.followRuntime handle policy ending loop waits).Within offQueueWork := by
  have notices : ∀ polls, (Routine.lift (noticesCancellation polls) :
    ExecutionRoutine Bool).Within offQueueWork :=
    fun polls => Routine.within_lift (offQueue_of_plain (plain_noticesCancellation polls))
  induction waits generalizing loop with
  | nil =>
    apply Routine.Within.bind (notices ending.polls)
    intro noticed
    split
    · exact orchestrator.offQueue_drainQueue _ _ _ _
    split
    · exact Routine.within_value _
    exact Routine.within_raise trivial
  | cons wait rest ih =>
    apply Routine.Within.bind (notices wait.polls)
    intro noticed
    split
    · exact orchestrator.offQueue_drainQueue _ _ _ _
    apply Routine.Within.bind (orchestrator.offQueue_handleEvent _ _ _ _)
    intro outcome
    cases outcome with
    | finished result => exact Routine.within_value _
    | goOn =>
      dsimp only
      split
      · exact Routine.within_value _
      exact ih _

end

theorem offQueue_complete : orchestrator.complete.Within offQueueWork := by
  apply Routine.Within.bind (orchestrator.plain_settleResult.mono plainWork_offQueue)
  intro _
  apply Routine.Within.bind (Routine.within_lift (offQueue_of_plain (plain_service _)))
  intro _
  apply Routine.Within.bind
    (Routine.within_lift (offQueue_of_plain orchestrator.plain_publishWorkspaceOutputs))
  intro _
  apply Routine.Within.bind (orchestrator.plain_archiveCompleted.mono plainWork_offQueue)
  intro _
  apply Routine.Within.bind (Routine.within_lift (within_call trivial))
  intro latest
  apply Routine.within_lift
  unfold concludeSuccess
  split
  · exact offQueue_advance _ _ _ _ _ _
  split
  · exact within_done _
  exact offQueue_advance _ _ _ _ _ _

theorem perform_owned (run : Run) : ∃ rest : Run → ExecutionRoutine Run,
  orchestrator.perform run = (Routine.lift (takeOwnership run)).bind rest ∧
  ∀ owned, (rest owned).Within offQueueWork := by
  refine ⟨_, rfl, fun owned => ?_⟩
  apply Routine.Within.bind ((orchestrator.plain_prepare owned).mono plainWork_offQueue)
  rintro ⟨handle, resolution⟩
  apply Routine.Within.bind (Routine.within_lift (offQueue_startRunning _ _))
  intro _
  apply Routine.Within.bind (Routine.within_lift (offQueue_of_plain (plain_announcePolicy _)))
  intro _
  apply Routine.Within.bind (Routine.within_lift (offQueue_of_plain (plain_service _)))
  intro _
  apply Routine.Within.bind (Routine.within_assign _)
  intro _
  apply Routine.Within.bind (Routine.within_lift (within_call trivial))
  intro stream
  apply Routine.Within.bind (orchestrator.offQueue_followRuntime _ _ _ _ _)
  intro result
  cases result with
  | some result => exact Routine.within_value _
  | none => exact orchestrator.offQueue_complete

end

end RunOrchestrator

theorem RunPlatform.respond_unowned (platform : RunPlatform) (actor : Nat) (input : RunInput)
  (store : RunStore) (op : RunOp) {error : Failure}
  (failed : (platform.respond actor input store op).1 = .error error) :
  RunOrchestrator.isOwnershipConflict error = false := by
  have answered : (platform.answer actor input store op).1 = .error error →
    RunOrchestrator.isOwnershipConflict error = false := by
    intro failed
    cases op <;> simp only [RunPlatform.answer] at failed
    case compareAndSet => split at failed <;> cases failed
    case addApproval =>
      split at failed
      · cases failed
        rfl
      cases failed
    case getApproval =>
      split at failed
      · cases failed
        rfl
      cases failed
    case compareAndSetApproval =>
      split at failed
      · cases failed
        rfl
      split at failed <;> cases failed
    case tryClaimIncident => split at failed <;> cases failed
    all_goals cases failed
  rcases platform.respond_cases actor input store op with same | ⟨_, same⟩ | ⟨_, same⟩
  · exact answered (by rw [← same]; exact failed)
  · rw [same] at failed
    cases failed
    rfl
  rw [same] at failed
  cases failed
  rfl

section

variable {Knowledge : Type} {contract : Contract RunOp RunOp.Answer Failure Knowledge}
  {known : Knowledge}

theorem RunOrchestrator.wp_succeeds {program : RunProgram Unit} {post : Knowledge → Bool → Prop}
  (ends : program.wp contract (fun later _ => post later true)
    (fun later _ => post later false) known) :
  (succeeds program).wp contract post (fun _ _ => True) known := by
  unfold succeeds
  rw [wp_catching, wp_bind]
  exact ends

theorem RunWorker.wp_round (worker : RunWorker) (finished : String → Knowledge → Prop)
  (takes : takeTask.wp contract (fun _ _ => True) (fun _ _ => True) known)
  (executes : ∀ payload known, (worker.executeTask payload).wp contract
    (fun later _ => finished payload later) (fun _ _ => True) known)
  (acknowledges : ∀ payload known, finished payload known →
    (acknowledge payload).wp contract (fun _ _ => True) (fun _ _ => True) known)
  (retries : ∀ payload known,
    (retry payload).wp contract (fun _ _ => True) (fun _ _ => True) known) :
  worker.round.wp contract (fun _ _ => True) (fun _ _ => True) known := by
  have settles : ∀ payload known, (worker.handleTask payload).wp contract
    (fun _ _ => True) (fun _ _ => True) known := by
    intro payload known
    unfold handleTask
    rw [wp_do]
    have ends : (RunOrchestrator.succeeds (worker.executeTask payload)).wp contract
      (fun later executed => executed = true → finished payload later) (fun _ _ => True) known :=
      RunOrchestrator.wp_succeeds (wp_mono (executes payload known) (fun _ _ ended _ => ended)
        (by rintro _ _ _ ⟨⟩))
    refine wp_mono ends ?_ fun _ _ _ => trivial
    intro later executed ended
    rw [wp_do]
    have presents : (RunOrchestrator.succeeds
      (if executed then acknowledge payload else retry payload)).wp contract
        (fun _ _ => True) (fun _ _ => True) later := by
      apply RunOrchestrator.wp_succeeds
      cases executed with
      | true => exact acknowledges payload later (ended rfl)
      | false => exact retries payload later
    exact wp_mono presents (fun _ _ _ => trivial) fun _ _ _ => trivial
  unfold round
  rw [wp_do, wp_catching]
  refine wp_mono takes (fun later taken _ => ?_) fun _ _ _ => trivial
  cases taken with
  | none => exact trivial
  | some payload => exact settles payload later

end

end AgentHarness
