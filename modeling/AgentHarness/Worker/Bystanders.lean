import AgentHarness.Worker.Conduct

/-!
Approvals, cancellations and the reapers leave the deliveries of the queue alone.
-/

namespace AgentHarness

open Interaction Program Ports RunOrchestrator Within

theorem offQueue_call {op : RunOp} (permit : op.IsOffQueue) : (Ports.call op).Within offQueueWork :=
  within_call permit

theorem offQueue_serviceIf (configured : Bool) (used : Service) :
  (serviceIf configured used).Within offQueueWork :=
  offQueue_of_plain (plain_serviceIf configured used)

theorem offQueue_ensure {α : Type} (outcome : Except Failure α) :
  (ensure outcome).Within offQueueWork := by
  unfold ensure
  split
  · exact within_done _
  exact within_raised trivial

namespace ApprovalService

variable (current : ApprovalRequest)

theorem offQueue_closePending : (closePending current).Within offQueueWork := by
  refine bind (offQueue_call trivial) fun changed => ?_
  split
  · refine bind (offQueue_call trivial) (fun _ => ?_)
    exact bind (offQueue_call trivial) fun _ => within_done _
  exact offQueue_call trivial

theorem offQueue_cancelPending (approvalId : String) :
  (cancelPending approvalId).Within offQueueWork := by
  refine bind (offQueue_call trivial) fun current => ?_
  split
  · exact within_done _
  exact bind (offQueue_call trivial) fun _ => offQueue_closePending current

theorem offQueue_ensureInlineRunResumed : ensureInlineRunResumed.Within offQueueWork := by
  refine bind (offQueue_call trivial) fun run => ?_
  split
  · exact within_done ()
  refine catching ((offQueue_advance _ _ _ _ _ _).bind fun _ => within_done ())
    (fun error _ => ?_)
  unfold resumedElsewhere
  split
  · refine bind (offQueue_call trivial) (fun refreshed => ?_)
    split
    · exact within_raised trivial
    exact within_done ()
  exact within_raised trivial

theorem offQueue_rejectExpired (run : Run) : (rejectExpired current run).Within offQueueWork := by
  unfold rejectExpired
  split
  · exact within_done ()
  refine bind (offQueue_call trivial) fun _ => ?_
  split
  · exact (offQueue_advance _ _ _ _ _ _).bind fun _ => within_done ()
  exact within_done ()

theorem offQueue_expire : (expire current).Within offQueueWork := by
  refine bind (offQueue_call trivial) fun changed => ?_
  split
  · refine bind (offQueue_call trivial) (fun run => ?_)
    refine bind (offQueue_call trivial) fun _ => ?_
    refine bind (offQueue_call trivial) fun hasLocalWaiter => ?_
    refine bind ?_ fun _ => bind (offQueue_call trivial) (fun _ => within_done _)
    unfold resumeOrReject
    split
    · exact offQueue_ensureInlineRunResumed
    exact offQueue_rejectExpired current run
  exact offQueue_call trivial

theorem offQueue_pollDecision (approvalId : String) (rounds : Nat) :
  (pollDecision approvalId rounds).Within offQueueWork := by
  induction rounds with
  | zero => exact within_done none
  | succ rounds ih =>
    refine bind (offQueue_call trivial) fun current => ?_
    split
    · refine bind ?_ (fun _ => within_done _)
      unfold decidedStatus
      split
      · exact offQueue_ensureInlineRunResumed.bind fun _ => within_done _
      exact within_done _
    refine bind (offQueue_call trivial) fun run => ?_
    split
    · exact (offQueue_closePending current).bind fun _ => within_done _
    refine bind (offQueue_call trivial) fun now => ?_
    split
    · exact (offQueue_expire current).bind fun _ => within_done _
    refine bind (offQueue_call trivial) fun waiter => ?_
    split
    · exact within_done _
    exact ih

theorem offQueue_waitForDecision (approvalId : String) :
  (waitForDecision approvalId).Within offQueueWork := by
  refine bind (offQueue_call trivial) fun waiter => ?_
  split
  · exact within_raised trivial
  refine bind (offQueue_call trivial) fun rounds => ?_
  exact (offQueue_pollDecision approvalId rounds).ensuring (offQueue_call trivial)

theorem offQueue_reapExpired (limit : Nat) : (reapExpired limit).Within offQueueWork := by
  have reaps : ∀ due, (reapEach due).Within offQueueWork := by
    intro due
    induction due with
    | nil => exact within_done 0
    | cons approval rest ih =>
      refine bind ?_ fun _ => ih.bind (fun _ => within_done _)
      refine bind (offQueue_call trivial) fun current => ?_
      split
      · exact within_done 0
      refine bind (offQueue_call trivial) fun now => ?_
      split
      · exact within_done 0
      exact (offQueue_expire current).bind fun _ => within_done _
  unfold reapExpired
  split
  · exact within_raised trivial
  refine bind (offQueue_call trivial) fun now => ?_
  exact bind (offQueue_call trivial) fun due => reaps due

variable (service : ApprovalService)

theorem offQueue_enqueueResumedRun : service.enqueueResumedRun.Within offQueueWork := by
  unfold enqueueResumedRun
  split
  · exact within_done ()
  exact bind (offQueue_call trivial) fun _ => offQueue_call trivial

theorem offQueue_redecide : (service.redecide current).Within offQueueWork := by
  unfold redecide
  split
  · split
    · exact offQueue_ensureInlineRunResumed.bind fun _ => within_done _
    exact service.offQueue_enqueueResumedRun.bind fun _ => within_done _
  exact within_done _

theorem offQueue_carryOut (run : Run) (decision : ApprovalStatus) :
  (service.carryOut current run decision).Within offQueueWork := by
  unfold carryOut
  split
  · refine bind (offQueue_advance _ _ _ _ _ _) (fun _ => ?_)
    split
    · exact within_done ()
    exact service.offQueue_enqueueResumedRun
  refine bind ?_ fun _ => bind (offQueue_advance _ _ _ _ _ _) (fun _ => within_done ())
  unfold toolResultUnless
  split
  · exact within_done ()
  exact offQueue_call trivial

theorem offQueue_decide (approvalId : String) (decision : ApprovalStatus) :
  (service.decide approvalId decision).Within offQueueWork := by
  unfold decide
  split
  · exact within_raised trivial
  refine bind (offQueue_call trivial) fun current => ?_
  split
  · exact service.offQueue_redecide current
  split
  · exact within_raised trivial
  refine bind (offQueue_call trivial) fun decidedAt => ?_
  split
  · exact (offQueue_expire current).bind fun _ => within_raised trivial
  refine bind (offQueue_call trivial) fun changed => ?_
  split
  · refine bind (offQueue_call trivial) (fun run => ?_)
    refine bind (offQueue_call trivial) fun _ => ?_
    refine (service.offQueue_carryOut current run decision).bind fun _ => ?_
    exact bind (offQueue_call trivial) fun _ => within_done _
  exact within_raised trivial

end ApprovalService

namespace RunService

variable (service : RunService)

theorem offQueue_announceQueued : service.announceQueued.Within offQueueWork :=
  bind (offQueue_call trivial) fun _ => offQueue_call trivial

theorem offQueue_completeCancellation (requestedFrom : RunStatus) (current : Run) :
  (service.completeCancellation requestedFrom current).Within offQueueWork := by
  unfold completeCancellation
  split
  · exact within_done _
  refine (offQueue_ensure _).bind fun status => ?_
  refine bind (offQueue_call trivial) fun updatedAt => ?_
  refine bind (offQueue_call trivial) fun changed => ?_
  split
  · refine bind (offQueue_call trivial) (fun _ => ?_)
    exact (offQueue_serviceIf _ _).bind fun _ => within_done _
  refine bind (offQueue_call trivial) fun latest => ?_
  split
  · exact within_done _
  exact within_raised trivial

theorem offQueue_cancel : service.cancel.Within offQueueWork := by
  refine bind (offQueue_call trivial) fun current => ?_
  split
  · exact (offQueue_serviceIf _ _).bind fun _ => within_done _
  split
  · exact within_done _
  refine (offQueue_ensure _).bind fun status => ?_
  refine bind (offQueue_call trivial) fun updatedAt => ?_
  refine bind (offQueue_call trivial) fun changed => ?_
  split
  · refine bind (offQueue_call trivial) (fun _ => ?_)
    exact service.offQueue_completeCancellation _ _
  refine bind (offQueue_call trivial) fun latest => ?_
  split
  · exact within_done _
  split
  · exact within_raised trivial
  exact service.offQueue_completeCancellation _ _

end RunService

namespace ReliabilityController

theorem offQueue_recordAction : recordAction.Within offQueueWork :=
  bind (offQueue_call trivial) (fun _ =>
    bind (offQueue_call trivial) fun _ => offQueue_call trivial)

theorem offQueue_resolveIncident : resolveIncident.Within offQueueWork := by
  refine bind (offQueue_call trivial) fun found => ?_
  split
  · exact within_done ()
  split
  · exact within_done ()
  exact bind (offQueue_call trivial) fun _ => offQueue_call trivial

variable (controller : ReliabilityController)

theorem offQueue_finalizeRun (run : Run) : (controller.finalizeRun run).Within offQueueWork := by
  refine bind (offQueue_call trivial) fun existing => ?_
  refine bind ?_ fun _ => (offQueue_serviceIf _ _).bind (fun _ => offQueue_serviceIf _ _)
  unfold appendTerminal
  split
  · exact within_done ()
  exact offQueue_call trivial

theorem offQueue_concludeReaping (updated : Run) :
  (controller.concludeReaping updated).Within offQueueWork := by
  refine bind (catching ((controller.offQueue_finalizeRun updated).bind fun _ => within_done true)
    fun _ _ => ?_) fun finalized => ?_
  · refine offQueue_recordAction.bind (fun _ => bind ?_ fun _ => within_done false)
    exact bind (offQueue_call trivial) (fun _ =>
      bind (offQueue_call trivial) fun _ => offQueue_call trivial)
  split
  · exact offQueue_recordAction.bind fun _ => within_done _
  exact within_done _

theorem offQueue_reapRun (candidate : Run) (cutoff : Nat) :
  (controller.reapRun candidate cutoff).Within offQueueWork := by
  refine bind (offQueue_call trivial) fun current => ?_
  split
  · exact offQueue_recordAction.bind fun _ => within_done _
  refine (offQueue_ensure _).bind fun status => ?_
  refine bind (offQueue_call trivial) fun updatedAt => ?_
  refine bind (offQueue_call trivial) fun changed => ?_
  split
  · exact controller.offQueue_concludeReaping _
  refine bind (offQueue_call trivial) fun _ => ?_
  exact offQueue_recordAction.bind fun _ => within_done _

theorem offQueue_reapStuckRuns : controller.reapStuckRuns.Within offQueueWork := by
  have reaps : ∀ cutoff candidates,
    (controller.reapCandidates cutoff candidates).Within offQueueWork := by
    intro cutoff candidates
    induction candidates with
    | nil => exact within_done 0
    | cons candidate rest ih =>
      exact (controller.offQueue_reapRun candidate cutoff).bind
        (fun _ => ih.bind fun _ => within_done _)
  have sweeps : ∀ now thresholds, (controller.reapStatuses now thresholds).Within offQueueWork := by
    intro now thresholds
    induction thresholds with
    | nil => exact within_done 0
    | cons threshold rest ih =>
      refine bind (offQueue_call trivial) fun candidates => ?_
      exact (reaps _ candidates).bind fun _ => ih.bind (fun _ => within_done _)
  exact bind (offQueue_call trivial) fun now => sweeps now _

theorem offQueue_repairIncident : controller.repairIncident.Within offQueueWork := by
  refine bind (offQueue_call trivial) fun claimedAt => ?_
  refine bind (offQueue_call trivial) fun claim => ?_
  split
  · exact within_done 0
  refine bind (offQueue_call trivial) fun run => ?_
  split
  · refine bind (catching ((controller.offQueue_finalizeRun run).bind fun _ => within_done true)
      fun _ _ => ?_) fun finalized => ?_
    · refine bind (offQueue_call trivial) (fun failedAt => ?_)
      refine bind (offQueue_call trivial) fun _ => ?_
      exact offQueue_recordAction.bind fun _ => within_done false
    split
    · exact offQueue_recordAction.bind (fun _ =>
        offQueue_resolveIncident.bind fun _ => within_done 1)
    exact within_done 0
  exact offQueue_resolveIncident.bind fun _ => within_done 0

theorem offQueue_processOnce : controller.processOnce.Within offQueueWork := by
  have repairs : ∀ incidents, (controller.repairEach incidents).Within offQueueWork := by
    intro incidents
    induction incidents with
    | nil => exact within_done 0
    | cons incident rest ih =>
      exact controller.offQueue_repairIncident.bind fun _ => ih.bind (fun _ => within_done _)
  refine bind (bind (offQueue_call trivial) fun incidents => repairs incidents)
    (fun repaired => ?_)
  exact controller.offQueue_reapStuckRuns.bind fun _ => within_done _

end ReliabilityController

namespace RunServices

variable (task : String) (services : RunServices)

theorem offQueue_awaitInline (toolCallId : String) :
  (services.awaitInline task toolCallId).Within offQueueWork := by
  refine (offQueue_request _ _ _).bind fun approval => ?_
  refine (ApprovalService.offQueue_waitForDecision _).bind fun status => ?_
  split
  · exact within_done ()
  exact (ApprovalService.offQueue_cancelPending _).bind fun _ => within_done ()

theorem offQueue_serve {request : RunRequest} (idle : request ≠ .work)
  (silent : ∀ rounds, request ≠ .renewLease rounds) :
  (services.serve task request).Within offQueueWork := by
  cases request with
  | work => exact absurd rfl idle
  | renewLease rounds => exact absurd rfl (silent rounds)
  | announceQueued => exact RunService.offQueue_announceQueued _
  | awaitInline toolCallId => exact services.offQueue_awaitInline task toolCallId
  | decide approvalId decision =>
    exact (ApprovalService.offQueue_decide _ approvalId decision).bind fun _ => within_done ()
  | cancel => exact (RunService.offQueue_cancel _).bind fun _ => within_done ()
  | reapExpired limit =>
    exact (ApprovalService.offQueue_reapExpired limit).bind fun _ => within_done ()
  | processOnce =>
    exact (ReliabilityController.offQueue_processOnce _).bind fun _ => within_done ()

end RunServices

end AgentHarness
