import AgentHarness.Application.Approvals

/-!
Coordinates one Run across repositories, Sandbox and Agent runtime.

Payloads are redacted and artifacts are chosen in the source without any effect on
the status or on the events recorded here; of them only the awaits are kept, each of
which can fail.
-/

namespace AgentHarness

open Interaction Program Ports Policy Routine

structure RunOrchestrator where
  tenantId : String := "tenant-1"
  agentName : String := "agent"
  policy : Option PolicyEngine := none
  approvals : Option ApprovalService := none
  workspaces : Bool := false
  observability : Bool := false
  artifacts : Bool := false
  inputArtifacts : Bool := false
  memory : Bool := false
  workspacePolicyResolver : Bool := false
  runtimeAssetStager : Bool := false
  policyResolver : Bool := false
  qualityHook : Bool := false
  credentialRevoker : Bool := false
  sandboxResolver : Bool := false
  quotas : Bool := false
  quotaPlanResolver : Bool := false

/-- The local variables of `_execute` that its handlers and its cleanup read. -/
structure ExecutionLocals where
  handle : Option SandboxHandle := none
  /-- `output_baseline is not None`. -/
  outputBaseline : Bool := false
  /-- `workspace_policy.archive_on_complete`. -/
  archiveOnComplete : Bool := true
  workspaceDurable : Bool := true
  /-- `latest_runtime_result_payload is not None`. -/
  latestRuntimeResult : Bool := false

abbrev ExecutionRoutine (α : Type) := Routine RunOp RunOp.Answer Failure ExecutionLocals α

/-- The variables of the event loop: `active_message_id is not None`, and the tool calls
that read a staged input. -/
structure EventLoop where
  activeMessage : Bool := true
  stagedReadToolCalls : List String := []

inductive EventOutcome where
  | goOn
  | finished (result : Run)

namespace RunOrchestrator

def succeeds (program : RunProgram Unit) : RunProgram Bool :=
  (program.bind fun _ => done true).catching fun _ => done false

def move (site : WriteSite) (current : Run) (target : RunStatus)
  (errorCode : Option ErrorCode) : RunProgram Run :=
  advance site .staleWorker current target errorCode errorCode

def reclaim (current : Run) : RunProgram Run := do
  let updatedAt ← call .clock
  let reclaimed := { current with updatedAt, fencingToken := current.fencingToken + 1 }
  let changed ← call (.compareAndSet .reclaim current.status reclaimed)
  if changed then
    (append (.runRecovered current.status)).bind fun _ => done reclaimed
  else raised (.conflict .reclaimOwnership)

def failActiveSubagents (errorCode : ErrorCode) : RunProgram Unit := do
  let events ← call .listEvents
  each (activeSubagents events) (fun taskId =>
    call (.appendEvent .harness { type := .subagentFailed taskId, errorCode := some errorCode }))

/-- The polls of `_await_cancellable`. -/
def pollCancellation : Nat → RunProgram Unit
  | 0 => done ()
  | polls + 1 => do
      let latest ← call (.getRun .observed)
      if latest.status = .cancelling ∨ latest.status = .cancelled then
        raised .cancellationRequested
      else pollCancellation polls

def awaitCancellable {α : Type} (operation : RunProgram α) : RunProgram α := do
  let polls ← call .waitIntervals
  pollCancellation polls
  operation

def publishOutput (priorEvents : List RunEvent) (output : String × Bool) : RunProgram Unit :=
  if priorEvents.any (fun event => event.type = .artifactReady output.1) then done ()
  else do
    service .readArtifact
    if output.2 then done ()
    else (service .uploadArtifact).bind fun _ => append (.artifactReady output.1)

variable (orchestrator : RunOrchestrator)

/-- `_publish_workspace_outputs`; an output comes with whether its content is the
baseline's. -/
def publishWorkspaceOutputs : RunProgram Unit :=
  if ¬ orchestrator.artifacts then done ()
  else do
    let outputs ← call .workspaceOutputs
    if outputs.length > 100 then raised .valueError
    else
      let priorEvents ← call .listEvents
      each outputs (publishOutput priorEvents)

def archiveWorkspace : RunProgram Unit := do
  service .archiveWorkspace
  append (.other "workspace.archived")

def recoverWorkspace (archiveOnComplete : Bool) : RunProgram Bool := do
  let collected ← succeeds (service .collectSandbox)
  if collected then
    -- A failed upload must not prevent the workspace snapshot below.
    let _ ← succeeds orchestrator.publishWorkspaceOutputs
    if orchestrator.workspaces ∧ archiveOnComplete then succeeds archiveWorkspace else done true
  else done false

def recoverFailedWorkspace (vars : ExecutionLocals) : RunProgram Bool :=
  if vars.handle.isSome ∧ vars.outputBaseline then
    orchestrator.recoverWorkspace vars.archiveOnComplete
  else done true

def ensureQuotaAdmission : RunProgram Unit :=
  if orchestrator.quotas then
    (serviceIf orchestrator.quotaPlanResolver .resolveQuotaPlan).bind
      (fun _ => service .ensureRunAdmitted)
  else done ()

def recordQuotaResult : RunProgram Unit := serviceIf orchestrator.quotas .recordRunResult

def releaseTerminalQuota (result : Run) : RunProgram Unit :=
  serviceIf (result.status.isTerminal && orchestrator.quotas) .releaseSubject

def unexpectedErrorCode : Failure → ErrorCode
  | .outage (.quotaExceeded resource) => .quotaExceeded resource
  | _ => .runtimeError

def isOwnershipConflict : Failure → Bool
  | .conflict conflict => conflict.isOwnership
  | _ => false

def handleUnexpectedError (error : Failure) : RunProgram Run := do
  let latest ← call (.getRun .carried)
  if latest.status = .cancelling then move .unexpectedCancelling latest .cancelled none
  else if latest.status = .cancelled then done latest
  else if isOwnershipConflict error then done latest
  else if latest.status.isTerminal then done latest
  else
    failActiveSubagents .parentFailed
    move .unexpectedError latest .failed (some (unexpectedErrorCode error))

def restoreWorkspace (policy : WorkspacePolicy) : RunProgram Unit :=
  if orchestrator.workspaces ∧ policy.restoreSession then do
    let restored ← call .restoreLatest
    if restored then append (.other "workspace.restored") else done ()
  else done ()

def stageIds (inputArtifactIds : List String) : RunProgram Unit :=
  if inputArtifactIds ≠ [] ∧ ¬ orchestrator.inputArtifacts then raised .runtimeError
  else if orchestrator.inputArtifacts then do
    let staged ← call (.stageForRun inputArtifactIds)
    each (List.range staged) (fun _ => append (.other "input.staged"))
  else done ()

def stageInputs (run : Run) : RunProgram Unit :=
  match run.inputArtifactIds with
  | none => raised .valueError
  | some items =>
    if items.all Option.isSome then orchestrator.stageIds (items.filterMap id)
    else raised .valueError

def stageAssets : RunProgram Unit :=
  if orchestrator.runtimeAssetStager then
    (service .stageAssets).bind (fun _ => append (.other "agent.assets.staged"))
  else done ()

def resolvePolicy : RunProgram (Option PolicyResolution) :=
  if orchestrator.policyResolver then (call .resolvePolicy).bind fun found => done (some found)
  else done (orchestrator.policy.map .engine)

def resolveWorkspacePolicy : RunProgram WorkspacePolicy :=
  if orchestrator.workspacePolicyResolver then call .resolveWorkspacePolicy else done {}

def takeOwnership (run : Run) : RunProgram Run :=
  if run.status = .running ∨ run.status = .provisioning then reclaim run
  else move .provisioning run .provisioning none

def prepare (run : Run) : ExecutionRoutine (SandboxHandle × Option PolicyResolution) := do
  service .getSession
  serviceIf orchestrator.sandboxResolver .resolveSandbox
  orchestrator.ensureQuotaAdmission
  let handle ← awaitCancellable (call .provision)
  assign (fun vars => { vars with handle := some handle })
  let resolution ← orchestrator.resolvePolicy
  let workspacePolicy ← orchestrator.resolveWorkspacePolicy
  assign (fun vars => { vars with archiveOnComplete := workspacePolicy.archiveOnComplete })
  orchestrator.restoreWorkspace workspacePolicy
  serviceIf orchestrator.memory .loadMemory
  orchestrator.stageInputs run
  orchestrator.stageAssets
  awaitCancellable (service .prepareSandbox)
  assign (fun vars => { vars with workspaceDurable := false })
  pure (handle, resolution)

def startRunning (isResume : Bool) (run : Run) : RunProgram Unit :=
  if isResume then append .runResumed
  else (move .running run .running none).bind fun _ => done ()

def announcePolicy : Option PolicyResolution → RunProgram Unit
  | some (.resolved _) => append (.other "policy.resolved")
  | _ => done ()

def activePolicy : Option PolicyResolution → Option PolicyEngine
  | none => none
  | some (.engine policy) => some policy
  | some (.resolved callPolicy) => some callPolicy

end RunOrchestrator

def EventLoop.note (loop : EventLoop) : RuntimeEvent → EventLoop
  | .toolRequest toolCallId _ _ stagedInputRead =>
    if stagedInputRead ∧ toolCallId ≠ "" then
      { loop with stagedReadToolCalls := toolCallId :: loop.stagedReadToolCalls }
    else loop
  | .messageStart | .messageDelta | .messageCompleted => { loop with activeMessage := true }
  | _ => loop

def EventLoop.close (loop : EventLoop) : RuntimeEvent → EventLoop
  | .messageCompleted => { loop with activeMessage := false }
  | _ => loop

def RuntimeEvent.bindsSession : RuntimeEvent → Bool
  | .runtimeSystem bindsSession | .runtimeResult bindsSession _ => bindsSession
  | _ => false

def RuntimeEvent.isResult : RuntimeEvent → Bool
  | .runtimeResult _ _ => true
  | _ => false

/-- `terminal_runtime_result`: a result that cannot be followed by more model work. -/
def RuntimeEvent.terminalResult : RuntimeEvent → Bool
  | .runtimeResult _ endsTurn => endsTurn
  | _ => false

namespace RunOrchestrator

abbrev passOn (event : RuntimeEvent) : RunProgram Unit :=
  call (.appendEvent .runtime { type := event.type })

def passOnStarted : RuntimeEvent → RunProgram Unit
  | .subagentStarted taskId => passOn (.subagentStarted taskId)
  | _ => done ()

def cancelFromLoop (event : RuntimeEvent) (latest : Run) : RunProgram Run := do
  passOnStarted event
  failActiveSubagents .parentCancelled
  move .eventLoopCancelling latest .cancelled none

def lookUpRequest (loop : EventLoop) : RuntimeEvent → RunProgram Unit
  | .toolResult toolCallId =>
    if toolCallId ∉ loop.stagedReadToolCalls ∧ toolCallId ≠ "" then
      (call .listEvents).bind fun _ => done ()
    else done ()
  | _ => done ()

def publishArtifact (handle : SandboxHandle) (path : String) : RunProgram Unit := do
  serviceIf (handle.isolationLevel = .container) .collectSandbox
  service .readArtifact
  service .uploadArtifact
  append (.artifactReady path)

def completeMessageIf (activeMessage : Bool) : RunProgram Unit :=
  if activeMessage then append .messageCompleted else done ()

variable (orchestrator : RunOrchestrator)

def askApproval (loop : EventLoop) (toolCallId : String) : RunProgram EventOutcome :=
  match orchestrator.approvals with
  | none => raised .runtimeError
  | some approvals => do
      let approval ← approvals.request toolCallId false
      if approval.status = .pending then
        completeMessageIf loop.activeMessage
        let latest ← call (.getRun .observed)
        done (.finished latest)
      else (append (.toolAllowed toolCallId)).bind fun _ => done .goOn

def authorizeToolCall (policy : PolicyEngine) (loop : EventLoop) (toolCallId toolName : String)
  (arguments : ToolArguments) (stagedInputRead : Bool) : RunProgram EventOutcome := do
  passOn (.toolRequest toolCallId toolName arguments stagedInputRead)
  let result := policy.evaluate
    { tenantId := orchestrator.tenantId, agentName := orchestrator.agentName, toolName,
      arguments }
  match result.decision with
  | .deny => (append (.toolResult toolCallId)).bind fun _ => done .goOn
  | .ask => orchestrator.askApproval loop toolCallId
  | .allow => (append (.toolAllowed toolCallId)).bind fun _ => done .goOn

def recordEvent (handle : SandboxHandle) (policy : Option PolicyEngine) (loop : EventLoop)
  (event : RuntimeEvent) : RunProgram EventOutcome :=
  match event, policy with
  | .artifactOutput path, _ =>
    (if orchestrator.artifacts then publishArtifact handle path else passOn event).bind
      (fun _ => done .goOn)
  | .toolRequest toolCallId toolName arguments stagedInputRead, some policy =>
    orchestrator.authorizeToolCall policy loop toolCallId toolName arguments stagedInputRead
  | _, _ => (passOn event).bind fun _ => done .goOn

def handleEvent (handle : SandboxHandle) (policy : Option PolicyEngine) (loop : EventLoop)
  (event : RuntimeEvent) : ExecutionRoutine EventOutcome := do
  let latest ← call (.getRun .carried)
  if latest.status = .cancelling then
    let result ← cancelFromLoop event latest
    pure (.finished result)
  else if latest.status.isTerminal then pure (.finished latest)
  else
    assign (fun vars =>
      { vars with latestRuntimeResult := vars.latestRuntimeResult || event.isResult })
    serviceIf event.bindsSession .bindClaudeSessionId
    lookUpRequest loop event
    orchestrator.recordEvent handle policy (loop.note event) event

def noticesCancellation (polls : Nat) : RunProgram Bool :=
  ((pollCancellation polls).bind fun _ => done false).catching (fun error =>
    if error = .cancellationRequested then done true else raised error)

def drainQueue (orchestrator : RunOrchestrator) (handle : SandboxHandle)
    (policy : Option PolicyEngine) : EventLoop → List RuntimeEvent →
    ExecutionRoutine (Option Run)
  | _, [] => raise .cancellationRequested
  | loop, event :: rest => do
      match ← orchestrator.handleEvent handle policy loop event with
      | .finished result => pure (some result)
      | .goOn => orchestrator.drainQueue handle policy ((loop.note event).close event) rest

/-- The event loop over `_cancellable_runtime_events`; a result means that the execution
returns from inside the loop. -/
def followRuntime (orchestrator : RunOrchestrator) (handle : SandboxHandle)
    (policy : Option PolicyEngine) (ending : RuntimeWait (Except Outage Unit)) :
    EventLoop → List (RuntimeWait RuntimeEvent) → ExecutionRoutine (Option Run)
  | loop, [] => do
      let noticed ← noticesCancellation ending.polls
      if noticed then orchestrator.drainQueue handle policy loop ending.queued
      else
        match ending.yields with
        | .ok () => pure none
        | .error outage => raise (.outage outage)
  | loop, wait :: rest => do
      let noticed ← noticesCancellation wait.polls
      if noticed then orchestrator.drainQueue handle policy loop wait.queued
      else
        match ← orchestrator.handleEvent handle policy loop wait.yields with
        | .finished result => pure (some result)
        | .goOn =>
          (if wait.yields.terminalResult then pure none
          else orchestrator.followRuntime handle policy ending
            ((loop.note wait.yields).close wait.yields) rest)

def settleResult : ExecutionRoutine Unit := do
  let vars ← locals
  if vars.latestRuntimeResult then
    assign (fun vars => { vars with latestRuntimeResult := false })
    orchestrator.recordQuotaResult
  else pure ()

def archiveCompleted : ExecutionRoutine Unit := do
  let vars ← locals
  if orchestrator.workspaces ∧ vars.archiveOnComplete then
    let archived ← succeeds archiveWorkspace
    assign (fun vars => { vars with workspaceDurable := archived })
    if archived then pure ()
    else
      call (.appendEvent .harness
        { type := .other "workspace.archive.failed", errorCode := some .workspaceArchiveFailed })
  else assign fun vars => { vars with workspaceDurable := true }

def concludeSuccess (latest : Run) : RunProgram Run :=
  if latest.status = .cancelling then move .completionCancelling latest .cancelled none
  else if latest.status.isTerminal then done latest
  else move .completion latest .succeeded none

def complete : ExecutionRoutine Run := do
  orchestrator.settleResult
  service .collectSandbox
  orchestrator.publishWorkspaceOutputs
  orchestrator.archiveCompleted
  let latest ← call (.getRun .carried)
  concludeSuccess latest

/-- The `try` block of `_execute`. -/
def perform (run : Run) : ExecutionRoutine Run := do
  let owned ← takeOwnership run
  let (handle, resolution) ← orchestrator.prepare owned
  startRunning (run.status = .running) owned
  announcePolicy resolution
  service .fingerprintOutputs
  assign (fun vars => { vars with outputBaseline := true })
  let stream ← call .executeRuntime
  match ← orchestrator.followRuntime handle (activePolicy resolution) stream.ending {}
      stream.events with
  | some result => pure result
  | none => orchestrator.complete

def recover : ExecutionRoutine Unit := do
  let vars ← locals
  let durable ← orchestrator.recoverFailedWorkspace vars
  assign fun vars => { vars with workspaceDurable := durable }

def concludeTimeout (latest : Run) : RunProgram Run :=
  if latest.status = .cancelling then
    (failActiveSubagents .parentCancelled).bind
      (fun _ => move .timeoutCancelling latest .cancelled none)
  else if latest.status.isTerminal then done latest
  else
    (failActiveSubagents .parentTimedOut).bind
      (fun _ => move .timeout latest .timedOut (some .runtimeTimeout))

/-- `except RuntimeExecutionTimeoutError`. -/
def handleTimeout : ExecutionRoutine Run := do
  orchestrator.recover
  let latest ← call (.getRun .carried)
  concludeTimeout latest

def concludeResultError (errorCode : String) (latest : Run) : RunProgram Run :=
  if latest.status = .cancelling then move .resultErrorCancelling latest .cancelled none
  else if latest.status.isTerminal then done latest
  else move .resultError latest .failed (some (.runtimeResult errorCode))

def settleFailedResult : ExecutionRoutine Unit := do
  let vars ← locals
  if vars.latestRuntimeResult then
    let _ ← succeeds orchestrator.recordQuotaResult
    assign fun vars => { vars with latestRuntimeResult := false }
  else pure ()

/-- `except RuntimeResultError`. -/
def handleResultError (errorCode : String) : ExecutionRoutine Run := do
  orchestrator.settleFailedResult
  orchestrator.recover
  let latest ← call (.getRun .carried)
  concludeResultError errorCode latest

/-- The handlers of `_execute`. -/
def handleFailure : Failure → ExecutionRoutine Run
  | .cancellationRequested | .outage .runtimeTimeout => orchestrator.handleTimeout
  | .outage (.runtimeResult errorCode) => orchestrator.handleResultError errorCode
  | error => do
      orchestrator.recover
      handleUnexpectedError error

def retainWorkspace (vars : ExecutionLocals) (handle : SandboxHandle) : RunProgram SandboxHandle :=
  if ¬ vars.workspaceDurable ∧ handle.provider = "daytona" then
    (succeeds (append (.other "workspace.recovery_retained"))).bind
      (fun _ => done { handle with preserveRemoteWorkspace := true })
  else done handle

/-- The `finally` block of `_execute`. -/
def cleanUp : ExecutionRoutine Unit := do
  serviceIf orchestrator.credentialRevoker .revokeCredentials
  let vars ← locals
  match vars.handle with
  | none => pure ()
  | some handle => do
      let retained ← retainWorkspace vars handle
      service (.destroySandbox retained)

def executeOwned (run : Run) : RunProgram Run :=
  (((orchestrator.perform run).catching orchestrator.handleFailure).ensuring
    orchestrator.cleanUp).run {}

/-- `_execute`. -/
def executeRun : RunProgram Run := do
  let run ← call (.getRun .carried)
  if run.status.isTerminal then done run
  else if run.status = .cancelling then move .startCancelling run .cancelled none
  -- A recovered lease can observe a Run whose original SDK hook is still waiting inline.
  else if run.status = .waitingApproval then done run
  else if run.status ≠ .queued ∧ run.status ≠ .running ∧ run.status ≠ .provisioning then
    raised (.conflict (.alreadyOwned run.status))
  else orchestrator.executeOwned run

def exportQuality (result : Run) : RunProgram Unit :=
  if result.status.isTerminal ∧ orchestrator.qualityHook then
    (succeeds (service .qualityHook)).bind fun _ => done ()
  else done ()

def executeObserved : RunProgram Run := do
  let _ ← call (.getRun .observed)
  service .getSession
  let result ← orchestrator.executeRun
  orchestrator.releaseTerminalQuota result
  orchestrator.exportQuality result
  done result

def execute : RunProgram Run :=
  if orchestrator.observability then orchestrator.executeObserved
  else do
    let result ← orchestrator.executeRun
    orchestrator.releaseTerminalQuota result
    done result

end RunOrchestrator

end AgentHarness
