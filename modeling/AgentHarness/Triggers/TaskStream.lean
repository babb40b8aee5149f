import AgentHarness.Agui.Replays
import AgentHarness.Core.Run

/-!
The event stream of an A2A task.
-/

namespace AgentHarness.Triggers

open Agui Python

inductive StreamFrame where
  | task (state responseText : String)
  | text (sequence : Nat) (text : String) (append lastChunk : Bool)
  | artifact (sequence : Nat) (artifactId name url mediaType : String)
  | status (sequence : Nat) (state : String) (timestamp : Nat)
  deriving DecidableEq

def StreamFrame.id : StreamFrame → Option Nat
  | .task _ _ => none
  | .text sequence _ _ _ | .artifact sequence _ _ _ _ | .status sequence _ _ => some sequence

/-- `_state`. -/
def taskState : RunStatus → String
  | .queued => "TASK_STATE_SUBMITTED"
  | .waitingApproval => "TASK_STATE_AUTH_REQUIRED"
  | .succeeded => "TASK_STATE_COMPLETED"
  | .failed | .timedOut => "TASK_STATE_FAILED"
  | .cancelled => "TASK_STATE_CANCELED"
  | .rejected => "TASK_STATE_REJECTED"
  | _ => "TASK_STATE_WORKING"

/-- `_STATUS_EVENTS`. -/
def statusEventTypes : List String :=
  ["approval.cancelled", "approval.expired", "approval.requested", "run.cancelling",
    "run.provisioning", "run.queued", "run.recovered", "run.resumed", "run.running"] ++
    terminalEventTypes

structure TaskStream where
  sequence : Nat
  textStarted : Bool
  pendingText : Option Agui.RunEvent := none
  terminal : Bool
  frames : List StreamFrame

structure Poll where
  log : List Agui.RunEvent
  status : Nat → RunStatus

structure Connection where
  status : RunStatus
  (taskLog prior : List Agui.RunEvent)
  polls : List Poll
  received : Nat

section

variable (python : Python) (artifactUrl : String → String)

/-- `safe_model_text(str(event.payload.get("text", "")))`. -/
def deltaText (event : Agui.RunEvent) : String :=
  python.safeModelText (python.getStr event.payload "text" "")

/-- The response text of `_task_value`. -/
def responseText (events : List Agui.RunEvent) : String :=
  String.join ((events.filter fun event => event.type = "message.delta").map (deltaText python))

namespace TaskStream

def flush (stream : TaskStream) (lastChunk : Bool) : TaskStream :=
  match stream.pendingText with
  | none => stream
  | some event =>
    { stream with
      textStarted := true, pendingText := none
      frames := stream.frames ++
        [.text event.sequence (deltaText python event) stream.textStarted lastChunk] }

def eventFrames (status : RunStatus) (event : Agui.RunEvent) : List StreamFrame :=
  if event.type = "artifact.ready" then
    let artifactId := python.getStr event.payload "artifact_id" ""
    if artifactId = "" then []
    else
      [.artifact event.sequence artifactId (python.getStr event.payload "name" "artifact")
        (artifactUrl artifactId)
        (python.getStr event.payload "media_type" "application/octet-stream")]
  else if statusEventTypes.contains event.type then
    [.status event.sequence (taskState status) event.timestamp]
  else []

def handle (status : RunStatus) (event : Agui.RunEvent) (stream : TaskStream) : TaskStream :=
  if event.type = "message.delta" then
    if deltaText python event = "" then { stream with sequence := event.sequence }
    else
      { stream.flush python false with
        pendingText := some event, sequence := event.sequence }
  else
    let ends := terminalEventTypes.contains event.type
    let flushed := stream.flush python (event.type = "message.completed" || ends)
    { flushed with
      sequence := event.sequence
      frames := flushed.frames ++ eventFrames python artifactUrl status event
      terminal := flushed.terminal || ends || status = .waitingApproval }

def poll (stream : TaskStream) (read : Poll) : TaskStream :=
  if stream.terminal then stream
  else (listAfter read.log stream.sequence).foldl
    (fun stream event => stream.handle python artifactUrl (read.status event.sequence) event) stream

end TaskStream

def streamEvents (connection : Connection) (sequence : Nat) : TaskStream :=
  connection.polls.foldl (TaskStream.poll python artifactUrl)
    { sequence
      textStarted := (listAfter connection.prior 0).any fun event =>
        event.type = "message.delta" && event.sequence ≤ sequence
      terminal := connection.status.isTerminal || connection.status = .waitingApproval
      frames := [.task (taskState connection.status)
        (responseText python (listAfter connection.taskLog 0))] }

/-- `int(last_event_id)`, of digits only. -/
def eventSequence? (text : String) : Option Nat :=
  if text.toList ≠ [] ∧ text.toList.all Char.isDigit then
    some (Nat.ofDigitChars 10 text.toList 0)
  else none

def subscribeTask (runId : String) (connection : Connection) (lastEventId : Option String) :
  Except String (List StreamFrame) :=
  if connection.status.isTerminal then
    .error ("Terminal task cannot be subscribed: " ++ runId)
  else
    match lastEventId with
    | none => .ok (streamEvents python artifactUrl connection 0).frames
    | some text =>
      match eventSequence? text with
      | none => .error "Last-Event-ID must be a durable event sequence"
      | some sequence => .ok (streamEvents python artifactUrl connection sequence).frames

def lastId (frames : List StreamFrame) : Option Nat := (frames.filterMap StreamFrame.id).getLast?

def resume (runId : String) : List Connection → List StreamFrame → List StreamFrame
  | [], got => got
  | connection :: later, got =>
    resume runId later
      (match subscribeTask python artifactUrl runId connection ((lastId got).map toString) with
      | .error _ => got
      | .ok frames => got ++ frames.take connection.received)

/-- `stream_message`, and then `subscribe_task` again and again. -/
def receive (runId : String) (first : Connection) (later : List Connection) : List StreamFrame :=
  resume python artifactUrl runId later
    ((streamEvents python artifactUrl first 0).frames.take first.received)

end

end AgentHarness.Triggers
