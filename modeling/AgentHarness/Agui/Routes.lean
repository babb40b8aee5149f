import AgentHarness.Agui.Mapper

/-!
The live stream of a Run, and its replay from the id of a projected event.
-/

namespace AgentHarness.Agui

open Text Text.Json

def eventId (sequence count index : Nat) : String :=
  if count = 1 then toString sequence else toString sequence ++ ":" ++ toString (index + 1)

def isDecimal : List Char → Bool
  | [] => false
  | [char] => char.isDigit
  | char :: '_' :: rest => char.isDigit && isDecimal rest
  | char :: rest => char.isDigit && isDecimal rest

def decimal? (chars : List Char) : Option Nat :=
  if isDecimal chars then some (Nat.ofDigitChars 10 (chars.filter (· ≠ '_')) 0) else none

/-- `int(text)` of a text in ASCII digits, and `max(0, …)` of it. -/
def natural? (text : String) : Option Nat :=
  match (stripSpace text).toList with
  | '-' :: chars => (decimal? chars).map fun _ => 0
  | '+' :: chars => decimal? chars
  | chars => decimal? chars

def readCursor (raw : List Char) : Nat × Nat :=
  let sequenceText := raw.takeWhile (· ≠ ':')
  let separator := raw.drop sequenceText.length
  match natural? (String.ofList sequenceText) with
  | none => (0, 0)
  | some sequence =>
    match separator with
    | [] => (sequence, 0)
    | _ :: childText =>
      match natural? (String.ofList childText) with
      | none => (0, 0)
      | some childCount => (sequence, childCount)

def projectedEventCursor (lastEventId : Option String) : Nat × Nat :=
  readCursor (stripSpace ((lastEventId.filter (· ≠ "")).getD "0")).toList

structure Coordinates where
  (threadId runId : String)

def Coordinates.readdress (coordinates : Coordinates) : BaseEvent → BaseEvent
  | .runStarted _ _ => .runStarted coordinates.threadId coordinates.runId
  | .runFinished _ _ => .runFinished coordinates.threadId coordinates.runId
  | event => event

namespace Python

variable (python : Python)

def textMessageId (event : RunEvent) : Option String :=
  if ["message.start", "message.delta", "message.completed"].contains event.type then
    let messageId := stripSpace (python.getStr event.payload "message_id" "")
    if messageId = "" then none else some messageId
  else none

/-- `_response_message_id`: the latest one. -/
def responseMessageId (runId : String) (runEvents : List RunEvent) : String :=
  (runEvents.reverse.findSome? python.textMessageId).getD (assistantId runId)

def artifactCard (messageId : String) (event : RunEvent) : List BaseEvent :=
  python.mapHarnessEvent
    { event with payload := setMember event.payload "message_id" (.string messageId) }
    false true false

def readyArtifacts (runEvents : List RunEvent) : List RunEvent :=
  runEvents.filter fun event => event.type = "artifact.ready"

def terminalArtifactProjection (event : RunEvent) (runEvents : List RunEvent) : List BaseEvent :=
  (readyArtifacts runEvents).flatMap
    (python.artifactCard (python.responseMessageId event.runId runEvents))

def projectStreamEvent (event : RunEvent) (runEvents : List RunEvent) : List BaseEvent :=
  let messageId := assistantId event.runId
  let projected := python.mapHarnessEvent event true false true
  if event.type = "run.queued" then
    projected.take 1 ++ .textMessageStart messageId :: projected.drop 1
  else if event.type = "run.failed" ∨ event.type = "run.rejected" ∨ event.type = "run.timed_out" then
    projected.dropLast ++ .textMessageEnd messageId ::
      (python.terminalArtifactProjection event runEvents ++ projected.getLast?.toList)
  else if event.type = "run.cancelled" then projected ++ [.textMessageEnd messageId]
  else if event.type ≠ "run.succeeded" then projected
  else
    projected.dropLast ++ .textMessageEnd messageId ::
      (python.terminalArtifactProjection event runEvents ++ projected.getLast?.toList)

def frames (coordinates : Coordinates) (event : RunEvent) (runEvents : List RunEvent)
  (firstChild : Nat) : List (String × BaseEvent) :=
  let projected := python.projectStreamEvent event runEvents
  (projected.mapIdx fun index item =>
    (eventId event.sequence projected.length index, coordinates.readdress item)).drop firstChild

structure LiveStream where
  runEvents : List RunEvent := []
  protectedToolCallIds : List String := []

def live (coordinates : Coordinates) (stream : LiveStream) :
    List RunEvent → List (String × BaseEvent)
  | [] => []
  | event :: events =>
    let redacted := python.redactEvent stream.protectedToolCallIds event
    let runEvents := stream.runEvents ++ [redacted]
    python.frames coordinates redacted runEvents 0 ++ live coordinates
        { runEvents
          protectedToolCallIds := python.protectCall stream.protectedToolCallIds event } events

def polled (stream : LiveStream) (events : List RunEvent) : LiveStream :=
  { runEvents := stream.runEvents ++
      python.redactInternalAgentAssetEvents stream.protectedToolCallIds events
    protectedToolCallIds := python.securedAfter stream.protectedToolCallIds events }

def terminalEventTypes : List String :=
  ["run.cancelled", "run.failed", "run.rejected", "run.succeeded", "run.timed_out"]

def endsRun (events : List RunEvent) : Bool :=
  events.any fun event => terminalEventTypes.contains event.type

def livePolls (coordinates : Coordinates) (stream : LiveStream) :
    List (List RunEvent) → List (String × BaseEvent)
  | [] => []
  | events :: later =>
    python.live coordinates stream events ++
      if endsRun events then [] else livePolls coordinates (python.polled stream events) later

def listAfter (log : List RunEvent) (sequence : Nat) : List RunEvent :=
  log.filter fun event => sequence < event.sequence

/-- `stream_agui_events`. -/
def replay (coordinates : Coordinates) (log : List RunEvent) (lastEventId : Option String) :
  List (String × BaseEvent) :=
  let (sequence, deliveredChildren) := projectedEventCursor lastEventId
  let events := python.redactInternalAgentAssetEvents []
    (listAfter log (if deliveredChildren ≠ 0 then sequence - 1 else sequence))
  let allEvents := python.redactInternalAgentAssetEvents [] (listAfter log 0)
  events.flatMap fun event =>
    python.frames coordinates event allEvents
      (if event.sequence = sequence then deliveredChildren else 0)

end Python

end AgentHarness.Agui
