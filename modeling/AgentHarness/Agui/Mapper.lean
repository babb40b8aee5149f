import AgentHarness.Agui.Activity

/-!
The projection of one durable event into the events of the stream.
-/

namespace AgentHarness.Agui

open Text Text.Json

inductive BaseEvent
  | runStarted (threadId runId : String)
  | runFinished (threadId runId : String)
  | runError (message code : String)
  | textMessageStart (messageId : String)
  | textMessageContent (messageId delta : String)
  | textMessageEnd (messageId : String)
  | toolCallStart (toolCallId toolCallName parentMessageId : String)
  | toolCallArgs (toolCallId delta : String)
  | toolCallEnd (toolCallId : String)
  | toolCallResult (messageId toolCallId content : String)
  | custom (name : String) (value : Json)
  | stateSnapshot (snapshot : Json)
  | activity (event : ActivityEvent)

/-- `text.removeprefix(start)`. -/
def removePrefix (start text : String) : String :=
  if hasPrefix start text then String.ofList (text.toList.drop start.length) else text

def assistantId (runId : String) : String := "assistant-" ++ runId

def argumentsOf (payload : Payload) (fields : List String) : Payload :=
  fields.filterMap fun field => (member? payload field).map fun value => (field, value)

def approvalFields : List String :=
  ["approval_id", "tool_call_id", "reason", "expires_at", "status", "tool_name",
    "argument_summary", "sandbox_provider", "sandbox_isolation", "policy_rule", "risk"]

def artifactFields : List String :=
  ["artifact_id", "name", "media_type", "size_bytes", "sha256", "status"]

namespace Python

variable (python : Python) (event : RunEvent)

def messageId : String := python.getStr event.payload "message_id" (assistantId event.runId)

def domainTool (name toolCallId : String) (fields : List String) (complete : Bool) :
  List BaseEvent :=
  [.toolCallStart toolCallId name (python.messageId event), .toolCallArgs toolCallId (dumps (.object
        (setMember (argumentsOf event.payload fields) "run_id" (.string event.runId)))),
    .toolCallEnd toolCallId] ++
  if complete then
    [.toolCallResult ("tool-result-" ++ event.eventId) toolCallId
      (dumps (.object [("status", .string "ready")]))]
  else []

def approvalToolCallId : String :=
  "harness-approval-" ++ python.getStr event.payload "approval_id" event.eventId

def artifactTool : List BaseEvent :=
  python.domainTool event "harness_present_artifact"
    ("harness-artifact-" ++ python.getStr event.payload "artifact_id" event.eventId)
    artifactFields true

def requestTool : List BaseEvent :=
  let toolCallId := python.getStr event.payload "tool_call_id" ""
  [.toolCallStart toolCallId (python.getStr event.payload "name" "") (python.messageId event),
    .toolCallArgs toolCallId
      (dumps ((member? event.payload "arguments").getD (.object []))),
    .toolCallEnd toolCallId]

def mapStandardEvent : List BaseEvent :=
  if event.type = "run.queued" then [.runStarted event.sessionId event.runId]
  else if event.type = "run.succeeded" then [.runFinished event.sessionId event.runId]
  else if event.type = "run.failed" ∨ event.type = "run.rejected" ∨ event.type = "run.timed_out" then
    [.runError (python.getStr event.payload "message" event.type)
      (python.getStr event.payload "error_code" (removePrefix "run." event.type))]
  else if event.type = "message.start" then [.textMessageStart (python.messageId event)]
  else if event.type = "message.delta" then
    let text := python.safeModelText (python.getStr event.payload "text" "")
    if text = "" then [] else [.textMessageContent (python.messageId event) text]
  else if event.type = "message.completed" then [.textMessageEnd (python.messageId event)]
  else if event.type = "tool.request" then python.requestTool event
  else if event.type = "tool.result" then
    [.toolCallResult ("tool-result-" ++ toString event.sequence)
      (python.getStr event.payload "tool_call_id" "") (dumps (.object event.payload))]
  else if event.type = "approval.requested" then
    python.domainTool event "harness_request_approval" (python.approvalToolCallId event)
      approvalFields false
  else if event.type = "approval.approved" ∨ event.type = "approval.rejected" then
    [.toolCallResult ("tool-result-" ++ event.eventId) (python.approvalToolCallId event)
      (dumps (.object [("decision", .string (removePrefix "approval." event.type))]))]
  else if hasPrefix "subagent." event.type then
    [.custom "harness.subagent.v1" (.object event.payload)]
  else if event.type = "artifact.ready" then python.artifactTool event
  else if hasPrefix "artifact." event.type ∨ event.type = "workspace.archived" then
    [.custom "harness.artifact.v1" (.object event.payload)]
  else if event.type = "runtime.result" ∨ event.type = "model.route.selected" then
    [.custom "harness.runtime.v1" (.object event.payload)]
  else if hasPrefix "run." event.type then
    [.stateSnapshot (.object [("runId", .string event.runId), ("threadId", .string event.sessionId),
        ("status", .string (removePrefix "run." event.type)),
        ("sequence", natural event.sequence)])]
  else []

/-- `map_harness_event` with its three channels. -/
def mapHarnessEvent (projectResponseText projectArtifact projectActivity : Bool) : List BaseEvent :=
  let suppressed :=
    (!projectResponseText &&
      ["message.start", "message.delta", "message.completed"].contains event.type) ||
    (!projectArtifact && event.type == "artifact.ready")
  let standard := if suppressed then [] else python.mapStandardEvent event
  let activity := if projectActivity then (python.activityProjection event).map .activity else []
  if ["run.succeeded", "run.failed", "run.rejected", "run.timed_out"].contains event.type then
    activity ++ standard
  else standard ++ activity

end Python

end AgentHarness.Agui
