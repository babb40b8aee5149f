import AgentHarness.Runtime.InputRedaction

/-!
The run activity: what `build_run_activity` folds a whole log into, and what `activity_projection`
sends for one event.
-/

namespace AgentHarness.Agui

open Text Text.Json Function

inductive ItemKind where
  | run | analysis | error | tool | subagent | artifact | result

def ItemKind.value : ItemKind → String
  | .run => "run"
  | .analysis => "analysis"
  | .error => "error"
  | .tool => "tool"
  | .subagent => "subagent"
  | .artifact => "artifact"
  | .result => "result"

inductive ItemStatus where
  | queued | running | waiting | succeeded | failed | cancelled
  deriving DecidableEq

def ItemStatus.value : ItemStatus → String
  | .queued => "queued"
  | .running => "running"
  | .waiting => "waiting"
  | .succeeded => "succeeded"
  | .failed => "failed"
  | .cancelled => "cancelled"

structure ActivityItem where
  event : RunEvent
  kind : ItemKind
  status : ItemStatus
  title : String
  summary : Option String := none
  metadata : Payload := []

def ACTIVITY_TYPE : String := "harness.run.v1"

/-- A text or `None`. -/
def optionalText : Option String → Json
  | none => .null
  | some text => .string text

/-- `_metadata`: the values that are not `None`. -/
def metadata (values : List (String × Option Json)) : Payload :=
  values.filterMap fun value =>
    match value.2 with
    | none | some .null => none
    | some kept => some (value.1, kept)

/-- `metadata` of values taken from the payload under their own names. -/
def picked (payload : Payload) (names : List String) : List (String × Option Json) :=
  names.map fun name => (name, member? payload name)

/-- `isinstance(value, int)`, with its value; a `bool` is one too. -/
def int? : Json → Option Int
  | .bool value => some (if value then 1 else 0)
  | .number token => (String.ofList token.text).toInt?
  | _ => none

def natural (number : Nat) : Json := .number (NumberToken.ofNat number)

def items? : Json → Option (List Json)
  | .array items => some items
  | _ => none

/-- `redact_text`: the masked text, cut to the limit. -/
def Python.redactText (python : Python) (value : String) (limit : Nat) : String :=
  let redacted := python.maskSecrets value
  if redacted.length ≤ limit then redacted
  else String.ofList (redacted.toList.take (limit - 1)) ++ "…"

def sensitiveKeyMarkers : List String :=
  ["api_key", "apikey", "authorization", "credential", "headers", "password", "secret", "token"]

def contentFieldsByTool (toolName : String) : List String :=
  if toolName = "Write" then ["content"]
  else if toolName = "Edit" then ["old_string", "new_string"]
  else if toolName = "mcp__harness-memory__update_user_memory" then ["content"]
  else if toolName = "mcp__harness-memory__propose_memory" then ["content"]
  else []

namespace Python

variable (python : Python)

def sensitive (key : String) : Bool := sensitiveKeyMarkers.any (occursIn · (python.lower key))

mutual

/-- `_redact_value` under a key that is not sensitive. -/
def redactValue : Json → Json
  | .string text => .string (python.redactText text 2000)
  | .array items => .array (redactValues items)
  | .object members => .object (redactMembers members)
  | value => value

def redactValues : List Json → List Json
  | [] => []
  | value :: values => redactValue value :: redactValues values

def redactMembers : List (String × Json) → List (String × Json)
  | [] => []
  | (key, value) :: members =>
    (key, if python.sensitive key then .string "[REDACTED]" else redactValue value) ::
      redactMembers members

end

def redactToolArguments (toolName : String) (arguments : Payload) : Payload :=
  (contentFieldsByTool toolName).foldl
    (fun redacted field =>
      if (member? redacted field).isSome then setMember redacted field (.string "[REDACTED]")
      else redacted)
    (python.redactMembers arguments)

def safeToolArguments (name : String) (payload : Payload) : Option Json :=
  match member? payload "arguments" with
  | some (.object arguments) => some (.object (python.redactToolArguments name arguments))
  | _ => none

/-- The first of two values that is set: `a or b`. -/
def firstSet (first second : Option Json) : Option Json :=
  if (first.map truthy).getD false then first else second

variable (payload : Payload)

def errorSummary : String :=
  let denied := "权限 Profile 未放行此工具"
  let plain :=
    if (getText payload "content").map stripSpace = some "no policy rule matched" then denied
    else "工具返回错误"
  match member? payload "error" with
  | some (.object error) =>
    if getText error "code" = some "policy_denied" then denied
    else
      match (firstSet (member? error "message") (member? error "code")).bind text? with
      | some message => if message ≠ "" then python.redactText message 180 else plain
      | none => plain
  | _ => plain

def contentSummary : Option String :=
  match member? payload "content" with
  | some (.string content) =>
    let stripped := stripSpace content
    if stripped = "" then some "无输出"
    else
      let lines := (splitlines stripped.toList).length
      if 1 < lines then some s!"返回 {lines} 行 · {stripped.length} 字符"
      else some s!"返回 {stripped.length} 字符"
  | some (.array items) => some s!"返回 {items.length} 项"
  | some (.object members) => some s!"返回 {members.length} 个字段"
  | _ => none

/-- `payload.get(name) is True`. -/
def isTrue (name : String) : Bool :=
  match member? payload name with
  | some (.bool true) => true
  | _ => false

def toolResultSummary : Option String :=
  if isTrue payload "redacted" then
    if getText payload "redaction_reason" = some "internal_agent_asset" then
      some "内部 Skill / 提示词内容已隐藏"
    else some "输入文件内容已隐藏"
  else if isTrue payload "is_error" then some (python.errorSummary payload)
  else contentSummary payload

def toolResultPreview : Option String :=
  if isTrue payload "redacted" then none
  else
    let rendered :=
      match member? payload "content" with
      | some (.string content) => some content
      | some (.array items) => some (python.dumpsIndented (.array items))
      | some (.object members) => some (python.dumpsIndented (.object members))
      | _ => none
    (rendered.map stripSpace).bind fun stripped =>
      if stripped = "" then none else some (python.redactText stripped 1200)

/-- `event.timestamp.isoformat().replace("+00:00", "Z")`. -/
def timestamp (event : RunEvent) : String :=
  let written := (python.isoformat event.timestamp).toList
  if "+00:00".toList.isSuffixOf written then String.ofList (written.take (written.length - 6)) ++ "Z"
  else String.ofList written

/-- The dict that `_item` returns. -/
def item (item : ActivityItem) : Json :=
  .object
    [("id", .string item.event.eventId), ("event_type", .string item.event.type),
      ("kind", .string item.kind.value),
      ("status", .string item.status.value),
      ("title", .string item.title),
      ("summary", optionalText item.summary),
      ("timestamp", .string (python.timestamp item.event)),
      ("sequence", natural item.event.sequence),
      ("metadata", .object item.metadata)]

/-- `str(payload.get(name)) if payload.get(name) else None`. -/
def getSet (name : String) : Option String :=
  if isSet payload name then (member? payload name).map python.str else none

/-- `str(payload.get(name)) if payload.get(name) is not None else None`. -/
def getGiven (name : String) : Option String :=
  match member? payload name with
  | none | some .null => none
  | some value => some (python.str value)

variable (event : RunEvent)

def queuedItem : ActivityItem :=
  { event, kind := .run, status := .queued
    title := (python.getSet event.payload "reason").getD "任务已加入队列"
    summary := getText event.payload "reason"
    metadata := metadata
      (picked event.payload ["reason_code", "blocked_by_run_id", "blocked_by_status"]) }

def analysisItem (title : String) (summary : Option String) (values : List (String × Option Json)) :
  ActivityItem :=
  { event, kind := .analysis, status := .succeeded, title, summary, metadata := metadata values }

def stagedItem : ActivityItem :=
  let skillCount := (((member? event.payload "skills").bind items?).map List.length).getD 0
  if skillCount = 0 then analysisItem event "Agent 资源已准备" none []
  else
    analysisItem event "Agent 资源已准备" (some s!"已装载 {skillCount} 个技能")
      [("skill_count", some (natural skillCount))]

def policyItem : ActivityItem :=
  analysisItem event "运行权限已确认" (python.getSet event.payload "policy_id")
    (picked event.payload ["policy_id"])

def directoryItem : ActivityItem :=
  let entryCount := member? event.payload "entry_count"
  analysisItem event "工具能力已加载"
    (((entryCount.filter fun count => (int? count).isSome).map python.str).map fun count =>
      s!"已加载 {count} 项工具能力")
    [("entry_count", entryCount)]

def degradedItem : ActivityItem :=
  let references := (((member? event.payload "references").bind items?).getD []).filterMap text?
  let joined := String.intercalate "、" references
  analysisItem event "部分工具暂不可用"
    (some (if references = [] then "部分 MCP 缺少运行凭据；其余能力继续执行" else joined ++ " 缺少运行凭据；其余能力继续执行"))
    (("references", if references = [] then none else some (.array (references.map .string))) ::
      picked event.payload ["reason", "tool_count"])

def retainedItem : ActivityItem :=
  { analysisItem event "工作区已保留用于恢复"
      (some (match (member? event.payload "retention_seconds").bind int? with
        | some seconds => s!"持久化失败，远程工作区将临时保留 {Int.fdiv seconds 60} 分钟"
        | none => "持久化失败，远程工作区已临时保留"))
      (picked event.payload ["retention_seconds"]) with
    status := .waiting }

def runTitles (type : String) : Option (ItemStatus × String) :=
  if type = "run.provisioning" then some (.running, "正在准备运行环境")
  else if type = "run.running" then some (.running, "Agent 开始执行")
  else if type = "run.resumed" then some (.running, "已恢复执行")
  else if type = "run.cancelling" then some (.waiting, "正在停止运行")
  else if type = "run.cancelled" then some (.cancelled, "运行已停止")
  else if type = "run.succeeded" then some (.succeeded, "运行完成")
  else if type = "run.failed" then some (.failed, "运行失败")
  else if type = "run.rejected" then some (.failed, "运行被拒绝")
  else if type = "run.timed_out" then some (.failed, "运行超时")
  else none

/-- The title and the summary of a `run.` event, where its payload says more than its type. -/
def runTexts (title : String) : String × Option String :=
  let rawMessage := getText payload "message"
  let errorType := getText payload "error_type"
  if getText payload "error_code" = some "provider_content_rejected" then
    ("模型服务拒绝了本轮上下文", rawMessage)
  else if errorType = some "CredentialLeaseError" ∨ errorType = some "McpCredentialError" then
    ("运行凭据不可用", some ("当前 Agent 的模型或 MCP 凭据未配置、已过期或不在当前身份范围内。" ++ "请在 Studio 检查能力连接后重试。"))
  else if getText payload "subtype" = some "error_max_turns" then
    ("达到最大执行回合数", some "Agent 多次调用工具后仍未完成任务，请查看处理过程中的失败动作。")
  else if errorType = some "ToolResolutionError" ∧
      (rawMessage.map (occursIn "published MCP tools are no longer available")).getD false then
    ("Agent 工具配置需要更新", some "当前版本绑定的 MCP 工具已变化，请切换到最新版本，或在 Studio 中重新检查并发布。")
  else (title, rawMessage)

def runItem (status : ItemStatus) (title : String) : ActivityItem :=
  let rawMessage := getText event.payload "message"
  let texts := runTexts event.payload title
  { event, kind := if status = .failed then .error else .run
    status, title := texts.1, summary := texts.2
    metadata := metadata
      (picked event.payload ["error_code", "error_type", "subtype"] ++ [("diagnostic",
          if texts.2 ≠ rawMessage then
            rawMessage.map fun message => .string (python.redactText message 400)
          else none)]) }

def routeItem : ActivityItem :=
  { event, kind := .run, status := .succeeded, title := "模型路由已选择"
    summary := python.getGiven event.payload "model"
    metadata := metadata (picked event.payload ["provider", "model", "used_fallback"]) }

def systemItem : Option ActivityItem :=
  let subtype := python.getStr event.payload "subtype" ""
  let status := python.getStr event.payload "status" ""
  let toolCount := ((member? event.payload "tools").bind items?).map List.length
  if subtype = "thinking_tokens" then none
  else
    some
      { event, kind := .analysis, status := .running
        title :=
          if subtype = "init" then "运行时与工具已连接"
          else if status = "requesting" then "模型正在处理"
          else "运行时状态更新"
        summary :=
          match (if subtype = "init" then toolCount else none) with
          | some count => some s!"{count} 项工具可用"
          | none =>
            if status = "requesting" then some "正在等待本轮模型结果"
            else if status = "" then none
            else some status
        metadata := metadata
          [("subtype", if subtype = "" then none else some (.string subtype)),
            ("tool_count", toolCount.map natural)] }

/-- The markers are compared with the lowered text; `safe_model_text`. -/
def safeModelText (text : String) : String :=
  let normalized := python.lower (stripSpace text)
  if occursIn "content exists risk" normalized || occursIn "content risk" normalized then
    "模型服务拒绝了本轮上下文，可能由输入或外部检索内容触发。" ++ "请重新运行，或缩小主题与时间范围。"
  else if ["api error:", "failed to authenticate. api error:", "failed to connect to api:"].any
      (hasPrefix · normalized) then
    "模型服务拒绝了本轮请求。请打开运行详情查看状态，并稍后重试。"
  else text

def messageItem (status : ItemStatus) (title : String) (summary : Option String) : ActivityItem :=
  { event, kind := .analysis, status, title, summary
    metadata := metadata (picked event.payload ["message_id"]) }

def deltaItem : Option ActivityItem :=
  let text := python.safeModelText (python.getStr event.payload "text" "")
  if stripSpace text = "" then none
  else some (messageItem event .succeeded "进展说明" (some (python.redactText text 2000)))

def requestItem : ActivityItem :=
  let name := python.getStr event.payload "name" "工具"
  { event, kind := if name = "Task" ∨ name = "Agent" then .subagent else .tool
    status := .running, title := s!"调用 {name}"
    metadata := metadata
      [("name", some (.string name)), ("tool_call_id", member? event.payload "tool_call_id"),
        ("arguments", python.safeToolArguments name event.payload)] }

def resultItem : ActivityItem :=
  let failed := isSet event.payload "is_error"
  { event, kind := .tool, status := if failed then .failed else .succeeded
    title := if failed then "工具调用失败" else "工具调用完成"
    metadata := metadata
      [("tool_call_id", member? event.payload "tool_call_id"),
        ("result_summary", (python.toolResultSummary event.payload).map .string),
        ("result_preview", (python.toolResultPreview event.payload).map .string)] }

def approvalItem : ActivityItem :=
  { event, kind := .tool, status := .waiting, title := "等待人工审批"
    summary := python.getSet event.payload "reason"
    metadata := metadata (picked event.payload ["approval_id", "tool_call_id"]) }

def decisionItem (approved : Bool) : ActivityItem :=
  { event, kind := .tool, status := if approved then .succeeded else .failed
    title := if approved then "审批已通过" else "审批已拒绝"
    metadata := metadata (picked event.payload ["approval_id"]) }

def subagentItem : ActivityItem :=
  let failed := hasSuffix "failed" event.type
  let completed := hasSuffix "completed" event.type
  { event, kind := .subagent
    status := if failed then .failed else if completed then .succeeded else .running
    title :=
      if failed then "子 Agent 执行失败"
      else if completed then "子 Agent 已完成"
      else "子 Agent 正在执行"
    summary := (python.getSet event.payload "summary").or (python.getSet event.payload "description")
    metadata := metadata
      (picked event.payload
        ["task_id", "parent_tool_use_id", "task_type", "alias", "agent_name", "agent_version",
          "policy_profile", "depth", "duration_ms", "usage", "error_code", "last_tool_name"]) }

def artifactItem : ActivityItem :=
  { event, kind := .artifact, status := .succeeded, title := "产物已就绪"
    summary := python.getSet event.payload "name"
    metadata := metadata
      (picked event.payload ["artifact_id", "media_type", "size_bytes", "source_path", "source"]) }

def outcomeItem : ActivityItem :=
  let failed := isSet event.payload "is_error"
  let turns := member? event.payload "num_turns"
  let exhausted := failed ∧ getText event.payload "subtype" = some "error_max_turns"
  { event, kind := .result, status := if failed then .failed else .succeeded
    title := if exhausted then "达到最大模型回合数" else if failed then "模型执行失败" else "模型执行完成"
    summary :=
      if exhausted then
        some
          (match turns.filter fun count => (int? count).isSome with
          | some count => s!"已用完 {python.str count} 个模型回合，任务尚未完成"
          | none => "已达到最大模型回合数，任务尚未完成")
      else none
    metadata := metadata
      [("subtype", member? event.payload "subtype"), ("turns", turns),
        ("cost_usd", member? event.payload "total_cost_usd"),
        ("usage", member? event.payload "usage"),
        ("stop_reason", member? event.payload "stop_reason")] }

def activityItem : Option ActivityItem :=
  if event.type = "run.queued" then some (python.queuedItem event)
  else if event.type = "workspace.restored" then
    some (analysisItem event "工作区已恢复" (some "已载入本会话上次保存的工作区") [])
  else if event.type = "agent.assets.staged" then some (stagedItem event)
  else if event.type = "policy.resolved" then some (python.policyItem event)
  else if event.type = "credential.lease.issued" then
    some (analysisItem event "模型访问已就绪" none [])
  else if event.type = "tool.directory.loaded" then some (python.directoryItem event)
  else if event.type = "tool.directory.degraded" then some (degradedItem event)
  else if event.type = "workspace.archived" then
    some (analysisItem event "工作区状态已保存" none [])
  else if event.type = "workspace.recovery_retained" then some (retainedItem event)
  else
    match runTitles event.type with
    | some (status, title) => some (python.runItem event status title)
    | none =>
      if event.type = "model.route.selected" then some (python.routeItem event)
      else if event.type = "runtime.system" then python.systemItem event
      else if event.type = "message.delta" then python.deltaItem event
      else if event.type = "message.start" then
        some (messageItem event .running "正在生成本轮回复" none)
      else if event.type = "message.completed" then
        some (messageItem event .succeeded "本轮回复已生成" none)
      else if event.type = "tool.request" then some (python.requestItem event)
      else if event.type = "tool.result" ∨ event.type = "tool.allowed" then
        some (python.resultItem event)
      else if event.type = "approval.requested" then some (python.approvalItem event)
      else if event.type = "approval.approved" ∨ event.type = "approval.rejected" then
        some (decisionItem event (hasSuffix "approved" event.type))
      else if hasPrefix "subagent." event.type then
        if event.type = "subagent.delta" then none else some (python.subagentItem event)
      else if event.type = "artifact.ready" then some (python.artifactItem event)
      else if event.type = "runtime.result" then some (python.outcomeItem event)
      else none

end Python

/-- The local variables of `build_run_activity`. -/
structure Folded where
  items : List ActivityItem := []
  metrics : Payload := []
  status : ItemStatus := .queued

/-- `metrics.update(values)`. -/
def updateMembers (members values : Payload) : Payload :=
  values.foldl (fun members value => setMember members value.1 value.2) members

namespace Python

variable (python : Python)

def foldEvent (folded : Folded) (event : RunEvent) : Folded :=
  match python.activityItem event with
  | none => folded
  | some item =>
    { items := folded.items ++ [item]
      status :=
        if hasPrefix "run." event.type || event.type = "runtime.result" then item.status
        else folded.status
      metrics :=
        if event.type = "runtime.result" then updateMembers folded.metrics item.metadata
        else folded.metrics }

def activity (first : RunEvent) (status : ItemStatus) (items metrics : Json) : Json :=
  .object
    [("run_id", .string first.runId), ("trace_id", optionalText first.traceId),
      ("status", .string status.value),
      ("started_at", .string (python.timestamp first)),
      ("items", items),
      ("metrics", metrics)]

def buildRunActivity (events : List RunEvent) : Option Json :=
  match python.redactInternalAgentAssetEvents [] events with
  | [] => none
  | first :: rest =>
    let events := first :: rest
    let folded := events.foldl python.foldEvent {}
    if folded.items.isEmpty then none
    else
      let queued := (events.find? fun event => event.type = "run.queued").getD first
      some
        (python.activity queued folded.status (.array (folded.items.map python.item))
          (.object folded.metrics))

end Python

inductive ActivityEvent
  | snapshot (messageId activityType : String) (content : Json)
  | delta (messageId activityType : String) (patch : List PatchOperation)

/-- `f"activity-{run_id}"`. -/
def activityMessageId (runId : String) : String := "activity-" ++ runId

namespace Python

variable (python : Python)

def deltaPatch (event : RunEvent) (item : ActivityItem) : List PatchOperation :=
  [.add "/items/-" (python.item item)] ++
    (if hasPrefix "run." event.type then [.replace "/status" (.string item.status.value)] else []) ++
      if event.type = "runtime.result" then
        .replace "/status" (.string item.status.value) ::
          item.metadata.map fun value => .add ("/metrics/" ++ value.1) value.2
      else []

def activityProjection (event : RunEvent) : List ActivityEvent :=
  match python.activityItem event with
  | none => []
  | some item =>
    if event.type = "run.queued" then
      [.snapshot (activityMessageId event.runId) ACTIVITY_TYPE
        (python.activity event .queued (.array [python.item item]) (.object []))]
    else
      [.delta (activityMessageId event.runId) ACTIVITY_TYPE (python.deltaPatch event item)]

end Python

abbrev ActivityMessages := String → Option Json

def receive (messages : ActivityMessages) : ActivityEvent → Option ActivityMessages
  | .snapshot messageId _ content => some (update messages messageId (some content))
  | .delta messageId _ patch =>
    ((messages messageId).bind (applyPatch patch)).map fun content =>
      update messages messageId (some content)

def receiveAll (messages : ActivityMessages) (events : List ActivityEvent) :
  Option ActivityMessages :=
  events.foldlM receive messages

end AgentHarness.Agui
