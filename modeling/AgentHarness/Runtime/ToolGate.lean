import AgentHarness.Interaction.Contract
import AgentHarness.Core.Run
import AgentHarness.Runtime.FileCapabilities

/-!
The tool gate: a hook that decides before each tool execution.

Hooks of one run share their state and interleave at every await, so a hook is
a program over that state, the event log, the approvals and the quotas.
-/

namespace AgentHarness.Runtime

open Collections Interaction Policy Quota

def serverName : String := "harness-sandbox"

def supportedBuiltins : List String := ["Read", "Write", "Edit", "Bash", "Glob", "Grep"]

def after? (text lead : String) : Option String :=
  if lead.toList.isPrefixOf text.toList then
    some (String.ofList (text.toList.drop lead.length))
  else
    none

def startsWith (text lead : String) : Bool := lead.toList.isPrefixOf text.toList

/-- `canonical_tool_name`: the builtin behind a proxied sandbox tool. -/
def canonicalToolName (name : String) : String :=
  match after? name ("mcp__" ++ serverName ++ "__") with
  | none => name
  | some candidate =>
    (supportedBuiltins.find? (fun builtin =>
      builtin.toList.map Char.toLower = candidate.toList)).getD name

structure ResolvedPolicy where
  policyId : String
  callPolicy : PolicyEngine
  resultPolicy : ResultPolicyEngine

structure RuntimeContext where
  (tenantId runId agentName : String)
  environment : Option String := none
  workspace : Workspace
  sandboxIsolation : SandboxIsolation := .workspace
  sandboxCommandExecutor : Bool := false
  resolvedPolicy : Option ResolvedPolicy := none

structure PreToolUseHookInput where
  (toolName toolUseId : String)
  toolInput : ToolArguments
  agentType : String := ""
  agentId : String := ""

inductive PermissionDecision where
  | allow
  | deny
  deriving DecidableEq

structure HookOutput where
  decision : PermissionDecision
  reason : String
  updatedInput : Option ToolArguments := none

inductive GateEvent where
  | toolRequest (name toolCallId policyProfile : String) (contextTrust : ContextTrust)
      (agentId : String)
  | toolDenied (toolCallId reason : String)
  | toolAllowed (toolCallId : String)
  | contextTrustChanged (toolCallId toolName : String) (previous current : ContextTrust)
      (policyRule : Option String)

structure ToolApproval where
  (toolCallId toolName reason policyRule risk : String)

inductive GateError where
  | quotaExceeded (resource : QuotaResource)
  | cancelled
  | other (type : String)
  deriving DecidableEq

structure PendingTrust where
  toolName : String
  trust : ContextTrust
  policyRule : String

inductive GateOp where
  | appendEvent (event : GateEvent)
  | fileSystem
  | capabilities
  | contextTrust
  | notePendingTrust (toolUseId : String) (pending : PendingTrust)
  | dropPendingTrust (toolUseId : String)
  | observe (target : PurePath) (found : Bool)
  | noteAuthorizedWrite (toolUseId : String) (target : PurePath)
  | requestApproval (approval : ToolApproval)
  | waitForDecision (approvalId : String)
  | cancelPending (approvalId reason : String)
  | consumeQuota (resource : QuotaResource) (idempotencyKey : String)
  | reserveQuota (resource : QuotaResource) (idempotencyKey : String) (ttlSeconds : Nat)
  | releaseQuota (idempotencyKey : String)
  | toolSucceeds
  | noteSuccess (toolUseId toolName : String)
  | noteFailure (toolUseId : String)
  | acceptResult (toolUseId : String)

abbrev GateOp.Answer : GateOp → Type
  | .fileSystem => FileSystem
  | .capabilities => RunFileCapabilities
  | .contextTrust => ContextTrust
  | .requestApproval _ => String
  | .waitForDecision _ => ApprovalStatus
  | .toolSucceeds => Bool
  | .acceptResult _ => Option (ContextTrust × PendingTrust)
  | _ => Unit

abbrev GateProgram := Program GateOp GateOp.Answer GateError

namespace GateOp

open Program

abbrev append (event : GateEvent) : GateProgram Unit :=
  perform (.appendEvent event) fun answer => answer

abbrev readFileSystem : GateProgram FileSystem := perform .fileSystem fun answer => answer

abbrev readCapabilities : GateProgram RunFileCapabilities :=
  perform .capabilities fun answer => answer

abbrev readContextTrust : GateProgram ContextTrust := perform .contextTrust fun answer => answer

abbrev tell (op : GateOp) : GateProgram Unit := perform op fun _ => ()

abbrev request (approval : ToolApproval) : GateProgram String :=
  perform (.requestApproval approval) fun answer => answer

abbrev wait (approvalId : String) : GateProgram ApprovalStatus :=
  perform (.waitForDecision approvalId) fun answer => answer

end GateOp

def approvalRisk (toolName : String) : String :=
  if toolName = "Bash" then "high"
  else if toolName = "Write" ∨ toolName = "Edit" then "medium"
  else "low"

/-- The engines of one run.  `lowRiskBash` is the classifier of Bash commands, given
the command, the workspace and the Python files the run has generated. -/
structure SdkToolGate where
  lowRiskBash : String → Workspace → List String → Bool
  quotas : Bool
  policyId : String
  policy : PolicyEngine
  subagentPolicies : Dict String (String × PolicyEngine) := Dict.empty
  declaredTrust : Dict String ContextTrust := Dict.empty

namespace SdkToolGate

open GateOp Program

variable (context : RuntimeContext)

def readArguments (files : FileSystem) (arguments : ToolArguments) : Option ToolArguments :=
  let updated := context.workspace.normalizeSkillRead files arguments
  if arguments.get? "pages" = some (.text "") then
    some ((updated.getD arguments).erase "pages")
  else
    updated

def requestedAlias (arguments : ToolArguments) : String :=
  (["subagent_type", "agent", "name"].findSome? (fun key =>
    match arguments.get? key with
    | some (.text value) => if value = "" then none else some value
    | _ => none)).getD ""

def isDelegation (toolName : String) : Bool := toolName = "Task" || toolName = "Agent"

def isWrite (toolName : String) : Bool := toolName = "Write" || toolName = "Edit"

def publishedMcp (declared : List String) (rawToolName toolName : String) : Bool :=
  startsWith rawToolName "mcp__" && !startsWith rawToolName "mcp__harness-python-" &&
    (declared.contains rawToolName || declared.contains toolName)

def declaredPythonTool (declared : List String) (rawToolName : String) : Bool :=
  startsWith rawToolName "mcp__harness-python-" && declared.contains rawToolName &&
    context.sandboxCommandExecutor

def runGeneratedFile : PolicyResult where
  decision := .allow
  ruleName := "run-generated-file"
  reason := "matched run-created file capability"

def sandboxLowRiskBash : PolicyResult where
  decision := .allow
  ruleName := "sandbox-low-risk-bash"
  reason := "matched sandbox low-risk Bash policy"

def publishedMcpTool : PolicyResult where
  decision := .allow
  ruleName := "published-mcp-tool"
  reason := "matched MCP tool declared by the published Agent tool directory"

def declaredSandboxPythonTool : PolicyResult where
  decision := .allow
  ruleName := "declared-sandbox-python-tool"
  reason := "matched declared Bundle Python tool in isolated Sandbox"

variable (gate : SdkToolGate)

def lowRiskCommand (context : RuntimeContext) (arguments : ToolArguments)
  (capabilities : RunFileCapabilities) : Bool :=
  gate.lowRiskBash (((arguments.get? "command").map ArgumentValue.rendered).getD "")
    context.workspace (capabilities.generatedPythonFiles context.workspace)

def effectiveResult (context : RuntimeContext) (rawToolName : String) (arguments : ToolArguments)
  (writeTarget : Option PurePath) (capabilities : RunFileCapabilities)
  (evaluated : PolicyResult) : PolicyResult :=
  let toolName := canonicalToolName rawToolName
  let declared := gate.declaredTrust.entries.map Prod.fst
  let first := if writeTarget.any capabilities.isGenerated then runGeneratedFile else evaluated
  let second :=
    if toolName = "Bash" ∧ first.decision = .ask ∧
        gate.lowRiskCommand context arguments capabilities = true then sandboxLowRiskBash
    else first
  let third :=
    if second.decision = .deny ∧ second.ruleName = "implicit-deny" ∧
        publishedMcp declared rawToolName toolName = true then publishedMcpTool
    else second
  if third.decision = .deny ∧ declaredPythonTool context declared rawToolName = true then
    declaredSandboxPythonTool
  else third

def denied (toolCallId reason : String) : GateProgram HookOutput := do
  append (.toolDenied toolCallId reason)
  return { decision := .deny, reason }

def approved (toolCallId toolName : String) (result : PolicyResult) : GateProgram Bool := do
  let approvalId ← GateOp.request
    { toolCallId, toolName, reason := result.reason
      policyRule := result.ruleName, risk := approvalRisk toolName }
  let decision ← (wait approvalId).catching (fun error =>
    if error = .cancelled then do
      tell (.cancelPending approvalId "tool authorization wait interrupted")
      .raised error
    else .raised error)
  return decision = .approved

def chargeCall (rawToolName toolName toolCallId : String) : GateProgram Unit :=
  if startsWith rawToolName "mcp__" then
    tell (.consumeQuota .mcpRequests ("run:" ++ context.runId ++ ":mcp:" ++ toolCallId))
  else if isDelegation toolName then
    tell (.reserveQuota .concurrentSubagents
      ("run:" ++ context.runId ++ ":subagent:" ++ toolCallId) 3600)
  else .done ()

def charge (context : RuntimeContext) (rawToolName toolName : String) (toolCallId : String) :
  GateProgram (Option QuotaResource) :=
  if gate.quotas then
    ((chargeCall context rawToolName toolName toolCallId).bind fun _ => .done none).catching
      (fun error =>
        match error with
        | .quotaExceeded resource => .done (some resource)
        | _ => .raised error)
  else .done none

def finish (context : RuntimeContext) (rawToolName toolCallId : String)
  (writeTarget : Option PurePath) (updated : Option ToolArguments) (result : PolicyResult) :
  GateProgram HookOutput := do
  let toolName := canonicalToolName rawToolName
  let granted ← if result.decision = .ask then approved toolCallId toolName result
    else .done true
  if granted = false then
    return { decision := .deny, reason := "tool use was not approved" }
  else do
    if toolName = "Write" then
      each writeTarget.toList fun target => tell (.noteAuthorizedWrite toolCallId target)
    match ← gate.charge context rawToolName toolName toolCallId with
    | some resource => denied toolCallId ("quota exceeded for " ++ resource.value)
    | none => do
        append (.toolAllowed toolCallId)
        return { decision := .allow, reason := result.reason, updatedInput := updated }

def callContext (toolName : String) (arguments : ToolArguments) (contextTrust : ContextTrust) :
  PolicyContext :=
  { tenantId := context.tenantId, agentName := context.agentName, toolName
    arguments, sandboxIsolation := context.sandboxIsolation
    contextTrust }

def undeclaredAlias (toolName : String) (arguments : ToolArguments) : Bool :=
  let aliases := gate.subagentPolicies.entries.map Prod.fst
  isDelegation toolName && !aliases.isEmpty && !aliases.contains (requestedAlias arguments)

def judgedArguments (toolName : String) (arguments : ToolArguments) :
  GateProgram (Option ToolArguments) :=
  if toolName = "Read" then do
    let files ← readFileSystem
    return readArguments context files arguments
  else .done none

def observedTarget (toolName : String) (arguments : ToolArguments) :
  GateProgram (Option (PurePath × Bool)) :=
  if isWrite toolName then do
    let files ← readFileSystem
    return (context.workspace.target files arguments).map
      (fun target => (target, files.fileExists target))
  else .done none

def authorize (context : RuntimeContext) (input : PreToolUseHookInput) (policyId : String)
  (policy : PolicyEngine) (contextTrust : ContextTrust) : GateProgram HookOutput := do
  let toolName := canonicalToolName input.toolName
  let updated ← judgedArguments context toolName input.toolInput
  let arguments := updated.getD input.toolInput
  append (.toolRequest toolName input.toolUseId policyId contextTrust input.agentId)
  if gate.undeclaredAlias toolName arguments then
    denied input.toolUseId "subagent role is not declared by the published Agent Manifest"
  else do
    let target ← observedTarget context toolName arguments
    if isWrite toolName && target.isNone then
      denied input.toolUseId "write path must stay within the run workspace"
    else do
      each target.toList (fun observed => tell (.observe observed.1 observed.2))
      let capabilities ← readCapabilities
      let evaluated := policy.evaluate (callContext context toolName arguments contextTrust)
      let writeTarget := target.map Prod.fst
      let result := gate.effectiveResult context input.toolName arguments writeTarget
        capabilities evaluated
      if result.decision = .deny then
        denied input.toolUseId result.reason
      else
        gate.finish context input.toolName input.toolUseId writeTarget updated result

def selectPolicy (input : PreToolUseHookInput) : String × PolicyEngine :=
  let declared (name : String) : Bool := (gate.subagentPolicies.get? name).isSome
  let key :=
    if declared input.agentType then input.agentType
    else if declared input.agentId then input.agentId
    else ""
  let child := if key = "" then none else gate.subagentPolicies.get? key
  match child with
  | some selected => selected
  | none =>
    if gate.subagentPolicies.entries.isEmpty ∨ input.agentType = "" ∧ input.agentId = "" then
      (gate.policyId, gate.policy)
    else
      ("unknown-subagent", { rules := [] })

def resultTrust (context : RuntimeContext) (input : PreToolUseHookInput) : PendingTrust :=
  let toolName := canonicalToolName input.toolName
  let catalog := match gate.declaredTrust.get? input.toolName with
    | some trust => trust
    | none => (gate.declaredTrust.get? toolName).getD .safe
  match context.resolvedPolicy with
  | none => { toolName, trust := catalog, policyRule := "tool-catalog" }
  | some resolved =>
    let agentName :=
      if input.agentType ≠ "" then input.agentType
      else if input.agentId ≠ "" then input.agentId
      else context.agentName
    let result := resolved.resultPolicy.evaluate toolName agentName
    let trust := stricterTrust catalog result.trust
    { toolName, trust
      policyRule := if trust = result.trust then result.ruleName else "tool-catalog" }

def preToolUse (context : RuntimeContext) (input : PreToolUseHookInput) :
  GateProgram HookOutput := do
  let pending := gate.resultTrust context input
  if pending.trust ≠ .safe then
    tell (.notePendingTrust input.toolUseId pending)
  let contextTrust ← readContextTrust
  let selected := gate.selectPolicy input
  let output ← gate.authorize context input selected.1 selected.2 contextTrust
  if output.decision = .deny then
    tell (.dropPendingTrust input.toolUseId)
  return output

end SdkToolGate

end AgentHarness.Runtime
