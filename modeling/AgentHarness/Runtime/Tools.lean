import AgentHarness.Core.Manifest
import AgentHarness.Policy.Rules
import AgentHarness.Runtime.McpCredentials

/-!
Resolving the tools of a manifest.
-/

namespace AgentHarness.Runtime

open Collections Core
open Policy (ContextTrust)

inductive McpTransport where
  | http
  | sse

/-- A URL by what `urlsplit` and `parse_qsl` make of it. -/
structure McpUrl where
  location : String
  query : List (String × String) := []
  fragment : String := ""

structure McpServerConfig where
  transport : McpTransport
  url : McpUrl
  headers : Option (List (String × String)) := none
  env : Option (List (String × String)) := none

structure McpSmokeCheck where
  tool : String
  arguments : List (String × String)

/-- A registration as `__post_init__` lets it pass: its endpoint has neither headers nor an
environment, and its credentials go to different places. -/
structure McpServerRegistration where
  serverName : String
  transport : McpTransport := .http
  url : McpUrl
  allowedTools : List String := []
  credentialHeaders : List (String × String) := []
  credentialHeaderPrefixes : List (String × String) := []
  credentialEnvironment : List (String × String) := []
  credentialQueryParameters : List (String × String) := []
  preflightSmoke : Option McpSmokeCheck := none
  resultTrust : ContextTrust := .untrusted
  distinctTargets : ((credentialHeaders ++ credentialEnvironment ++
    credentialQueryParameters).map Prod.fst).Nodup
  prefixesTargeted : ∀ target ∈ credentialHeaderPrefixes.map Prod.fst,
    target ∈ credentialHeaders.map Prod.fst
  prefixesOneLine : ∀ value ∈ credentialHeaderPrefixes.map Prod.snd,
    '\n' ∉ value.toList ∧ '\r' ∉ value.toList

namespace McpServerRegistration

variable (registration : McpServerRegistration)

def config : McpServerConfig where
  transport := registration.transport
  url := registration.url

def bindings : List (String × String) :=
  registration.credentialHeaders ++ registration.credentialEnvironment ++
    registration.credentialQueryParameters

def requiredKeys : List String := (registration.bindings.map Prod.snd).dedup

end McpServerRegistration

abbrev McpRegistry := String → Option McpServerRegistration

/-- `dict.update`. -/
def McpRegistry.update (registry other : McpRegistry) : McpRegistry := fun reference =>
  (other reference).or (registry reference)

structure SdkMcpTool where
  name : String

inductive McpServer where
  | remote (config : McpServerConfig)
  | sdk (serverName : String) (tools : List SdkMcpTool)

structure ResolvedTools where
  builtinTools : List String := []
  mcpServers : Dict String McpServer := Dict.empty
  allowedTools : List String := []
  mcpSmokes : Dict String McpSmokeCheck := Dict.empty
  resultTrust : Dict String ContextTrust := Dict.empty
  sensitiveNames : List String := []
  sensitiveValues : List String := []
  unavailableMcp : Dict String (List String) := Dict.empty

structure ToolResolver where
  mcpRegistry : McpRegistry
  mcpRegistryProvider : Option (String → String → Except ToolError McpRegistry) := none
  credentialProvider : StoredMcpCredentialProvider
  loadPythonTools : String → Except ToolError (List SdkMcpTool)

structure ResolveRequest where
  manifest : AgentManifest
  identity : Option ExecutionIdentity := none
  pythonToolOverrides : Dict String SdkMcpTool := Dict.empty
  tolerateUnavailableMcp : Bool := false

structure McpUse where
  registration : McpServerRegistration
  credentials : Credentials
  config : McpServerConfig

structure Gathered where
  tools : ResolvedTools := {}
  pythonTools : List SdkMcpTool := []
  hasPythonOverride : Bool := false

def requestedMcp (manifest : AgentManifest) : List String :=
  manifest.spec.tools.filterMap ToolSpec.mcp?

namespace ToolResolver

variable (resolver : ToolResolver) (request : ResolveRequest)

/-- The registrations of one resolution: the platform's, and the user's catalog over them when
some reference is not the platform's. -/
def registryFor : Except ToolError McpRegistry :=
  let needsTenantRegistry :=
    (requestedMcp request.manifest).any fun reference => (resolver.mcpRegistry reference).isNone
  match resolver.mcpRegistryProvider, needsTenantRegistry, request.identity with
  | some provider, true, some identity =>
    (provider identity.tenantId identity.userId).map resolver.mcpRegistry.update
  | some _, true, none =>
    .error (.credential "execution identity is required for tenant MCP registrations")
  | _, _, _ => .ok resolver.mcpRegistry

def bind (credentials : Credentials) (bindings : List (String × String)) : List (String × String) :=
  bindings.map (fun binding => (binding.1, (credentials.values.get? binding.2).getD ""))

def prefixedHeaders (registration : McpServerRegistration) (credentials : Credentials) :
  List (String × String) :=
  (bind credentials registration.credentialHeaders).map (fun header =>
    (header.1, ((registration.credentialHeaderPrefixes.lookup header.1).getD "") ++ header.2))

def configured (reference : String) (registration : McpServerRegistration)
  (credentials : Credentials) : Except ToolError McpServerConfig :=
  let injected := bind credentials registration.credentialQueryParameters
  let duplicates := (injected.map Prod.fst).filter (fun name =>
    name ∈ registration.url.query.map Prod.fst)
  if duplicates ≠ [] then
    .error (.resolution ("MCP query credential already present: " ++ reference ++ "." ++
      ", ".intercalate (duplicates.insertionSort (· ≤ ·))))
  else
    .ok
      { registration.config with
        url := { registration.url with query := registration.url.query ++ injected }
        headers :=
          if registration.credentialHeaders = [] then none
          else some (prefixedHeaders registration credentials)
        env :=
          if registration.credentialEnvironment = [] then none
          else some (bind credentials registration.credentialEnvironment) }

variable (manifest : AgentManifest)

def anonymous : ExecutionIdentity where
  tenantId := "none"
  userId := "none"
  projectId := "none"
  sessionId := "none"
  runId := "none"
  agentName := manifest.metadata.name
  agentVersion := manifest.metadata.version

def credentialsFor (reference : String) (registration : McpServerRegistration) :
  Except ToolError Credentials :=
  if registration.requiredKeys = [] then .ok ⟨.user, Dict.empty⟩
  else
    resolver.credentialProvider.resolve reference
      (request.identity.getD (anonymous request.manifest)) registration.requiredKeys

def useOf (reference : String) (registration : McpServerRegistration) : Except ToolError McpUse :=
  match resolver.credentialsFor request reference registration with
  | .error error => .error error
  | .ok credentials =>
    match configured reference registration credentials with
    | .error error => .error error
    | .ok config => .ok ⟨registration, credentials, config⟩

def exposed (use : McpUse) : List (String × String) :=
  (if use.registration.credentialHeaders = [] then []
    else prefixedHeaders use.registration use.credentials) ++
  bind use.credentials use.registration.credentialEnvironment ++
  bind use.credentials use.registration.credentialQueryParameters

def addServer (tools : ResolvedTools) (use : McpUse) : ResolvedTools :=
  let registration := use.registration
  { tools with
    mcpServers := tools.mcpServers.set registration.serverName (.remote use.config)
    mcpSmokes :=
      match registration.preflightSmoke with
      | some smoke => tools.mcpSmokes.set registration.serverName smoke
      | none => tools.mcpSmokes
    allowedTools := tools.allowedTools ++
      (registration.allowedTools.filter (· ∉ tools.allowedTools)).eraseDups
    resultTrust := registration.allowedTools.foldl
      (fun trust tool => trust.set tool registration.resultTrust) tools.resultTrust
    sensitiveNames := tools.sensitiveNames ++ (exposed use).map Prod.fst
    sensitiveValues := tools.sensitiveValues ++ (exposed use).map Prod.snd }

def gatherMcp (registry : McpRegistry) (request : ResolveRequest) (gathered : Gathered)
  (reference : String) : Except ToolError Gathered :=
  match registry reference with
  | none => .error (.resolution ("MCP tool registration is not configured: " ++ reference))
  | some registration =>
    if (gathered.tools.mcpServers.get? registration.serverName).isSome then
      .error (.resolution ("duplicate MCP server name: " ++ registration.serverName))
    else if registration.requiredKeys ≠ [] ∧ request.identity = none then
      .error (.credential ("execution identity is required for MCP credentials: " ++ reference))
    else
      match resolver.credentialsFor request reference registration with
      | .error (.credential message) =>
        if request.tolerateUnavailableMcp then
          .ok { gathered with
            tools := { gathered.tools with
              unavailableMcp :=
                gathered.tools.unavailableMcp.set reference registration.allowedTools } }
        else .error (.credential message)
      | .error error => .error error
      | .ok credentials =>
        match configured reference registration credentials with
        | .error error => .error error
        | .ok config =>
          .ok { gathered with
            tools := addServer gathered.tools ⟨registration, credentials, config⟩ }

def gatherPython (gathered : Gathered) (entry : String) : Except ToolError Gathered :=
  match request.pythonToolOverrides.get? entry with
  | some override =>
    .ok { gathered with
      pythonTools := gathered.pythonTools ++ [override], hasPythonOverride := true }
  | none =>
    if "bundle:".toList.isPrefixOf entry.toList then
      .error (.resolution ("Bundle Python tool was not staged: " ++ entry))
    else
      match resolver.loadPythonTools entry with
      | .error error => .error error
      | .ok tools => .ok { gathered with pythonTools := gathered.pythonTools ++ tools }

def gatherTool (registry : McpRegistry) (request : ResolveRequest) (gathered : Gathered) :
    ToolSpec → Except ToolError Gathered
  | .builtin name =>
    .ok { gathered with
      tools := { gathered.tools with
        builtinTools :=
          if name ∈ gathered.tools.builtinTools then gathered.tools.builtinTools
          else gathered.tools.builtinTools ++ [name] } }
  | .python entry => resolver.gatherPython request gathered entry
  | .mcp reference => resolver.gatherMcp registry request gathered reference

def gather (registry : McpRegistry) (request : ResolveRequest) (gathered : Gathered) :
    List ToolSpec → Except ToolError Gathered
  | [] => .ok gathered
  | tool :: tools =>
    match resolver.gatherTool registry request gathered tool with
    | .error error => .error error
    | .ok gathered => gather registry request gathered tools

def pythonServerName (agentName : String) : String := "harness-python-" ++ agentName

def duplicateTool (tools : List SdkMcpTool) : Option SdkMcpTool :=
  tools.find? fun tool => 1 < (tools.map SdkMcpTool.name).count tool.name

def pythonServer (gathered : Gathered) : String :=
  if gathered.hasPythonOverride then pythonServerName manifest.metadata.name
  else "harness-python"

def canonicalNames (serverName : String) (tools : List SdkMcpTool) : List String :=
  tools.map (fun tool => "mcp__" ++ serverName ++ "__" ++ tool.name)

def addPythonServer (gathered : Gathered) : Except ToolError ResolvedTools :=
  match duplicateTool gathered.pythonTools with
  | some tool => .error (.resolution ("duplicate python tool name: " ++ tool.name))
  | none =>
    if gathered.pythonTools = [] then .ok gathered.tools
    else if (gathered.tools.mcpServers.get? (pythonServer manifest gathered)).isSome then
      .error (.resolution ("duplicate MCP server name: " ++ pythonServer manifest gathered))
    else
      .ok { gathered.tools with
        mcpServers := gathered.tools.mcpServers.set (pythonServer manifest gathered)
          (.sdk (pythonServer manifest gathered) gathered.pythonTools)
        allowedTools := gathered.tools.allowedTools ++
          canonicalNames (pythonServer manifest gathered) gathered.pythonTools
        resultTrust := (canonicalNames (pythonServer manifest gathered)
          gathered.pythonTools).foldl (fun trust name => trust.set name .safe)
            gathered.tools.resultTrust }

def resolve : Except ToolError ResolvedTools :=
  match resolver.registryFor request with
  | .error error => .error error
  | .ok registry =>
    match resolver.gather registry request {} request.manifest.spec.tools with
    | .error error => .error error
    | .ok gathered => addPythonServer request.manifest gathered

end ToolResolver

open Collections

inductive McpAuthMode where
  | anonymous
  | bearer
  | header (name : String)
  | query (name : String)

/-- An entry of a user's catalog; a header or a query parameter always has a name. -/
structure McpCapability where
  reference : String
  serverName : Option String := none
  endpointUrl : Option McpUrl := none
  transport : McpTransport := .http
  tools : List String := []
  authMode : McpAuthMode := .anonymous
  authKey : String := "authorization"

end AgentHarness.Runtime
