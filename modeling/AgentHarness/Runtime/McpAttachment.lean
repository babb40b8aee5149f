import AgentHarness.Runtime.Tools

/-!
Which credentials an MCP server is given.
-/

namespace AgentHarness.Runtime

open Collections Core Dict List Option

def ResolveRequest.scope (request : ResolveRequest) : Option (String × String) :=
  request.identity.map fun identity => (identity.tenantId, identity.userId)

namespace ToolResolver

variable (resolver : ToolResolver)

def used (request : ResolveRequest) (reference : String) : Except ToolError McpUse :=
  match resolver.registryFor request with
  | .error error => .error error
  | .ok registry =>
    match registry reference with
    | none => .error (.resolution ("MCP tool registration is not configured: " ++ reference))
    | some registration => resolver.useOf request reference registration

def cataloged (scope : Option (String × String)) (reference : String) :
  Option McpServerRegistration :=
  match resolver.mcpRegistryProvider, scope with
  | some provider, some (tenantId, userId) =>
    match provider tenantId userId with
    | .ok catalog => catalog reference
    | .error _ => none
  | _, _ => none

/-- The platform's registration of a reference, or the one in the user's catalog where the
platform has none. -/
def registered (scope : Option (String × String)) (reference : String) :
  Option McpServerRegistration :=
  (resolver.mcpRegistry reference).or (resolver.cataloged scope reference)

section

variable {resolver} {request : ResolveRequest} {registry : McpRegistry} {reference : String}
  {registration : McpServerRegistration} {use : McpUse}

end

section

variable {resolver} {registry : McpRegistry} {request : ResolveRequest} {before after : Gathered}

private structure Extends (before after : ResolvedTools) : Prop where
  servers : ∀ name server, before.mcpServers.get? name = some server →
    after.mcpServers.get? name = some server
  unavailable : ∀ reference, (before.unavailableMcp.get? reference).isSome →
    (after.unavailableMcp.get? reference).isSome

variable {tools : ResolvedTools} {reference : String}

theorem Extends.refl : Extends tools tools := ⟨fun _ _ found => found, fun _ found => found⟩

theorem Extends.trans {first second third : ResolvedTools} (left : Extends first second)
  (right : Extends second third) : Extends first third :=
  ⟨fun name server found => right.servers name server (left.servers name server found),
    fun reference found => right.unavailable reference (left.unavailable reference found)⟩

def Serves (resolver : ToolResolver) (registry : McpRegistry) (request : ResolveRequest)
  (tools : ResolvedTools) (reference : String) : Prop :=
  (∃ registration use, registry reference = some registration ∧
    resolver.useOf request reference registration = .ok use ∧
      tools.mcpServers.get? use.registration.serverName = some (.remote use.config)) ∨
  (tools.unavailableMcp.get? reference).isSome

theorem Serves.extends {later : ResolvedTools}
  (serves : Serves resolver registry request tools reference) (extend : Extends tools later) :
  Serves resolver registry request later reference := by
  rcases serves with ⟨registration, use, found, ok, server⟩ | unavailable
  · exact .inl ⟨registration, use, found, ok, extend.servers _ _ server⟩
  exact .inr (extend.unavailable _ unavailable)

end

end ToolResolver

def asking (tools : List ToolSpec) : ResolveRequest where
  manifest :=
    { metadata := { name := "web-agent", version := "1.0.0" }
      spec :=
        { model := { route := "default", model := "small" }, prompt := { system := "prompt.md" }
          tools, permissions := { policy := "standard" } } }
  identity := some
    { tenantId := "tenant", userId := "owner", projectId := "web-agent", sessionId := "session"
      runId := "run", agentName := "web-agent", agentVersion := "1.0.0" }

end AgentHarness.Runtime
