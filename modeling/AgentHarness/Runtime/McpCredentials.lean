import Mathlib.Data.List.Sort
import AgentHarness.Collections.Dict

/-!
Credentials for MCP servers: what a user has stored, and behind it the platform's secrets.
-/

namespace AgentHarness.Runtime

open Collections

structure ExecutionIdentity where
  (tenantId userId : String)
  agentOwnerUserId : Option String := none
  teamIds : List String := []
  (projectId sessionId runId agentName agentVersion : String)

/-- A `ToolResolutionError`, an `McpCredentialError`, or any other exception. -/
inductive ToolError where
  | resolution (message : String)
  | credential (message : String)
  | other (message : String)

structure StoredMcpCredential where
  (tenantId ownerUserId reference : String)
  revision : Nat
  keyNames : List String
  ciphertext : String

inductive CredentialSource where
  | user
  | platform
  deriving DecidableEq

structure Credentials where
  source : CredentialSource
  values : Dict String String

def missing (reference : String) (keys : List String) : ToolError :=
  .credential ("missing MCP credentials: " ++ ", ".intercalate
    ((keys.insertionSort (· ≤ ·)).map fun key => reference ++ "." ++ key))

structure ServerSecretReferenceProvider where
  references : Dict String (Dict String String) := Dict.empty
  secrets : Dict String String := Dict.empty

def ServerSecretReferenceProvider.resolve (provider : ServerSecretReferenceProvider)
  (serverReference : String) (requiredKeys : List String) : Except ToolError (Dict String String) :=
  let references := (provider.references.get? serverReference).getD Dict.empty
  let resolved := references.entries.foldl (fun resolved entry =>
    match provider.secrets.get? entry.2 with
    | some secret => resolved.set entry.1 secret
    | none => resolved) Dict.empty
  let absent := requiredKeys.filter fun key => (resolved.get? key).isNone
  if absent ≠ [] then .error (missing serverReference absent) else .ok resolved

structure StoredMcpCredentialProvider where
  stored : Dict (String × String × String) StoredMcpCredential := Dict.empty
  decrypt : StoredMcpCredential → Except ToolError (Dict String String)
  fallback : ServerSecretReferenceProvider

namespace StoredMcpCredentialProvider

variable (provider : StoredMcpCredentialProvider)

def platformCredentials (serverReference : String) (requiredKeys : List String) :
  Except ToolError Credentials :=
  match provider.fallback.resolve serverReference requiredKeys with
  | .ok values => .ok ⟨.platform, values⟩
  | .error (.credential _) => .error (missing serverReference requiredKeys)
  | .error error => .error error

def resolve (serverReference : String) (identity : ExecutionIdentity)
  (requiredKeys : List String) : Except ToolError Credentials :=
  match provider.stored.get? (identity.tenantId, identity.userId, serverReference) with
  | none => provider.platformCredentials serverReference requiredKeys
  | some stored =>
    match provider.decrypt stored with
    | .error error => .error error
    | .ok values =>
      if requiredKeys.all (fun key => (values.get? key).isSome) then
        .ok ⟨.user, values.filter fun key _ => key ∈ requiredKeys⟩
      else provider.platformCredentials serverReference requiredKeys

end StoredMcpCredentialProvider

end AgentHarness.Runtime
