import AgentHarness.Governance.Connections

/-!
The leases of a credential broker, while connections change and issues overlap.
-/

namespace AgentHarness.Governance

open Collections Dict Function GovernanceService Dict List

structure RunIdentity extends ExecutionIdentity where
  runId : String

abbrev CredentialValues := List (String × String)

structure CredentialLease where
  (tenantId runId : String)
  resourceKind : CredentialResourceKind
  (resourceReference secretReference : String)
  connectionId : Option String
  expiresAt : Int
  values : CredentialValues
  revokedAt : Option Int := none

structure IssueRequest where
  identity : RunIdentity
  resourceKind : CredentialResourceKind
  resourceReference : String
  requiredKeys : List String
  ttlSeconds : Int := 300

/-- What a broker is composed of; `managed` says that it has a connection authorizer. -/
structure InMemoryCredentialBroker where
  sources : String → CredentialResourceKind → String → Option (String × CredentialValues)
  maxTtlSeconds : Int := 900
  managed : Bool := true

structure BrokerState where
  now : Int
  governance : GovernanceState := {}
  leases : Dict Nat CredentialLease := Dict.empty
  issued : Nat := 0
  issuing : Nat → Option (IssueRequest × Option CredentialConnectionGrant) := fun _ => none

inductive BrokerStep
  | governance (step : GovernanceStep)
  | advance (seconds : Nat)
  | authorize (call : Nat) (request : IssueRequest)
  | issue (call : Nat)
  | revokeRun (tenantId runId : String)
  | reapExpired

def refused {Value : Type} (message : String) : Except GovernanceError Value :=
  .error (.credentialLease message)

def listed (keys : List String) : String := ", ".intercalate (keys.mergeSort (· ≤ ·))

namespace InMemoryCredentialBroker

variable (broker : InMemoryCredentialBroker)

/-- `issue` up to its wait for the authorizer. -/
def grantFor (connections : Connections) (request : IssueRequest) :
  Except GovernanceError (Option CredentialConnectionGrant) :=
  if request.ttlSeconds < 1 ∨ broker.maxTtlSeconds < request.ttlSeconds then
    refused "credential lease TTL is outside platform bounds"
  else if broker.managed = false then .ok none
  else authorize connections request.identity.toExecutionIdentity request.resourceKind
    request.resourceReference

/-- The rest of `issue`. -/
def leaseFor (request : IssueRequest) (grant : Option CredentialConnectionGrant) (now : Int) :
  Except GovernanceError CredentialLease :=
  let sourceOf tenantId := broker.sources tenantId request.resourceKind request.resourceReference
  match (sourceOf request.identity.tenantId).or (sourceOf "*") with
  | none => refused "credential reference is unavailable"
  | some (secretReference, values) =>
    let undeclared := request.requiredKeys.filter fun key =>
      grant.any fun grant => key ∉ grant.requiredKeys
    let missing := request.requiredKeys.filter fun key => (values.lookup key).isNone
    if grant.any (·.secretReference ≠ secretReference) then
      refused "managed connection secret reference does not match the configured provider"
    else if undeclared ≠ [] then
      refused ("managed connection does not authorize required keys: " ++ listed undeclared)
    else if missing ≠ [] then
      refused ("credential reference is missing required keys: " ++ listed missing)
    else .ok
      { tenantId := request.identity.tenantId, runId := request.identity.runId
        resourceKind := request.resourceKind, resourceReference := request.resourceReference
        secretReference, connectionId := grant.map (·.connectionId)
        expiresAt := now + request.ttlSeconds
        values := request.requiredKeys.filterMap fun key => (values.lookup key).map (key, ·) }

def revokeRun (leases : Dict Nat CredentialLease) (tenantId runId : String) (now : Int) :
  Dict Nat CredentialLease where
  entries := leases.entries.map fun entry => (entry.1,
    if entry.2.tenantId = tenantId ∧ entry.2.runId = runId then
      { entry.2 with revokedAt := some now }
    else entry.2)
  distinct := by
    rw [map_map]
    exact leases.distinct

def step (state : BrokerState) : BrokerStep → BrokerState
  | .governance step => { state with governance := state.governance.step step }
  | .advance seconds => { state with now := state.now + seconds }
  | .authorize call request =>
    match broker.grantFor state.governance.connections request with
    | .error _ => state
    | .ok grant => { state with issuing := update state.issuing call (some (request, grant)) }
  | .issue call =>
    match state.issuing call with
    | none => state
    | some (request, grant) =>
      let ended := { state with issuing := update state.issuing call none }
      match broker.leaseFor request grant state.now with
      | .error _ => ended
      | .ok lease =>
        { ended with
          leases := state.leases.set state.issued lease, issued := state.issued + 1 }
  | .revokeRun tenantId runId =>
    { state with leases := revokeRun state.leases tenantId runId state.now }
  | .reapExpired =>
    { state with
      leases := state.leases.filter fun _ lease =>
        lease.revokedAt = none ∧ state.now < lease.expiresAt }

def run (state : BrokerState) (steps : List BrokerStep) : BrokerState :=
  steps.foldl broker.step state

/-- `resolve` up to its wait for the authorizer. -/
def check (state : BrokerState) (leaseId : Nat) (identity : RunIdentity) :
  Except GovernanceError CredentialLease :=
  match state.leases.get? leaseId with
  | none => refused "credential lease does not exist"
  | some lease =>
    if lease.tenantId ≠ identity.tenantId ∨ lease.runId ≠ identity.runId then
      refused "credential lease workload identity mismatch"
    else if lease.revokedAt ≠ none then refused "credential lease is revoked"
    else if lease.expiresAt ≤ state.now then refused "credential lease is expired"
    else .ok lease

/-- The rest of `resolve`, with the connections that the authorizer finds. -/
def release (connections : Connections) (lease : CredentialLease) (identity : RunIdentity) :
  Except GovernanceError CredentialValues :=
  match lease.connectionId with
  | none => .ok lease.values
  | some connectionId =>
    if broker.managed = false then refused "credential connection authorizer is unavailable"
    else
      match validateConnection connections connectionId identity.toExecutionIdentity
          lease.resourceKind lease.resourceReference with
      | .error error => .error error
      | .ok grant =>
        if grant.secretReference ≠ lease.secretReference then
          refused "credential connection secret reference changed"
        else .ok lease.values

end InMemoryCredentialBroker

open InMemoryCredentialBroker

variable {broker : InMemoryCredentialBroker} {state : BrokerState} {token : Nat}
  {lease : CredentialLease} {identity : RunIdentity}

structure Leased (broker : InMemoryCredentialBroker) (state : BrokerState) : Prop where
  numbered : ∀ token lease, state.leases.get? token = some lease → token < state.issued
  made : ∀ token lease, state.leases.get? token = some lease → ∃ request grant issuedAt,
    broker.leaseFor request grant issuedAt = .ok { lease with revokedAt := none }

end AgentHarness.Governance
