import AgentHarness.Collections.Shares
import AgentHarness.Deployments.Knowledge
import AgentHarness.Hashing.Sha256
import AgentHarness.Interaction.Serial

/-!
Which route a new session takes.
-/

namespace AgentHarness.Deployments

open Collections Hashing Interaction Program DeploymentOp List Option

def hexDigitValue (digit : Char) : Nat :=
  if digit.isDigit then digit.toNat - '0'.toNat else digit.toNat - 'a'.toNat + 10

/-- `int(hashlib.sha256(routing_key.encode()).hexdigest()[:8], 16) % 100`. -/
def bucketOf (routingKey : String) : Nat := ((sha256 (encode routingKey)).toList.take 8).foldl
    (fun number digit => 16 * number + hexDigitValue digit) 0 % 100

def walk (bucket : Nat) : (cumulative : Nat) → (selected : DeploymentRoute) →
    List DeploymentRoute → DeploymentRoute
  | _, selected, [] => selected
  | cumulative, selected, route :: rest =>
    if bucket < cumulative + route.weight.value then route
    else walk bucket (cumulative + route.weight.value) selected rest

def routeAt (routes : List DeploymentRoute) (bucket : Nat) : Option DeploymentRoute :=
  routes.getLast?.map fun last => walk bucket 0 last routes

def selectRoute (environment : Environment) (routingKey : String) :
  Except DeploymentError DeploymentRoute :=
  match routeAt environment.routes (bucketOf routingKey) with
  | none =>
    .error (.conflict ("Environment has no active deployment: " ++ environment.key.agentName ++
      "/" ++ environment.key.name.value))
  | some route => .ok route

structure EnvironmentPolicySnapshot where
  environment : EnvironmentName
  (environmentRevision policyRevision : Nat)
  resourcePolicy : EnvironmentResourcePolicy

structure DeploymentResolution where
  (agentName agentVersion : String)
  environment : EnvironmentName
  snapshotId : String
  environmentPolicySnapshot : EnvironmentPolicySnapshot

namespace DeploymentService

def policySnapshot (environment : Environment) : EnvironmentPolicySnapshot where
  environment := environment.key.name
  environmentRevision := environment.revision
  policyRevision := environment.policyRevision
  resourcePolicy := environment.resourcePolicy

/-- What `resolve` does once it has selected the route. -/
def resolveTo (key : EnvironmentKey) (environment : Environment) (selected : DeploymentRoute) :
  DeploymentProgram DeploymentResolution := do
  let snapshot ← snapshotForUser key.tenantId key.ownerUserId selected.snapshotId
  let catalog ← ask (.catalog key.tenantId)
  let _ ← ensure (validatePolicyCatalog environment.resourcePolicy catalog)
  validateKnowledgeReferences environment.resourcePolicy.allowedKnowledgeReferences
  let version ← ask (.getVersion snapshot.versionKey)
  ensure (validateAgentPolicy version.snapshot environment.resourcePolicy
    snapshot.executionProfile snapshot.executionProfileVersion)
  return {
    agentName := key.agentName
    agentVersion := snapshot.agentVersion
    environment := key.name
    snapshotId := snapshot.snapshotId
    environmentPolicySnapshot := policySnapshot environment }

def resolve (key : EnvironmentKey) (routingKey : String) :
  DeploymentProgram DeploymentResolution := do
  let environment ← ask (.getEnvironment key)
  let selected ← ensure (selectRoute environment routingKey)
  resolveTo key environment selected

end DeploymentService

def routeWeight (route : DeploymentRoute) : Nat := route.weight.value

theorem walk_eq_shareOf (bucket cumulative : Nat) (selected : DeploymentRoute)
  (routes : List DeploymentRoute) (reached : cumulative ≤ bucket) :
  walk bucket cumulative selected routes =
    (shareOf routeWeight routes (bucket - cumulative)).getD selected := by
  induction routes generalizing cumulative with
  | nil => rfl
  | cons route rest ih =>
    rw [walk, shareOf]
    by_cases own : bucket < cumulative + route.weight.value
    · have share : bucket - cumulative < routeWeight route := by
        unfold routeWeight
        omega
      rw [if_pos own, if_pos share]
      rfl
    have past : ¬ bucket - cumulative < routeWeight route := by
      unfold routeWeight
      omega
    rw [if_neg own, if_neg past, ih _ (by omega)]
    congr 2
    unfold routeWeight
    omega

theorem routeAt_eq_shareOf {routes : List DeploymentRoute} {bucket : Nat}
  (below : bucket < totalWeight routeWeight routes) :
  routeAt routes bucket = shareOf routeWeight routes bucket := by
  obtain ⟨route, shared⟩ := shareOf_of_lt below
  have listed : routes ≠ [] := ne_nil_of_mem (shareOf_mem shared)
  rw [routeAt, getLast?_eq_some_getLast listed, map_some,
    walk_eq_shareOf bucket 0 _ routes (Nat.zero_le bucket), Nat.sub_zero, shared]
  rfl

theorem bucketOf_lt (routingKey : String) : bucketOf routingKey < 100 := Nat.mod_lt _ (by decide)

theorem selectRoute_ok {environment : Environment} {routingKey : String} {route : DeploymentRoute} :
  selectRoute environment routingKey = .ok route ↔
    routeAt environment.routes (bucketOf routingKey) = some route := by
  unfold selectRoute
  cases routeAt environment.routes (bucketOf routingKey) with
  | none => exact ⟨nofun, nofun⟩
  | some selected => simp only [Except.ok.injEq, some.injEq]

namespace DeploymentService

variable {platform : DeploymentPlatform} {actor : Nat} {input : DeploymentInput}
  {store later : DeploymentStore}

end DeploymentService

end AgentHarness.Deployments
