import Mathlib.Data.List.Sort
import Mathlib.Data.List.Dedup
import Mathlib.Data.String.Basic

/-!
Immutable deployment snapshots, mutable environment pointers, and the policy that an
environment puts on what it routes to.

Hashes, image digests, configuration, timestamps, credential scopes and quota bounds
travel along and decide nothing here; they are left out.
-/

namespace AgentHarness.Deployments

open List Option

inductive EnvironmentName where
  | test
  | canary
  | production
  deriving DecidableEq

inductive DeploymentStatus where
  | queued
  | reconciling
  | succeeded
  | failed
  deriving DecidableEq

def DeploymentStatus.isTerminal (status : DeploymentStatus) : Bool :=
  status = .succeeded || status = .failed

inductive DeploymentAction where
  | promote
  | rollback
  deriving DecidableEq

structure Percent where
  value : Nat
  positive : 1 ≤ value
  bounded : value ≤ 100
  deriving DecidableEq

def Percent.full : Percent := ⟨100, by decide, by decide⟩

def Percent.rest (percent : Percent) (below : percent.value < 100) : Percent :=
  ⟨100 - percent.value, Nat.sub_pos_of_lt below, Nat.sub_le 100 percent.value⟩

structure DeploymentRoute where
  snapshotId : String
  weight : Percent
  deriving DecidableEq

inductive NetworkAccess where
  | none
  | internal
  | external
  deriving DecidableEq

structure EnvironmentResourcePolicy where
  executionProfileId : String
  executionProfileVersion : Nat
  networkProfileId : String
  networkProfileVersion : Nat
  networkAccess : List NetworkAccess
  allowedModelRoutes : List String
  capabilityCatalogRevision : Nat
  (allowedMcpReferences allowedKnowledgeReferences : List String)
  deriving DecidableEq

structure EnvironmentKey where
  (tenantId ownerUserId agentName : String)
  name : EnvironmentName
  deriving DecidableEq

structure Environment where
  key : EnvironmentKey
  revision : Nat
  policyRevision : Nat := 1
  resourcePolicy : EnvironmentResourcePolicy
  routes : List DeploymentRoute := []
  healthySnapshotId : Option String := none
  deriving DecidableEq

structure DeploymentSnapshot where
  (tenantId snapshotId agentName agentVersion : String)
  environment : EnvironmentName
  executionProfile : String
  executionProfileVersion : Nat
  evalGatePassed : Bool
  createdBy : String
  deriving DecidableEq

structure Deployment where
  (tenantId deploymentId agentName : String)
  environment : EnvironmentName
  action : DeploymentAction
  targetSnapshotId : String
  previousSnapshotId : Option String
  canaryPercent : Percent
  expectedEnvironmentRevision : Nat
  (idempotencyKey requestedBy : String)
  status : DeploymentStatus
  fencingToken : Nat := 0
  errorCode : Option String := none
  deriving DecidableEq

namespace Deployment

def environmentKey (deployment : Deployment) : EnvironmentKey where
  tenantId := deployment.tenantId
  ownerUserId := deployment.requestedBy
  agentName := deployment.agentName
  name := deployment.environment

end Deployment

structure ExecutionProfileMetadata where
  profileId : String
  sandboxLocal : Bool := false
  networkAccess : List NetworkAccess
  networkPolicyId : String := "deny-by-default"
  allowedMcpReferences : List String := []
  productionAllowed : Bool := true
  version : Nat := 1
  enabled : Bool := true

structure CatalogEntry where
  name : String
  enabled : Bool := true

structure CapabilityCatalogRecord where
  revision : Nat
  (modelRoutes mcpServers : List CatalogEntry)
  executionProfiles : List ExecutionProfileMetadata

structure AgentManifestSnapshot where
  toolDirectoryRevision : Option Nat := none
  modelRoute : String
  fallbackRoute : Option String := none
  mcpTools : List String := []
  knowledgeReferences : List String := []

structure AgentVersion where
  published : Bool
  packageHash : Option String
  snapshot : AgentManifestSnapshot

inductive DeploymentError where
  | conflict (message : String)
  | notFound (message : String)
  | valueError (message : String)
  | outage (type : String)

/-- `", ".join(sorted(names))` of the names that are not allowed. -/
def outside (names allowed : List String) : List String :=
  (names.filter fun name => name ∉ allowed).dedup.insertionSort fun first second => first ≤ second

def joined (names : List String) : String := ", ".intercalate names

def enabledNames (entries : List CatalogEntry) : List String :=
  (entries.filter fun entry => entry.enabled).map fun entry => entry.name

def refuseOutside (message : String) (names allowed : List String) : Except DeploymentError Unit :=
  match outside names allowed with
  | [] => .ok ()
  | denied => .error (.conflict (message ++ joined denied))

def refuseIf (refused : Prop) [Decidable refused] (message : String) :
  Except DeploymentError Unit :=
  if refused then .error (.conflict message) else .ok ()

/-- What `_validate_policy_catalog` asks of the profile that the policy names. -/
def validateProfile (policy : EnvironmentResourcePolicy) (catalog : CapabilityCatalogRecord)
  (profile : ExecutionProfileMetadata) : Except DeploymentError ExecutionProfileMetadata := do
  refuseIf (¬ profile.enabled ∨ profile.version ≠ policy.executionProfileVersion)
    "Environment policy references an unavailable Execution Profile"
  refuseIf (policy.networkProfileId ≠ profile.networkPolicyId ∨
      policy.networkProfileVersion ≠ profile.version ∨
      ¬ policy.networkAccess ⊆ profile.networkAccess)
    "Environment network profile does not match the reviewed Execution Profile"
  refuseOutside "Environment policy references unavailable model routes: "
    policy.allowedModelRoutes (enabledNames catalog.modelRoutes)
  refuseOutside "Environment policy references unavailable MCP resources: "
    policy.allowedMcpReferences (enabledNames catalog.mcpServers)
  refuseOutside "Environment MCP resources exceed the Execution Profile: "
    policy.allowedMcpReferences profile.allowedMcpReferences
  return profile

def validatePolicyCatalog (policy : EnvironmentResourcePolicy) (catalog : CapabilityCatalogRecord) :
  Except DeploymentError ExecutionProfileMetadata := do
  refuseIf (policy.capabilityCatalogRevision ≠ catalog.revision)
    ("Environment policy capability catalog revision is stale: expected=" ++
      toString catalog.revision ++ " actual=" ++ toString policy.capabilityCatalogRevision)
  match catalog.executionProfiles.find? (fun item => item.profileId = policy.executionProfileId) with
  | none => .error (.conflict "Environment policy references an unavailable Execution Profile")
  | some profile => validateProfile policy catalog profile

def validateAgentPolicy (manifest : AgentManifestSnapshot) (policy : EnvironmentResourcePolicy)
  (executionProfile : String) (executionProfileVersion : Nat) : Except DeploymentError Unit := do
  refuseIf (executionProfile ≠ policy.executionProfileId ∨
      executionProfileVersion ≠ policy.executionProfileVersion)
    "Deployment Execution Profile is outside the Environment policy"
  refuseIf (∃ revision ∈ manifest.toolDirectoryRevision,
      revision ≠ policy.capabilityCatalogRevision)
    "Agent tool directory catalog revision is outside the Environment policy"
  refuseOutside "Agent model routes are outside the Environment policy: "
    (manifest.modelRoute :: (manifest.fallbackRoute.filter fun route => route ≠ "").toList)
    policy.allowedModelRoutes
  refuseOutside "Agent MCP resources are outside the Environment policy: "
    manifest.mcpTools policy.allowedMcpReferences
  refuseOutside "Agent Knowledge Bases are outside the Environment policy: "
    manifest.knowledgeReferences policy.allowedKnowledgeReferences

structure Satisfies (manifest : AgentManifestSnapshot) (policy : EnvironmentResourcePolicy)
    (executionProfile : String) (executionProfileVersion : Nat) : Prop where
  profile : executionProfile = policy.executionProfileId
  profileVersion : executionProfileVersion = policy.executionProfileVersion
  toolDirectory : ∀ revision ∈ manifest.toolDirectoryRevision,
    revision = policy.capabilityCatalogRevision
  modelRoute : manifest.modelRoute ∈ policy.allowedModelRoutes
  fallbackRoute : ∀ route ∈ manifest.fallbackRoute, route ≠ "" → route ∈ policy.allowedModelRoutes
  mcpTools : ∀ name ∈ manifest.mcpTools, name ∈ policy.allowedMcpReferences
  knowledge : ∀ name ∈ manifest.knowledgeReferences, name ∈ policy.allowedKnowledgeReferences

theorem refuseOutside_ok {message : String} {names allowed : List String} :
  refuseOutside message names allowed = .ok () ↔ ∀ name ∈ names, name ∈ allowed := by
  have listed : outside names allowed = [] ↔ ∀ name ∈ names, name ∈ allowed := by
    constructor
    · intro none name present
      by_contra denied
      have member : name ∈ outside names allowed := by
        rw [outside, mem_insertionSort, mem_dedup]
        exact mem_filter.mpr ⟨present, decide_eq_true denied⟩
      rw [none] at member
      cases member
    intro within
    have kept : names.filter (fun name => name ∉ allowed) = [] := by
      refine filter_eq_nil_iff.mpr fun name present => ?_
      simp only [decide_eq_true_eq, not_not]
      exact within name present
    rw [outside, kept]
    rfl
  rw [← listed]
  unfold refuseOutside
  cases denied : outside names allowed with
  | nil => exact ⟨fun _ => rfl, fun _ => rfl⟩
  | cons name rest => exact ⟨nofun, nofun⟩

theorem refuseIf_ok {refused : Prop} [Decidable refused] {message : String} :
  refuseIf refused message = .ok () ↔ ¬ refused := by
  unfold refuseIf
  split
  · rename_i holds
    exact ⟨nofun, fun passes => absurd holds passes⟩
  rename_i passes
  exact ⟨fun _ => passes, fun _ => rfl⟩

theorem bind_ok {first : Except DeploymentError Unit} {next : Unit → Except DeploymentError Unit} :
  (first >>= next) = .ok () ↔ first = .ok () ∧ next () = .ok () := by
  cases first with
  | ok value => exact ⟨fun passed => ⟨rfl, passed⟩, fun both => both.2⟩
  | error error => exact ⟨nofun, fun both => nomatch both.1⟩

theorem validateAgentPolicy_ok {manifest : AgentManifestSnapshot}
  {policy : EnvironmentResourcePolicy} {executionProfile : String} {executionProfileVersion : Nat} :
  validateAgentPolicy manifest policy executionProfile executionProfileVersion = .ok () ↔
    Satisfies manifest policy executionProfile executionProfileVersion := by
  unfold validateAgentPolicy
  simp only [bind_ok, refuseIf_ok, refuseOutside_ok, not_or, not_not, not_exists, not_and,
    forall_mem_cons, mem_toList, filter_eq_some_iff, decide_eq_true_eq]
  constructor
  · rintro ⟨⟨profile, version⟩, directory, ⟨model, fallback⟩, tools, knowledge⟩
    exact ⟨profile, version, directory, model, fun route named given => fallback route ⟨named, given⟩,
      tools, knowledge⟩
  intro satisfies
  exact ⟨⟨satisfies.profile, satisfies.profileVersion⟩, satisfies.toolDirectory,
    ⟨satisfies.modelRoute, fun route named => satisfies.fallbackRoute route named.1 named.2⟩,
    satisfies.mcpTools, satisfies.knowledge⟩

end AgentHarness.Deployments
