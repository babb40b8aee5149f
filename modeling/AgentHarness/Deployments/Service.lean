import AgentHarness.Deployments.Controller

/-!
Promotion and rollback use cases over immutable snapshots.
-/

namespace AgentHarness.Deployments

open Interaction Program DeploymentOp

structure ReplaceEnvironmentPolicyRequest where
  expectedEnvironmentRevision : Nat
  policy : EnvironmentResourcePolicy

structure PromoteRequest where
  (agentName agentVersion : String)
  environment : EnvironmentName
  expectedEnvironmentRevision : Nat
  canaryPercent : Percent := Percent.full
  executionProfile : String
  previewId : Option String := none
  idempotencyKey : String

structure RollbackRequest where
  snapshotId : String
  expectedEnvironmentRevision : Nat
  idempotencyKey : String

structure DeploymentService where
  qualityGate : Bool := false
  previews : Bool := false
  quotas : Bool := false
  audits : Bool := false

def EnvironmentName.value : EnvironmentName → String
  | .test => "test"
  | .canary => "canary"
  | .production => "production"

namespace DeploymentService

def eligibleProfiles (name : EnvironmentName) (catalog : CapabilityCatalogRecord) :
  List ExecutionProfileMetadata :=
  catalog.executionProfiles.filter (fun item =>
    item.enabled && (name ≠ .production || item.productionAllowed && !item.sandboxLocal))

def preferredProfile (eligible : List ExecutionProfileMetadata) : Option ExecutionProfileMetadata :=
  (eligible.find? fun item => item.profileId = "isolated-default").or eligible.head?

/-- `_default_policy`; the policy itself must allow some model route. -/
def defaultPolicy (name : EnvironmentName) (catalog : CapabilityCatalogRecord) :
  Except DeploymentError EnvironmentResourcePolicy :=
  match preferredProfile (eligibleProfiles name catalog) with
  | none => .error (.conflict ("No Execution Profile is available for " ++ name.value))
  | some preferred =>
    let routes := enabledNames catalog.modelRoutes
    if routes = [] then
      .error (.valueError "Environment policy must allow at least one model route")
    else
      .ok
        { executionProfileId := preferred.profileId, executionProfileVersion := preferred.version
          networkProfileId := preferred.networkPolicyId, networkProfileVersion := preferred.version
          networkAccess := preferred.networkAccess, allowedModelRoutes := routes
          capabilityCatalogRevision := catalog.revision
          allowedMcpReferences := preferred.allowedMcpReferences.filter
            (fun reference => reference ∈ enabledNames catalog.mcpServers)
          allowedKnowledgeReferences := [] }

variable (key : EnvironmentKey)

def createEnvironment : DeploymentProgram Environment := do
  let catalog ← ask (.catalog key.tenantId)
  let policy ← ensure (defaultPolicy key.name catalog)
  let value : Environment := { key, revision := 0, resourcePolicy := policy }
  ((ask (.addEnvironment value)).bind fun _ => done value).catching (fun error =>
    match error with
    | .conflict _ => ask (.getEnvironment key)
    | other => raised other)

def environment : DeploymentProgram Environment :=
  (ask (.getEnvironment key)).catching (fun error =>
    match error with
    | .notFound _ => createEnvironment key
    | other => raised other)

/-- `get_snapshot_for_user`. -/
def snapshotForUser (tenantId ownerUserId snapshotId : String) :
  DeploymentProgram DeploymentSnapshot := do
  let snapshot ← ask (.getSnapshot tenantId snapshotId)
  if snapshot.createdBy ≠ ownerUserId then
    raised (.notFound ("Deployment Snapshot not found: " ++ snapshotId))
  else done snapshot

def validateRoute (policy : EnvironmentResourcePolicy) (route : DeploymentRoute) :
  DeploymentProgram Unit := do
  let snapshot ← snapshotForUser key.tenantId key.ownerUserId route.snapshotId
  let version ← ask (.getVersion snapshot.versionKey)
  ensure (validateAgentPolicy version.snapshot policy snapshot.executionProfile
    snapshot.executionProfileVersion)

variable (service : DeploymentService)

def auditIf (action : String) : DeploymentProgram Unit :=
  if service.audits then ask (.audit action) else done ()

def quotaIf (step : QuotaStep) : DeploymentProgram Unit :=
  if service.quotas then ask (.quota step) else done ()

def validateKnowledgeReferences (references : List String) : DeploymentProgram Unit :=
  if references = [] then done () else ask (.validateKnowledge references)

def replaceEnvironmentPolicy (key : EnvironmentKey) (request : ReplaceEnvironmentPolicyRequest) :
  DeploymentProgram Environment := do
  let current ← environment key
  refuse (current.revision ≠ request.expectedEnvironmentRevision)
    "Environment revision changed before policy update"
  let catalog ← ask (.catalog key.tenantId)
  let profile ← ensure (validatePolicyCatalog request.policy catalog)
  validateKnowledgeReferences request.policy.allowedKnowledgeReferences
  refuse (key.name = .production ∧ (profile.sandboxLocal ∨ ¬ profile.productionAllowed))
    "Production Environment requires an isolated production Profile"
  each current.routes (validateRoute key request.policy)
  let updated : Environment :=
    { current with
      revision := current.revision + 1, policyRevision := current.policyRevision + 1
      resourcePolicy := request.policy }
  let changed ← ask (.compareAndSetEnvironment none current.revision updated)
  refuse (changed = false) "Environment revision changed before policy update"
  service.auditIf "studio.environment.policy.replace"
  done updated

/-- `view`, of which only the reads matter. -/
def view (task : DeploymentTask) (ownerUserId : String) : DeploymentProgram Unit := do
  let deployment ← ask (.getDeployment task)
  if deployment.requestedBy ≠ ownerUserId then
    raised (.notFound ("Deployment not found: " ++ task.deploymentId))
  else do
    let _ ← snapshotForUser task.tenantId ownerUserId deployment.targetSnapshotId
    let _ ← environment deployment.environmentKey
    done ()

def samePromote (existing : Deployment) (request : PromoteRequest) : DeploymentProgram Unit := do
  let target ← snapshotForUser existing.tenantId existing.requestedBy existing.targetSnapshotId
  refuse (existing.action ≠ .promote ∨ target.agentVersion ≠ request.agentVersion ∨
      existing.environment ≠ request.environment ∨
      existing.canaryPercent ≠ request.canaryPercent)
    "Deployment idempotency key was reused for another promotion"
  view existing.task existing.requestedBy

/-- `_execution_profile`, of the capability catalog. -/
def executionProfile (catalog : CapabilityCatalogRecord) (profileId : String) :
  Except DeploymentError ExecutionProfileMetadata :=
  match catalog.executionProfiles.find? (fun item => item.profileId = profileId) with
  | none => .error (.conflict ("Execution Profile is unavailable: " ++ profileId))
  | some profile =>
    if profile.enabled then .ok profile
    else .error (.conflict ("Execution Profile is unavailable: " ++ profileId))

def checkQuality (key : VersionKey) : DeploymentProgram Unit :=
  if service.qualityGate then ask (.qualityGate key) else done ()

def checkPreview (version : AgentVersion) (previewId : Option String) : DeploymentProgram Unit :=
  match previewId.filter (fun previewId => previewId ≠ "") with
  | none => done ()
  | some previewId => do
      refuse (service.previews = false) "Preview verification is unavailable"
      let preview ← ask (.getPreview previewId)
      refuse (preview.stale ∨ ¬ preview.ready ∨ preview.packageHash ≠ version.packageHash)
        "Promotion Preview does not prove this Agent package"

def acceptProfile (environment : Environment) (policyProfile profile : ExecutionProfileMetadata) :
  Except DeploymentError Unit := do
  refuseIf (environment.key.name = .production ∧ (profile.sandboxLocal ∨ ¬ profile.productionAllowed))
    "Local or unsafe Execution Profile cannot target production"
  refuseIf (profile.profileId ≠ policyProfile.profileId ∨ profile.version ≠ policyProfile.version ∨
      profile.networkPolicyId ≠ policyProfile.networkPolicyId ∨
      ¬ environment.resourcePolicy.networkAccess ⊆ profile.networkAccess)
    "Deployment Execution Profile is outside the Environment policy"

def storedMeanwhile (deployment : Deployment) (request : PromoteRequest) (error : DeploymentError) :
  DeploymentProgram Bool := do
  match ← ask (.findByIdempotency deployment.tenantId deployment.requestedBy
      request.idempotencyKey) with
  | none => (service.quotaIf (.release deployment.quotaKey)).bind fun _ => raised error
  | some concurrent => do
      service.quotaIf (.commit deployment.quotaKey)
      samePromote concurrent request
      done false

def storePromotion (deployment : Deployment) (request : PromoteRequest) : DeploymentProgram Bool :=
  ((ask (.addDeployment deployment)).bind fun _ => done (Except.ok ())).catching
      (fun error => done (Except.error error)) |>.bind (fun outcome =>
    match outcome with
    | .ok () => done true
    | .error (.conflict message) => service.storedMeanwhile deployment request (.conflict message)
    | .error other => (service.quotaIf (.release deployment.quotaKey)).bind fun _ => raised other)

def promotedSnapshot (environment : Environment) (request : PromoteRequest)
  (profile : ExecutionProfileMetadata) (gatePassed : Bool) (snapshotId : String) :
  DeploymentSnapshot where
  tenantId := environment.key.tenantId
  snapshotId
  agentName := request.agentName
  agentVersion := request.agentVersion
  environment := request.environment
  executionProfile := request.executionProfile
  executionProfileVersion := profile.version
  evalGatePassed := gatePassed
  createdBy := environment.key.ownerUserId

def promotion (environment : Environment) (request : PromoteRequest)
  (snapshotId deploymentId : String) : Deployment where
  tenantId := environment.key.tenantId
  deploymentId
  agentName := request.agentName
  environment := request.environment
  action := .promote
  targetSnapshotId := snapshotId
  previousSnapshotId := environment.healthySnapshotId
  canaryPercent := request.canaryPercent
  expectedEnvironmentRevision := environment.revision
  idempotencyKey := request.idempotencyKey
  requestedBy := environment.key.ownerUserId
  status := .queued

def launch (environment : Environment) (request : PromoteRequest)
  (profile : ExecutionProfileMetadata) (gatePassed : Bool) : DeploymentProgram Unit := do
  let snapshotId ← ask (.generateId "deployment_snapshot")
  let snapshot := promotedSnapshot environment request profile gatePassed snapshotId
  let quotaKey : QuotaKey :=
    ⟨environment.key.tenantId, environment.key.ownerUserId, request.idempotencyKey⟩
  service.quotaIf (.reserve quotaKey)
  (ask (.addSnapshot snapshot)).catching
    (fun error => (service.quotaIf (.release quotaKey)).bind fun _ => raised error)
  let deploymentId ← ask (.generateId "deployment")
  let deployment := promotion environment request snapshotId deploymentId
  let stored ← service.storePromotion deployment request
  if stored then do
    ask (.enqueue deployment.task)
    service.auditIf "studio.deployment.promote"
    service.quotaIf (.commit quotaKey)
  else done ()

def promoteAnew (tenantId userId : String) (request : PromoteRequest) : DeploymentProgram Unit := do
  let environment ← environment
    { tenantId, ownerUserId := userId, agentName := request.agentName, name := request.environment }
  refuse (environment.revision ≠ request.expectedEnvironmentRevision)
    "Environment revision changed before promotion"
  let versionKey : VersionKey :=
    { tenantId, ownerUserId := userId, agentName := request.agentName
      agentVersion := request.agentVersion }
  let version ← ask (.getVersion versionKey)
  refuse (¬ version.published ∨ ¬ version.packageHash.any fun hash => hash ≠ "")
    "Promotion requires an immutable published Agent package"
  let gatePassed ← ask (.requirePromotionAllowed versionKey)
  service.checkQuality versionKey
  service.checkPreview version request.previewId
  let catalog ← ask (.catalog tenantId)
  let policyProfile ← ensure (validatePolicyCatalog environment.resourcePolicy catalog)
  validateKnowledgeReferences environment.resourcePolicy.allowedKnowledgeReferences
  let profile ← ensure (executionProfile catalog request.executionProfile)
  ensure (acceptProfile environment policyProfile profile)
  ensure (validateAgentPolicy version.snapshot environment.resourcePolicy profile.profileId
    profile.version)
  service.launch environment request profile gatePassed

def promote (tenantId userId : String) (request : PromoteRequest) : DeploymentProgram Unit := do
  match ← ask (.findByIdempotency tenantId userId request.idempotencyKey) with
  | some existing => samePromote existing request
  | none => service.promoteAnew tenantId userId request

def sameRollback (existing : Deployment) (request : RollbackRequest) : DeploymentProgram Unit := do
  let target ← snapshotForUser key.tenantId key.ownerUserId existing.targetSnapshotId
  refuse (existing.action ≠ .rollback ∨ existing.agentName ≠ key.agentName ∨
      existing.environment ≠ key.name ∨ target.snapshotId ≠ request.snapshotId)
    "Deployment idempotency key was reused for another rollback"
  view { tenantId := key.tenantId, deploymentId := existing.deploymentId } key.ownerUserId

def rollbackAnew (key : EnvironmentKey) (request : RollbackRequest) : DeploymentProgram Unit := do
  let environment ← environment key
  refuse (environment.revision ≠ request.expectedEnvironmentRevision)
    "Environment revision changed before rollback"
  let snapshot ← snapshotForUser key.tenantId key.ownerUserId request.snapshotId
  refuse (snapshot.agentName ≠ key.agentName ∨ snapshot.environment ≠ key.name ∨
      ¬ snapshot.evalGatePassed)
    "Rollback requires a historical verified Snapshot from this environment"
  let deploymentId ← ask (.generateId "deployment")
  let deployment : Deployment :=
    { tenantId := key.tenantId, deploymentId, agentName := key.agentName, environment := key.name
      action := .rollback, targetSnapshotId := snapshot.snapshotId
      previousSnapshotId := environment.healthySnapshotId, canaryPercent := Percent.full
      expectedEnvironmentRevision := environment.revision, idempotencyKey := request.idempotencyKey
      requestedBy := key.ownerUserId, status := .queued }
  ask (.addDeployment deployment)
  ask (.enqueue deployment.task)
  service.auditIf "studio.deployment.rollback"

def rollback (key : EnvironmentKey) (request : RollbackRequest) : DeploymentProgram Unit := do
  match ← ask (.findByIdempotency key.tenantId key.ownerUserId request.idempotencyKey) with
  | some existing => sameRollback key existing request
  | none => service.rollbackAnew key request

end DeploymentService

end AgentHarness.Deployments
