import AgentHarness.Collections.Dict
import AgentHarness.Deployments.Service

/-!
The stored environments, snapshots and deployments, and how they answer each operation.

The stores take effect atomically, one operation at a time.  The state also keeps a
history that nobody can read: whose controller has applied which deployment's routes.
-/

namespace AgentHarness.Deployments

open Collections Interaction

/-- What is fixed along a run: the published agent versions, which never change, and the
identifiers that are generated. -/
structure DeploymentPlatform where
  versions : VersionKey → Option AgentVersion
  generatedId : String → Nat → String

structure DeploymentStore where
  environments : Dict EnvironmentKey Environment := Dict.empty
  snapshots : Dict (String × String) DeploymentSnapshot := Dict.empty
  deployments : Dict DeploymentTask Deployment := Dict.empty
  generated : Nat := 0
  applied : List (DeploymentTask × Nat) := []

inductive DeploymentFault where
  | none
  | before (error : DeploymentError)
  | after (error : DeploymentError)

/-- What the environment contributes to one step: a failure that strikes before the call
takes effect or after it, and the answers that do not come from the stores. -/
structure DeploymentInput where
  fault : DeploymentFault := .none
  catalog : CapabilityCatalogRecord :=
    { revision := 1, modelRoutes := [], mcpServers := [], executionProfiles := [] }
  preview : Preview := { stale := false, ready := true, packageHash := none }
  task : Option DeploymentTask := none
  gatePassed : Bool := true

def DeploymentSnapshot.storeKey (snapshot : DeploymentSnapshot) : String × String :=
  (snapshot.tenantId, snapshot.snapshotId)

namespace DeploymentStore

variable (store : DeploymentStore)

def requestedUnder (tenantId ownerUserId key : String) : Option Deployment :=
  store.deployments.values.find? (fun deployment =>
    deployment.tenantId = tenantId ∧ deployment.requestedBy = ownerUserId ∧
      deployment.idempotencyKey = key)

/-- `compare_and_set` of an environment writes the row with the expected revision. -/
def acceptsEnvironment (expectedRevision : Nat) (updated : Environment) : Prop :=
  ∃ current ∈ store.environments.get? updated.key, current.revision = expectedRevision

instance (store : DeploymentStore) (expectedRevision : Nat) (updated : Environment) :
  Decidable (store.acceptsEnvironment expectedRevision updated) :=
  inferInstanceAs (Decidable (∃ current ∈ store.environments.get? updated.key, _))

/-- `compare_and_set` of a deployment writes the row with the expected status and the
fencing token before the new one. -/
def acceptsDeployment (expected : DeploymentStatus) (updated : Deployment) : Prop :=
  ∃ current ∈ store.deployments.get? updated.task,
    current.status = expected ∧ current.fencingToken + 1 = updated.fencingToken

instance (store : DeploymentStore) (expected : DeploymentStatus) (updated : Deployment) :
  Decidable (store.acceptsDeployment expected updated) :=
  inferInstanceAs (Decidable (∃ current ∈ store.deployments.get? updated.task, _))

def writeEnvironment (actor : Nat) (cause : Option DeploymentTask) (updated : Environment) :
  DeploymentStore :=
  { store with
    environments := store.environments.set updated.key updated
    applied := store.applied ++ (cause.map fun task => (task, actor)).toList }

end DeploymentStore

namespace DeploymentPlatform

variable (platform : DeploymentPlatform)

def answer (actor : Nat) (input : DeploymentInput) (store : DeploymentStore) :
    (op : DeploymentOp) → Except DeploymentError op.Answer × DeploymentStore
  | .getEnvironment key =>
    match store.environments.get? key with
    | none => (.error (.notFound ("Environment not found: " ++ key.agentName)), store)
    | some environment => (.ok environment, store)
  | .addEnvironment environment =>
    match store.environments.get? environment.key with
    | some _ => (.error (.conflict "Environment already exists"), store)
    | none =>
      (.ok (),
        { store with
          environments := store.environments.set environment.key environment })
  | .compareAndSetEnvironment cause expectedRevision updated =>
    if store.acceptsEnvironment expectedRevision updated then
      (.ok true, store.writeEnvironment actor cause updated)
    else (.ok false, store)
  | .addSnapshot snapshot =>
    match store.snapshots.get? snapshot.storeKey with
    | some existing =>
      if existing = snapshot then (.ok (), store)
      else (.error (.conflict "Deployment Snapshot already exists"), store)
    | none => (.ok (), { store with snapshots := store.snapshots.set snapshot.storeKey snapshot })
  | .getSnapshot tenantId snapshotId =>
    match store.snapshots.get? (tenantId, snapshotId) with
    | none => (.error (.notFound ("Deployment Snapshot not found: " ++ snapshotId)), store)
    | some snapshot => (.ok snapshot, store)
  | .addDeployment deployment =>
    if (store.deployments.get? deployment.task).isSome ∨
        (store.requestedUnder deployment.tenantId deployment.requestedBy
          deployment.idempotencyKey).isSome then
      (.error (.conflict "Deployment already exists"), store)
    else
      (.ok (), { store with deployments := store.deployments.set deployment.task deployment })
  | .getDeployment task =>
    match store.deployments.get? task with
    | none => (.error (.notFound ("Deployment not found: " ++ task.deploymentId)), store)
    | some deployment => (.ok deployment, store)
  | .findByIdempotency tenantId ownerUserId key =>
    (.ok (store.requestedUnder tenantId ownerUserId key), store)
  | .compareAndSetDeployment expected updated =>
    if store.acceptsDeployment expected updated then
      (.ok true, { store with deployments := store.deployments.set updated.task updated })
    else (.ok false, store)
  | .getVersion key =>
    match platform.versions key with
    | none => (.error (.notFound ("agent version not found: " ++ key.agentName)), store)
    | some version => (.ok version, store)
  | .catalog _ => (.ok input.catalog, store)
  | .requirePromotionAllowed _ =>
    if input.gatePassed then (.ok true, store)
    else (.error (.conflict "Agent version has not passed every required Eval Dataset: "), store)
  | .getPreview _ => (.ok input.preview, store)
  | .generateId kind =>
    (.ok (platform.generatedId kind store.generated),
      { store with generated := store.generated + 1 })
  | .dequeue => (.ok input.task, store)
  | .validateKnowledge _ | .qualityGate _ | .quota _ | .audit _ | .deploy _ | .enqueue _
  | .acknowledge _ | .retry _ => (.ok (), store)

def respond (actor : Nat) (input : DeploymentInput) (store : DeploymentStore) (op : DeploymentOp) :
  Except DeploymentError op.Answer × DeploymentStore :=
  let reply := platform.answer actor input store op
  if op.isLocal then reply
  else
    match input.fault with
    | .none => reply
    | .before error => (.error error, store)
    | .after error => (.error error, reply.2)

def component : Component DeploymentOp DeploymentOp.Answer DeploymentError Nat DeploymentStore
  DeploymentInput where
  respond := platform.respond

theorem respond_cases (actor : Nat) (input : DeploymentInput) (store : DeploymentStore)
  (op : DeploymentOp) :
  platform.respond actor input store op = platform.answer actor input store op ∨
    (∃ error, input.fault = .before error ∧
    platform.respond actor input store op = (.error error, store)) ∨
    ∃ error, input.fault = .after error ∧ platform.respond actor input store op =
    (.error error, (platform.answer actor input store op).2) := by
  unfold respond
  split
  · exact .inl rfl
  split
  · exact .inl rfl
  · exact .inr (.inl ⟨_, by assumption, rfl⟩)
  exact .inr (.inr ⟨_, by assumption, rfl⟩)

end DeploymentPlatform

inductive DeploymentRequest where
  | replacePolicy (key : EnvironmentKey) (request : ReplaceEnvironmentPolicyRequest)
  | promote (tenantId userId : String) (request : PromoteRequest)
  | rollback (key : EnvironmentKey) (request : RollbackRequest)
  | processOnce

namespace DeploymentService

open Program

def serve (service : DeploymentService) : DeploymentRequest → DeploymentProgram Unit
  | .replacePolicy key request =>
    (service.replaceEnvironmentPolicy key request).bind fun _ => done ()
  | .promote tenantId userId request => service.promote tenantId userId request
  | .rollback key request => service.rollback key request
  | .processOnce => DeploymentController.processOnce

def actor (service : DeploymentService) (requests : List DeploymentRequest) :
  DeploymentProgram Unit :=
  each requests fun request => (service.serve request).catching (fun _ => done ())

end DeploymentService

abbrev DeploymentPool :=
  Pool DeploymentOp DeploymentOp.Answer DeploymentError Nat DeploymentStore Unit

def deploymentPool (service : Nat → DeploymentService) (requests : Nat → List DeploymentRequest) :
  DeploymentPool where
  state := {}
  thread actor := (service actor).actor (requests actor)

end AgentHarness.Deployments
