import AgentHarness.Deployments.Models
import AgentHarness.Interaction.Pool

/-!
What the deployment service and its controllers ask of their ports.

A write of an environment carries a mark that no port sees: the deployment it is made
for, if any.
-/

namespace AgentHarness.Deployments

open Interaction

structure DeploymentTask where
  (tenantId deploymentId : String)
  deriving DecidableEq

def Deployment.task (deployment : Deployment) : DeploymentTask where
  tenantId := deployment.tenantId
  deploymentId := deployment.deploymentId

structure VersionKey where
  (tenantId ownerUserId agentName agentVersion : String)

def DeploymentSnapshot.versionKey (snapshot : DeploymentSnapshot) : VersionKey where
  tenantId := snapshot.tenantId
  ownerUserId := snapshot.createdBy
  agentName := snapshot.agentName
  agentVersion := snapshot.agentVersion

structure Preview where
  (stale ready : Bool)
  packageHash : Option String

structure QuotaKey where
  (tenantId userId idempotencyKey : String)
  deriving DecidableEq

def Deployment.quotaKey (deployment : Deployment) : QuotaKey where
  tenantId := deployment.tenantId
  userId := deployment.requestedBy
  idempotencyKey := deployment.idempotencyKey

inductive QuotaStep where
  | reserve (key : QuotaKey)
  | release (key : QuotaKey)
  | commit (key : QuotaKey)

inductive DeploymentOp where
  | getEnvironment (key : EnvironmentKey)
  | addEnvironment (environment : Environment)
  | compareAndSetEnvironment (cause : Option DeploymentTask) (expectedRevision : Nat)
      (updated : Environment)
  | addSnapshot (snapshot : DeploymentSnapshot)
  | getSnapshot (tenantId snapshotId : String)
  | addDeployment (deployment : Deployment)
  | getDeployment (task : DeploymentTask)
  | findByIdempotency (tenantId ownerUserId key : String)
  | compareAndSetDeployment (expected : DeploymentStatus) (updated : Deployment)
  | getVersion (key : VersionKey)
  | catalog (tenantId : String)
  | validateKnowledge (references : List String)
  | requirePromotionAllowed (key : VersionKey)
  | qualityGate (key : VersionKey)
  | getPreview (previewId : String)
  | generateId (kind : String)
  | quota (step : QuotaStep)
  | audit (action : String)
  | deploy (snapshot : DeploymentSnapshot)
  | enqueue (task : DeploymentTask)
  | dequeue
  | acknowledge (task : DeploymentTask)
  | retry (task : DeploymentTask)

namespace DeploymentOp

abbrev Answer : DeploymentOp → Type
  | getEnvironment _ => Environment
  | addEnvironment _ => Unit
  | compareAndSetEnvironment _ _ _ => Bool
  | addSnapshot _ => Unit
  | getSnapshot _ _ => DeploymentSnapshot
  | addDeployment _ => Unit
  | getDeployment _ => Deployment
  | findByIdempotency _ _ _ => Option Deployment
  | compareAndSetDeployment _ _ => Bool
  | getVersion _ => AgentVersion
  | catalog _ => CapabilityCatalogRecord
  | validateKnowledge _ => Unit
  | requirePromotionAllowed _ => Bool
  | qualityGate _ => Unit
  | getPreview _ => Preview
  | generateId _ => String
  | quota _ | audit _ | deploy _ | enqueue _ => Unit
  | dequeue => Option DeploymentTask
  | acknowledge _ | retry _ => Unit

def isLocal : DeploymentOp → Bool
  | generateId _ => true
  | _ => false

end DeploymentOp

abbrev DeploymentProgram (α : Type) := Program DeploymentOp DeploymentOp.Answer DeploymentError α

namespace DeploymentOp

abbrev ask (op : DeploymentOp) : DeploymentProgram op.Answer :=
  Program.perform op fun answer => answer

def ensure {α : Type} (outcome : Except DeploymentError α) : DeploymentProgram α :=
  match outcome with
  | .ok value => .done value
  | .error error => .raised error

abbrev refuse (refused : Prop) [Decidable refused] (message : String) : DeploymentProgram Unit :=
  ensure (refuseIf refused message)

end DeploymentOp

open Interaction Program DeploymentOp

namespace DeploymentController

variable (current : Deployment)

def move (status : DeploymentStatus) (errorCode : Option String) :
  DeploymentProgram Deployment := do
  let updated := { current with status, fencingToken := current.fencingToken + 1, errorCode }
  let changed ← ask (.compareAndSetDeployment current.status updated)
  if changed then done updated else ask (.getDeployment current.task)

def routesFor (snapshot : DeploymentSnapshot) (healthy : Option String) :
  Option (List DeploymentRoute × Option String) :=
  let whole : List DeploymentRoute := [{ snapshotId := snapshot.snapshotId, weight := Percent.full }]
  if below : current.canaryPercent.value < 100 then
    match healthy with
    | none => none
    | some healthyId =>
      if healthyId = snapshot.snapshotId then some (whole, healthy)
      else
        some
          ([{ snapshotId := healthyId, weight := current.canaryPercent.rest below },
            { snapshotId := snapshot.snapshotId, weight := current.canaryPercent }], healthy)
  else some (whole, some snapshot.snapshotId)

def apply (environment : Environment) (target : List DeploymentRoute × Option String) :
  DeploymentProgram Deployment := do
  let updated : Environment :=
    { environment with
      revision := environment.revision + 1, routes := target.1, healthySnapshotId := target.2 }
  let changed ← ask (.compareAndSetEnvironment (some current.task) environment.revision updated)
  if changed then move current .succeeded none
  else move current .failed (some "environment_revision_conflict")

def deployTo (snapshot : DeploymentSnapshot) (environment : Environment) :
  DeploymentProgram Deployment := do
  ask (.deploy snapshot)
  match routesFor current snapshot environment.healthySnapshotId with
  | none => move current .failed (some "canary_requires_healthy_version")
  | some target => apply current environment target

/-- The `try` block of `reconcile`. -/
def attempt (snapshot : DeploymentSnapshot) : DeploymentProgram Deployment := do
  let environment ← ask (.getEnvironment current.environmentKey)
  if environment.revision ≠ current.expectedEnvironmentRevision then
    move current .failed (some "environment_revision_conflict")
  else deployTo current snapshot environment

def reconcile (task : DeploymentTask) : DeploymentProgram Deployment := do
  let current ← ask (.getDeployment task)
  if current.status.isTerminal then done current
  else if current.status = .queued then move current .reconciling none
  else do
    let snapshot ← ask (.getSnapshot task.tenantId current.targetSnapshotId)
    (attempt current snapshot).catching
      (fun _ => move current .failed (some "deployment_reconcile_failed"))

def settle (task : DeploymentTask) (result : Deployment) : DeploymentProgram Unit :=
  if result.status.isTerminal then ask (.acknowledge task) else ask (.retry task)

def processOnce : DeploymentProgram Unit := do
  match ← ask .dequeue with
  | none => done ()
  | some task => do
      let result ← (reconcile task).catching
        (fun error => (ask (.retry task)).bind fun _ => raised error)
      settle task result

end DeploymentController

end AgentHarness.Deployments
