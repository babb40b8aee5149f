import AgentHarness.Collections.Dict
import AgentHarness.Deployments.Service

/-!
The deployment server as a release promotion client sees it.
-/

namespace AgentHarness.Releases

open Collections
open Deployments

/-- The tenant and the user of the client, what is published and never changes, the policies that
environments start with, and the identifiers that are generated. -/
structure ReleasePlatform where
  (tenantId userId : String)
  packages : String → String → Option (String × String)
  policy : EnvironmentName → EnvironmentResourcePolicy
  generatedId : String → Nat → String

structure ReleaseSnapshot extends DeploymentSnapshot where
  (packageHash imageDigest releaseId : String)

structure ReleaseRequest extends PromoteRequest where
  (imageDigest releaseId : String)

structure DeploymentView where
  deployment : Deployment
  target : ReleaseSnapshot

structure ReleaseServer where
  environments : Dict EnvironmentKey Environment := Dict.empty
  snapshots : Dict String ReleaseSnapshot := Dict.empty
  deployments : Dict String Deployment := Dict.empty
  generated : Nat := 0
  /-- History: the deployments that changed their environments, and the last one of each. -/
  applied : List String := []
  newest : Dict EnvironmentKey String := Dict.empty

inductive Work where
  | apply (deploymentId : String)
  | record (deploymentId : String)
  | fail (deploymentId : String)

namespace ReleaseServer

variable (server : ReleaseServer)

def requestedUnder (key : String) : Option Deployment :=
  server.deployments.values.find? fun deployment => deployment.idempotencyKey = key

def put (deployment : Deployment) : ReleaseServer :=
  { server with deployments := server.deployments.set deployment.deploymentId deployment }

def view (deployment : Deployment) : Option DeploymentView :=
  (server.snapshots.get? deployment.targetSnapshotId).map fun target => { deployment, target }

end ReleaseServer

namespace ReleasePlatform

variable (platform : ReleasePlatform)

def environmentKey (agentName : String) (name : EnvironmentName) : EnvironmentKey where
  tenantId := platform.tenantId
  ownerUserId := platform.userId
  agentName
  name

def environment (server : ReleaseServer) (key : EnvironmentKey) : Environment :=
  (server.environments.get? key).getD
    { key, revision := 0, resourcePolicy := platform.policy key.name }

def versionPublished (request : ReleaseRequest) : Option (String × String) :=
  platform.packages request.agentName request.agentVersion

def promotedSnapshot (request : ReleaseRequest) (packageHash snapshotId : String) :
  ReleaseSnapshot where
  tenantId := platform.tenantId
  snapshotId
  agentName := request.agentName
  agentVersion := request.agentVersion
  environment := request.environment
  executionProfile := request.executionProfile
  executionProfileVersion := (platform.policy request.environment).executionProfileVersion
  evalGatePassed := true
  createdBy := platform.userId
  packageHash
  imageDigest := request.imageDigest
  releaseId := request.releaseId

variable (server : ReleaseServer)

def store (deployment : Deployment) : Option DeploymentView × ReleaseServer :=
  match server.deployments.get? deployment.deploymentId with
  | some _ => (none, server)
  | none => (server.view deployment, server.put deployment)

def launch (server : ReleaseServer) (environment : Environment) (request : ReleaseRequest)
  (packageHash : String) : Option DeploymentView × ReleaseServer :=
  let snapshotId := platform.generatedId "deployment_snapshot" server.generated
  let deploymentId := platform.generatedId "deployment" server.generated
  let snapshot := platform.promotedSnapshot request packageHash snapshotId
  let numbered := { server with generated := server.generated + 1 }
  match server.snapshots.get? snapshotId with
  | some _ => (none, numbered)
  | none =>
    store { numbered with snapshots := server.snapshots.set snapshotId snapshot }
      (DeploymentService.promotion environment request.toPromoteRequest snapshotId deploymentId)

def samePromote (existing : Deployment) (request : ReleaseRequest) : Option DeploymentView :=
  match server.snapshots.get? existing.targetSnapshotId with
  | none => none
  | some target =>
    if existing.action ≠ .promote ∨ target.agentVersion ≠ request.agentVersion ∨
        existing.environment ≠ request.environment ∨
          existing.canaryPercent ≠ request.canaryPercent then none
    else some { deployment := existing, target }

/-- A refusal of any kind is an error status to the client; `refused` stands for the gates that
do not read what is modelled here. -/
def promote (refused : Bool) (server : ReleaseServer) (request : ReleaseRequest) :
  Option DeploymentView × ReleaseServer :=
  match server.requestedUnder request.idempotencyKey with
  | some existing => (samePromote server existing request, server)
  | none =>
    let key := platform.environmentKey request.agentName request.environment
    let environment := platform.environment server key
    if environment.revision ≠ request.expectedEnvironmentRevision then (none, server)
    else
      match platform.versionPublished request with
      | none => (none, server)
      | some (_, packageHash) =>
        if refused then (none, server)
        else platform.launch server { environment with key } request packageHash

def sameRollback (key : EnvironmentKey) (existing : Deployment) (request : RollbackRequest) :
  Option DeploymentView :=
  match server.snapshots.get? existing.targetSnapshotId with
  | none => none
  | some target =>
    if existing.action ≠ .rollback ∨ existing.agentName ≠ key.agentName ∨
        existing.environment ≠ key.name ∨ target.snapshotId ≠ request.snapshotId then none
    else some { deployment := existing, target }

def rollbackOf (key : EnvironmentKey) (environment : Environment) (request : RollbackRequest)
  (snapshotId deploymentId : String) : Deployment where
  tenantId := key.tenantId
  deploymentId
  agentName := key.agentName
  environment := key.name
  action := .rollback
  targetSnapshotId := snapshotId
  previousSnapshotId := environment.healthySnapshotId
  canaryPercent := Percent.full
  expectedEnvironmentRevision := environment.revision
  idempotencyKey := request.idempotencyKey
  requestedBy := key.ownerUserId
  status := .queued

def rollback (server : ReleaseServer) (agentName : String) (name : EnvironmentName)
  (request : RollbackRequest) : Option DeploymentView × ReleaseServer :=
  let key := platform.environmentKey agentName name
  match server.requestedUnder request.idempotencyKey with
  | some existing => (sameRollback server key existing request, server)
  | none =>
    let environment := platform.environment server key
    if environment.revision ≠ request.expectedEnvironmentRevision then (none, server)
    else
      match server.snapshots.get? request.snapshotId with
      | none => (none, server)
      | some snapshot =>
        if snapshot.agentName ≠ key.agentName ∨ snapshot.environment ≠ key.name ∨
            ¬ snapshot.evalGatePassed then (none, server)
        else
          store { server with generated := server.generated + 1 }
            (rollbackOf key environment request request.snapshotId
              (platform.generatedId "deployment" server.generated))

def routed (server : ReleaseServer) (current : Deployment) :
  Option (List DeploymentRoute × Option String) :=
  match server.snapshots.get? current.targetSnapshotId with
  | none => none
  | some snapshot =>
    DeploymentController.routesFor current snapshot.toDeploymentSnapshot
      (platform.environment server current.environmentKey).healthySnapshotId

def apply (server : ReleaseServer) (current : Deployment) : ReleaseServer :=
  let environment := platform.environment server current.environmentKey
  if environment.revision ≠ current.expectedEnvironmentRevision then server
  else
    match platform.routed server current with
    | none => server
    | some target =>
      { server with
        environments := server.environments.set current.environmentKey
          { environment with
            revision := environment.revision + 1, routes := target.1
            healthySnapshotId := target.2 }
        applied := current.deploymentId :: server.applied
        newest := server.newest.set current.environmentKey current.deploymentId }

def work (server : ReleaseServer) (step : Work) : ReleaseServer :=
  let named := match step with
    | .apply deploymentId | .record deploymentId | .fail deploymentId => deploymentId
  match server.deployments.get? named with
  | none => server
  | some current =>
    if current.status.isTerminal then server
    else
      match step with
      | .apply _ => platform.apply server current
      | .record _ =>
        if current.deploymentId ∈ server.applied then
          server.put { current with status := .succeeded }
        else server
      | .fail _ => server.put { current with status := .failed }

end ReleasePlatform

end AgentHarness.Releases
