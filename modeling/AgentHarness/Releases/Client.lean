import AgentHarness.Releases.Server

/-!
Release promotion client that preserves immutable bundle and image hashes.
-/

namespace AgentHarness.Releases

open Interaction Program
open Deployments

inductive PromotionError where
  | rejected
  | outage (type : String)
  | gate (message : String)
  | rollbackIncomplete

structure AgentBundle where
  (name version manifestHash packageHash : String)

structure ReleaseManifest where
  releaseId : String
  digest : releaseId.length = 64
  sandboxDigest : String
  agentBundles : List AgentBundle

structure PromotionEntry where
  agentName : String
  environment : EnvironmentName
  previousSnapshotId : Option String
  (targetSnapshotId deploymentId : String)

structure PromotionPlan where
  releaseId : String
  environment : EnvironmentName
  entries : List PromotionEntry

inductive ReleaseOp where
  | publish (bundle : AgentBundle)
  | evaluationGate (name version : String)
  | qualityGate (name version : String)
  | environment (agentName : String) (name : EnvironmentName)
  | snapshots (agentName : String)
  | promote (request : ReleaseRequest)
  | deployment (deploymentId : String)
  | rollback (agentName : String) (name : EnvironmentName) (request : RollbackRequest)
  | clock

namespace ReleaseOp

abbrev Answer : ReleaseOp → Type
  | publish _ => String × String
  | evaluationGate _ _ | qualityGate _ _ => Bool
  | environment _ _ => Environment
  | snapshots _ => List ReleaseSnapshot
  | promote _ | deployment _ | rollback _ _ _ => DeploymentView
  | clock => Bool

end ReleaseOp

abbrev ReleaseProgram (α : Type) := Program ReleaseOp ReleaseOp.Answer PromotionError α

namespace ReleasePromotionClient

abbrev ask (op : ReleaseOp) : ReleaseProgram op.Answer := Program.perform op fun answer => answer

def refuse (refused : Prop) [Decidable refused] (message : String) : ReleaseProgram Unit :=
  if refused then raised (.gate message) else done ()

/-- The outcome of a `try` block. -/
def caught {α : Type} (program : ReleaseProgram α) : ReleaseProgram (Except PromotionError α) :=
  (program.bind fun value => done (.ok value)).catching fun error => done (.error error)

variable (manifest : ReleaseManifest)

def publish : ReleaseProgram Unit :=
  each manifest.agentBundles (fun bundle => do
    let actual ← ask (.publish bundle)
    refuse (actual ≠ (bundle.manifestHash, bundle.packageHash))
      ("published Agent hash mismatch: " ++ bundle.name ++ "@" ++ bundle.version))

def gates (bundle : AgentBundle) : ReleaseProgram Unit := do
  let evaluated ← ask (.evaluationGate bundle.name bundle.version)
  let qualified ← ask (.qualityGate bundle.name bundle.version)
  refuse (evaluated = false) ("Eval gate blocked " ++ bundle.name ++ "@" ++ bundle.version)
  refuse (qualified = false) ("quality gate blocked " ++ bundle.name ++ "@" ++ bundle.version)

def priorTo : EnvironmentName → Option EnvironmentName
  | .test => none
  | .canary => some .test
  | .production => some .canary

def Verifies (bundle : AgentBundle) (snapshot : ReleaseSnapshot) : Prop :=
  snapshot.agentVersion = bundle.version ∧ snapshot.packageHash = bundle.packageHash ∧
    snapshot.imageDigest = manifest.sandboxDigest ∧ snapshot.releaseId = manifest.releaseId

instance (manifest : ReleaseManifest) (bundle : AgentBundle) (snapshot : ReleaseSnapshot) :
  Decidable (Verifies manifest bundle snapshot) :=
  inferInstanceAs (Decidable (_ ∧ _ ∧ _ ∧ _))

def checkPrior (bundle : AgentBundle) (environment prior : EnvironmentName) :
  ReleaseProgram Unit := do
  let current ← ask (.environment bundle.name prior)
  refuse (current.healthySnapshotId = none)
    (environment.value ++ " promotion requires a healthy " ++ prior.value ++ " snapshot")
  let snapshots ← ask (.snapshots bundle.name)
  refuse (¬ ∃ snapshot ∈ snapshots.find? (fun item => some item.snapshotId = current.healthySnapshotId),
      Verifies manifest bundle snapshot)
    (prior.value ++ " did not verify the exact signed release for " ++ bundle.name)

def requirePriorEnvironment (bundle : AgentBundle) (environment : EnvironmentName) :
  ReleaseProgram Unit :=
  match priorTo environment with
  | none => done ()
  | some prior => checkPrior manifest bundle environment prior

/-- `_wait`; between two polls the client sleeps, so that there are finitely many. -/
def wait (deploymentId : String) : Nat → ReleaseProgram DeploymentView
  | 0 => raised (.gate ("deployment timed out: " ++ deploymentId))
  | polls + 1 => do
      let inTime ← ask .clock
      if inTime then do
        let view ← ask (.deployment deploymentId)
        if view.deployment.status = .succeeded then done view
        else if view.deployment.status = .failed then
          raised (.gate ("deployment failed: " ++ deploymentId))
        else wait deploymentId polls
      else raised (.gate ("deployment timed out: " ++ deploymentId))

structure PromotionOrder where
  manifest : ReleaseManifest
  environment : EnvironmentName
  executionProfile : String
  canaryPercent : Percent
  polls : Nat

def releaseKey (releaseId : String) (environment : EnvironmentName) (agentName : String) : String :=
  "release:" ++ releaseId ++ ":" ++ environment.value ++ ":" ++ agentName

def rollbackKey (releaseId : String) (environment : EnvironmentName) (agentName : String) : String :=
  "rollback:" ++ releaseId ++ ":" ++ environment.value ++ ":" ++ agentName

namespace PromotionOrder

variable (order : PromotionOrder)

def request (bundle : AgentBundle) (revision : Nat) : ReleaseRequest where
  agentName := bundle.name
  agentVersion := bundle.version
  environment := order.environment
  expectedEnvironmentRevision := revision
  canaryPercent := order.canaryPercent
  executionProfile := order.executionProfile
  idempotencyKey := releaseKey order.manifest.releaseId order.environment bundle.name
  imageDigest := order.manifest.sandboxDigest
  releaseId := order.manifest.releaseId

def start (bundle : AgentBundle) : ReleaseProgram PromotionEntry := do
  requirePriorEnvironment order.manifest bundle order.environment
  gates bundle
  let current ← ask (.environment bundle.name order.environment)
  let view ← ask (.promote (order.request bundle current.revision))
  done
    { agentName := bundle.name, environment := order.environment
      previousSnapshotId := view.deployment.previousSnapshotId
      targetSnapshotId := view.deployment.targetSnapshotId
      deploymentId := view.deployment.deploymentId }

def finish (entry : PromotionEntry) : ReleaseProgram Unit := do
  let completed ← wait entry.deploymentId order.polls
  refuse (completed.target.imageDigest ≠ order.manifest.sandboxDigest)
    "deployment changed the signed sandbox image digest"

/-- The body of the `try` block: the entries as they stand when it ends, and its exception. -/
def promoteBundles : List AgentBundle → List PromotionEntry →
    ReleaseProgram (List PromotionEntry × Option PromotionError)
  | [], entries => done (entries, none)
  | bundle :: rest, entries =>
    (caught (order.start bundle)).bind (fun started =>
      match started with
      | .error error => done (entries, some error)
      | .ok entry =>
        (caught (order.finish entry)).bind (fun finished =>
          match finished with
          | .error error => done (entries ++ [entry], some error)
          | .ok _ => promoteBundles rest (entries ++ [entry])))

end PromotionOrder

/-- One entry of `rollback`. -/
def restore (polls : Nat) (releaseId : String) (entry : PromotionEntry) (previous : String) :
  ReleaseProgram PromotionEntry := do
  let current ← ask (.environment entry.agentName entry.environment)
  let view ← ask (.rollback entry.agentName entry.environment
    { snapshotId := previous, expectedEnvironmentRevision := current.revision
      idempotencyKey := rollbackKey releaseId entry.environment entry.agentName })
  let completed ← wait view.deployment.deploymentId polls
  refuse (completed.deployment.targetSnapshotId ≠ previous)
    "rollback did not restore the requested snapshot"
  done
    { agentName := entry.agentName, environment := entry.environment
      previousSnapshotId := some entry.targetSnapshotId, targetSnapshotId := previous
      deploymentId := view.deployment.deploymentId }

def restoreEntries (polls : Nat) (releaseId : String) :
    List PromotionEntry → ReleaseProgram (List PromotionEntry)
  | [] => done []
  | entry :: rest =>
    match entry.previousSnapshotId with
    | none => restoreEntries polls releaseId rest
    | some previous => do
        let restored ← restore polls releaseId entry previous
        let others ← restoreEntries polls releaseId rest
        done (restored :: others)

def rollback (polls : Nat) (plan : PromotionPlan) : ReleaseProgram PromotionPlan := do
  let restored ← restoreEntries polls plan.releaseId plan.entries.reverse
  done { plan with entries := restored }

/-- The `except` block of `promote`. -/
def recover (order : PromotionOrder) (entries : List PromotionEntry) (error : PromotionError) :
  ReleaseProgram PromotionPlan :=
  if entries = [] then raised error
  else
    (caught (rollback order.polls
      { releaseId := order.manifest.releaseId, environment := order.environment, entries })).bind
      (fun outcome =>
        match outcome with
        | .ok _ => raised error
        | .error _ => raised .rollbackIncomplete)

def promote (order : PromotionOrder) : ReleaseProgram PromotionPlan := do
  publish order.manifest
  let outcome ← order.promoteBundles order.manifest.agentBundles []
  match outcome.2 with
  | none =>
    done
      { releaseId := order.manifest.releaseId, environment := order.environment
        entries := outcome.1 }
  | some error => recover order outcome.1 error

end ReleasePromotionClient

/-- What the outside contributes to a request: what the controllers do before it, a failure that
strikes before it takes effect or after it, and what the gates and the clock say. -/
structure ReleaseInput where
  works : List Work := []
  lost : Option (Bool × String) := none
  refused : Bool := false
  passed : Bool := true
  inTime : Bool := true

namespace ReleasePlatform

def orRejected {α : Type} (answer : Option α) : Except PromotionError α :=
  match answer with
  | none => .error .rejected
  | some value => .ok value

variable (platform : ReleasePlatform)

def answer (input : ReleaseInput) (server : ReleaseServer) :
    (op : ReleaseOp) → Except PromotionError op.Answer × ReleaseServer
  | .publish bundle => (orRejected (platform.packages bundle.name bundle.version), server)
  | .evaluationGate _ _ | .qualityGate _ _ => (.ok input.passed, server)
  | .environment agentName name =>
    (.ok (platform.environment server (platform.environmentKey agentName name)), server)
  | .snapshots agentName =>
    (.ok (server.snapshots.values.filter fun snapshot => snapshot.agentName = agentName), server)
  | .promote request =>
    let reply := platform.promote input.refused server request
    (orRejected reply.1, reply.2)
  | .deployment deploymentId =>
    (orRejected ((server.deployments.get? deploymentId).bind server.view), server)
  | .rollback agentName name request =>
    let reply := platform.rollback server agentName name request
    (orRejected reply.1, reply.2)
  | .clock => (.ok input.inTime, server)

def worked (server : ReleaseServer) (input : ReleaseInput) : ReleaseServer :=
  input.works.foldl platform.work server

def respond (input : ReleaseInput) (server : ReleaseServer) (op : ReleaseOp) :
  Except PromotionError op.Answer × ReleaseServer :=
  let current := platform.worked server input
  let reply := platform.answer input current op
  match input.lost with
  | none => reply
  | some (false, type) => (.error (.outage type), current)
  | some (true, type) => (.error (.outage type), reply.2)

def releaseComponent :
  Component ReleaseOp ReleaseOp.Answer PromotionError Unit ReleaseServer ReleaseInput where
  respond _ := platform.respond

end ReleasePlatform

inductive ReleaseCall where
  | promote (order : ReleasePromotionClient.PromotionOrder)
  | rollback (polls : Nat) (plan : PromotionPlan)

def ReleaseCall.program : ReleaseCall → ReleaseProgram PromotionPlan
  | .promote order => ReleasePromotionClient.promote order
  | .rollback polls plan => ReleasePromotionClient.rollback polls plan

abbrev ReleasePool :=
  Pool ReleaseOp ReleaseOp.Answer PromotionError Unit ReleaseServer PromotionPlan

def callPool (server : ReleaseServer) (call : ReleaseCall) : ReleasePool where
  state := server
  thread _ := call.program

namespace ReleasePlatform

def perform (platform : ReleasePlatform) (server : ReleaseServer) (call : ReleaseCall)
  (inputs : List ReleaseInput) : ReleasePool :=
  (callPool server call).run platform.releaseComponent (inputs.map fun input => ((), input))

def afterCalls (platform : ReleasePlatform) (history : List (ReleaseCall × List ReleaseInput)) :
  ReleaseServer :=
  history.foldl (fun server past => (platform.perform server past.1 past.2).state) {}

end ReleasePlatform

end AgentHarness.Releases
