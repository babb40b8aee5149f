import AgentHarness.Collections.Dict
import AgentHarness.Deployments.Service
import Mathlib.Data.Finset.Empty

/-!
Promotions that come again under an idempotency key that is on record.

Between a promotion and a later one under its key the store may go through any sequence of
operations of the repository. What the environment and the gates answer is a parameter: a
repeated promotion does not reach them, and reads an environment that the first one has read.
-/

namespace AgentHarness.Deployments

open Collections Dict Option

inductive ConfigValue where
  | text (value : String)
  | number (value : Int)
  | flag (value : Bool)
  deriving DecidableEq

/-- What a promotion deploys; the items of a configuration have no order. -/
structure Promoted where
  (agentName agentVersion : String)
  environment : EnvironmentName
  canaryPercent : Percent
  executionProfile : String
  previewId : Option String
  imageDigest : String
  config : Finset (String × ConfigValue)

structure PromotionRequest extends PromoteRequest where
  imageDigest : String
  config : Finset (String × ConfigValue) := ∅

def PromotionRequest.promoted (request : PromotionRequest) : Promoted := { request with }

structure PromotedSnapshot extends DeploymentSnapshot where
  (packageHash imageDigest : String)
  config : Finset (String × ConfigValue)
  previewId : Option String
  deriving DecidableEq

structure PromotionView where
  deployment : Deployment
  target : PromotedSnapshot

def PromotionView.promoted (view : PromotionView) : Promoted :=
  { view.target with
    agentName := view.deployment.agentName, environment := view.deployment.environment
    canaryPercent := view.deployment.canaryPercent }

structure PromotionStore where
  snapshots : Dict (String × String) PromotedSnapshot := Dict.empty
  items : Dict (String × String) Deployment := Dict.empty
  idempotency : Dict (String × String × String) String := Dict.empty

structure PromotionChecks where
  environment : Except DeploymentError Environment
  published : Except DeploymentError (String × ExecutionProfileMetadata × Bool)
  (snapshotId deploymentId : String)

namespace PromotionStore

def addSnapshot (store : PromotionStore) (snapshot : PromotedSnapshot) :
  Except DeploymentError PromotionStore :=
  let key := (snapshot.tenantId, snapshot.snapshotId)
  match store.snapshots.get? key with
  | some existing =>
    if existing = snapshot then .ok store
    else .error (.conflict "Deployment Snapshot already exists")
  | none => .ok { store with snapshots := store.snapshots.set key snapshot }

def add (store : PromotionStore) (deployment : Deployment) :
  Except DeploymentError PromotionStore :=
  let key := (deployment.tenantId, deployment.deploymentId)
  let idem := (deployment.tenantId, deployment.requestedBy, deployment.idempotencyKey)
  if (store.items.get? key).isSome ∨ (store.idempotency.get? idem).isSome then
    .error (.conflict "Deployment already exists")
  else
    .ok { store with
      items := store.items.set key deployment
      idempotency := store.idempotency.set idem deployment.deploymentId }

def findByIdempotency (store : PromotionStore) (tenantId userId key : String) : Option Deployment :=
  (store.idempotency.get? (tenantId, userId, key)).bind (fun deploymentId =>
    store.items.get? (tenantId, deploymentId))

def snapshotForUser (store : PromotionStore) (tenantId userId snapshotId : String) :
  Except DeploymentError PromotedSnapshot :=
  match (store.snapshots.get? (tenantId, snapshotId)).filter (·.createdBy = userId) with
  | none => .error (.notFound ("Deployment Snapshot not found: " ++ snapshotId))
  | some value => .ok value

def view (store : PromotionStore) (tenantId userId deploymentId : String) :
  Except DeploymentError PromotionView := do
  match (store.items.get? (tenantId, deploymentId)).filter (·.requestedBy = userId) with
  | none => .error (.notFound ("Deployment not found: " ++ deploymentId))
  | some deployment =>
    let target ← store.snapshotForUser tenantId userId deployment.targetSnapshotId
    .ok { deployment, target }

def samePromote (store : PromotionStore) (existing : Deployment) (request : PromotionRequest) :
  Except DeploymentError PromotionView := do
  let target ← store.snapshotForUser existing.tenantId existing.requestedBy
    existing.targetSnapshotId
  if existing.action ≠ .promote ∨ target.agentVersion ≠ request.agentVersion ∨
      existing.environment ≠ request.environment ∨
        existing.canaryPercent ≠ request.canaryPercent then
    .error (.conflict "Deployment idempotency key was reused for another promotion")
  else store.view existing.tenantId existing.requestedBy existing.deploymentId

def promotedSnapshot (environment : Environment) (request : PromotionRequest)
  (checks : PromotionChecks) (packageHash : String) (profile : ExecutionProfileMetadata)
  (gatePassed : Bool) : PromotedSnapshot :=
  { DeploymentService.promotedSnapshot environment request.toPromoteRequest profile gatePassed
      checks.snapshotId with
    packageHash
    imageDigest := request.imageDigest
    config := request.config
    previewId := request.previewId }

/-- What `promote` does for a key that is not on record. -/
def promoteAnew (store : PromotionStore) (checks : PromotionChecks) (tenantId userId : String)
  (request : PromotionRequest) : Except DeploymentError PromotionView × PromotionStore :=
  match checks.environment, checks.published with
  | .error error, _ => (.error error, store)
  | .ok environment, published =>
    if environment.revision ≠ request.expectedEnvironmentRevision then
      (.error (.conflict "Environment revision changed before promotion"), store)
    else
      match published with
      | .error error => (.error error, store)
      | .ok (packageHash, profile, gatePassed) =>
        let environment := { environment with
          key := ⟨tenantId, userId, request.agentName, request.environment⟩ }
        let target := promotedSnapshot environment request checks packageHash profile gatePassed
        let deployment := DeploymentService.promotion environment request.toPromoteRequest
          target.snapshotId checks.deploymentId
        match store.addSnapshot target with
        | .error error => (.error error, store)
        | .ok store =>
          match store.add deployment with
          | .ok store => (.ok { deployment, target }, store)
          | .error error =>
            match store.findByIdempotency tenantId userId request.idempotencyKey with
            | none => (.error error, store)
            | some concurrent => (store.samePromote concurrent request, store)

def promote (store : PromotionStore) (checks : PromotionChecks) (tenantId userId : String)
  (request : PromotionRequest) : Except DeploymentError PromotionView × PromotionStore :=
  match store.findByIdempotency tenantId userId request.idempotencyKey with
  | some existing => (store.samePromote existing request, store)
  | none => store.promoteAnew checks tenantId userId request

inductive Operation where
  | addSnapshot (snapshot : PromotedSnapshot)
  | add (deployment : Deployment)
  | move (key : String × String) (status : DeploymentStatus) (fencingToken : Nat)
      (errorCode : Option String)

def operate (store : PromotionStore) : Operation → PromotionStore
  | .addSnapshot snapshot => (store.addSnapshot snapshot).toOption.getD store
  | .add deployment => (store.add deployment).toOption.getD store
  | .move key status fencingToken errorCode =>
    match store.items.get? key with
    | none => store
    | some current =>
      { store with
        items := store.items.set key { current with status, fencingToken, errorCode } }

structure Holds (store : PromotionStore) (tenantId userId : String) (earlier : PromotionRequest)
    (recorded : PromotionView) : Prop where
  found : store.idempotency.get? (tenantId, userId, earlier.idempotencyKey) =
    some recorded.deployment.deploymentId
  listed : store.items.get? (tenantId, recorded.deployment.deploymentId) = some recorded.deployment
  snapshot : store.snapshots.get? (tenantId, recorded.deployment.targetSnapshotId) =
    some recorded.target
  tenant : recorded.deployment.tenantId = tenantId
  user : recorded.deployment.requestedBy = userId
  createdBy : recorded.target.createdBy = userId
  action : recorded.deployment.action = .promote
  promoted : recorded.promoted = earlier.promoted

variable {store : PromotionStore} {tenantId userId : String} {earlier later : PromotionRequest}
  {recorded : PromotionView}

theorem kept {Key Value : Type} [DecidableEq Key] {dict : Dict Key Value} {key other : Key}
  {value old : Value} (absent : dict.get? key = none) (present : dict.get? other = some old) :
  (dict.set key value).get? other = some old := by
  rw [get?_set_other, present]
  intro same
  rw [← same, present] at absent
  cases absent

theorem Holds.operate (holds : store.Holds tenantId userId earlier recorded)
  (operation : Operation) :
  ∃ moved, (store.operate operation).Holds tenantId userId earlier moved := by
  cases operation with
  | addSnapshot snapshot =>
    refine ⟨recorded, ?_⟩
    dsimp only [PromotionStore.operate, PromotionStore.addSnapshot]
    split
    · split <;> exact holds
    case h_2 absent => exact { holds with snapshot := kept absent holds.snapshot }
  | add added =>
    refine ⟨recorded, ?_⟩
    dsimp only [PromotionStore.operate, PromotionStore.add]
    split
    · exact holds
    case isFalse fresh =>
      obtain ⟨item, idem⟩ := not_or.mp fresh
      exact { holds with
        found := kept (not_isSome_iff_eq_none.mp idem) holds.found
        listed := kept (not_isSome_iff_eq_none.mp item) holds.listed }
  | move key status fencingToken errorCode =>
    dsimp only [PromotionStore.operate]
    cases stored : store.items.get? key with
    | none => exact ⟨recorded, holds⟩
    | some current =>
      by_cases same : (tenantId, recorded.deployment.deploymentId) = key
      · rw [← same, holds.listed] at stored
        cases stored
        exact ⟨{ recorded with
            deployment := { recorded.deployment with status, fencingToken, errorCode } },
          { holds with listed := by rw [← same, get?_set_self] }⟩
      exact ⟨recorded, { holds with listed := (get?_set_other _ _ same).trans holds.listed }⟩

theorem Holds.run (holds : store.Holds tenantId userId earlier recorded)
  (operations : List Operation) :
  ∃ moved, (operations.foldl PromotionStore.operate store).Holds tenantId userId earlier
    moved := by
  induction operations generalizing store recorded with
  | nil => exact ⟨recorded, holds⟩
  | cons operation rest ih =>
    obtain ⟨moved, holds⟩ := holds.operate operation
    exact ih holds

theorem addSnapshot_ok {snapshot : PromotedSnapshot} {store' : PromotionStore}
  (added : store.addSnapshot snapshot = .ok store') :
  store' = { store with snapshots := store'.snapshots } ∧
    store'.snapshots.get? (snapshot.tenantId, snapshot.snapshotId) = some snapshot := by
  unfold PromotionStore.addSnapshot at added
  dsimp only at added
  split at added
  case h_1 existing stored =>
    split at added
    case isTrue same =>
      cases added
      exact ⟨rfl, stored.trans (congrArg some same)⟩
    · cases added
  · cases added
    exact ⟨rfl, get?_set_self _ _ _⟩

theorem promote_holds {checks : PromotionChecks} {view : PromotionView} {store' : PromotionStore}
  (new : store.findByIdempotency tenantId userId earlier.idempotencyKey = none)
  (answered : store.promote checks tenantId userId earlier = (.ok view, store')) :
  store'.Holds tenantId userId earlier view := by
  unfold PromotionStore.promote at answered
  rw [new] at answered
  dsimp only at answered
  unfold promoteAnew at answered
  split at answered
  · cases answered
  case h_2 environment _ _ =>
    split at answered
    · cases answered
    split at answered
    case h_1 => cases answered
    · dsimp only at answered
      split at answered
      · cases answered
      case h_2 middle snapshotAt =>
        obtain ⟨same, snapshot⟩ := addSnapshot_ok snapshotAt
        split at answered
        case h_1 last addedAt =>
          cases answered
          unfold PromotionStore.add at addedAt
          dsimp only at addedAt
          split at addedAt
          · cases addedAt
          cases addedAt
          exact
            { found := get?_set_self _ _ _, listed := get?_set_self _ _ _, snapshot
              tenant := rfl, user := rfl, createdBy := rfl, action := rfl, promoted := rfl }
        · have missing : middle.findByIdempotency tenantId userId
            earlier.idempotencyKey = none := by
            rw [same]
            exact new
          rw [missing] at answered
          cases answered

end PromotionStore

def Promoted.Compared (earlier later : Promoted) : Prop :=
  earlier.agentVersion = later.agentVersion ∧ earlier.environment = later.environment ∧
    earlier.canaryPercent = later.canaryPercent

namespace PromotionStore

variable {store : PromotionStore} {tenantId userId : String} {earlier later : PromotionRequest}
  {recorded : PromotionView}

theorem promote_again (checks : PromotionChecks)
  (holds : store.Holds tenantId userId earlier recorded)
  (sameKey : later.idempotencyKey = earlier.idempotencyKey) :
  (earlier.promoted.Compared later.promoted ∧
    store.promote checks tenantId userId later = (.ok recorded, store)) ∨
    (¬ earlier.promoted.Compared later.promoted ∧
    store.promote checks tenantId userId later = (.error (.conflict
    "Deployment idempotency key was reused for another promotion"), store)) := by
  have found : store.findByIdempotency tenantId userId later.idempotencyKey =
    some recorded.deployment := by
    rw [findByIdempotency, sameKey, holds.found]
    exact holds.listed
  have snapshot : store.snapshotForUser tenantId userId recorded.deployment.targetSnapshotId =
    .ok recorded.target := by
    rw [snapshotForUser, holds.snapshot, filter_some, if_pos (by simp [holds.createdBy])]
  have viewed : store.view tenantId userId recorded.deployment.deploymentId = .ok recorded := by
    rw [PromotionStore.view, holds.listed, filter_some, if_pos (by simp [holds.user])]
    dsimp only
    rw [snapshot]
    rfl
  have version : recorded.target.agentVersion = earlier.agentVersion :=
    congrArg Promoted.agentVersion holds.promoted
  have environment : recorded.deployment.environment = earlier.environment :=
    congrArg Promoted.environment holds.promoted
  have percent : recorded.deployment.canaryPercent = earlier.canaryPercent :=
    congrArg Promoted.canaryPercent holds.promoted
  have agrees : ¬ (recorded.deployment.action ≠ .promote ∨
    recorded.target.agentVersion ≠ later.agentVersion ∨
      recorded.deployment.environment ≠ later.environment ∨
        recorded.deployment.canaryPercent ≠ later.canaryPercent) ↔
    earlier.promoted.Compared later.promoted := by
    rw [version, environment, percent]
    simp only [not_or, not_not, holds.action, true_and]
    rfl
  unfold PromotionStore.promote
  rw [found]
  dsimp only
  unfold samePromote
  rw [holds.tenant, holds.user, snapshot]
  by_cases same : earlier.promoted.Compared later.promoted
  · exact .inl ⟨same, congrArg (·, store) ((if_neg (agrees.mpr same)).trans viewed)⟩
  exact .inr ⟨same, congrArg (·, store) (if_pos (not_not.mp (mt agrees.mp same)))⟩

end PromotionStore

open PromotionStore

/-- What is asked of a repeated promotion: it is answered with what is on record only if it
deploys the same, and is refused with nothing changed otherwise. -/
def AnsweredFaithfully (earlier later : PromotionRequest) (store : PromotionStore)
  (answer : Except DeploymentError PromotionView × PromotionStore) : Prop :=
  (answer.1.isOk = true → earlier.promoted = later.promoted) ∧
    (earlier.promoted ≠ later.promoted → answer.1.isOk = false ∧ answer.2 = store)

theorem promotions_replayed_iff {store store' : PromotionStore} {tenantId userId : String}
  {earlier later : PromotionRequest} {checks : PromotionChecks} {view : PromotionView}
  (checks' : PromotionChecks) (operations : List Operation)
  (new : store.findByIdempotency tenantId userId earlier.idempotencyKey = none)
  (answered : store.promote checks tenantId userId earlier = (.ok view, store'))
  (sameKey : later.idempotencyKey = earlier.idempotencyKey) :
  AnsweredFaithfully earlier later (operations.foldl operate store')
    ((operations.foldl operate store').promote checks' tenantId userId later) ↔
    (earlier.promoted.Compared later.promoted → earlier.promoted = later.promoted) := by
  obtain ⟨moved, holds⟩ := (promote_holds new answered).run operations
  rcases promote_again checks' holds sameKey with ⟨same, answer⟩ | ⟨other, answer⟩
  · rw [answer]
    constructor
    · exact fun faithful _ => faithful.1 rfl
    exact fun equal => ⟨fun _ => equal same, fun differs => absurd (equal same) differs⟩
  rw [answer]
  constructor
  · exact fun _ same => absurd same other
  intro _
  constructor
  · intro failed
    cases failed
  exact fun _ => ⟨rfl, rfl⟩

def testChecks : PromotionChecks where
  environment := .ok
    { key := ⟨"tenant", "user", "writer", .test⟩, revision := 0
      resourcePolicy := ⟨"isolated-default", 1, "none", 1, [], ["default"], 1, [], []⟩ }
  published := .ok ("b5", { profileId := "isolated-default", networkAccess := [] }, true)
  snapshotId := "snapshot_1"
  deploymentId := "deployment_1"

def toTest (imageDigest : String) : PromotionRequest where
  agentName := "writer"
  agentVersion := "1.0.0"
  environment := .test
  expectedEnvironmentRevision := 0
  executionProfile := "isolated-default"
  idempotencyKey := "key"
  imageDigest

theorem toTest_promoted : ∃ view store',
  ({} : PromotionStore).promote testChecks "tenant" "user" (toTest "sha256:a") =
    (.ok view, store') :=
  ⟨_, _, rfl⟩

theorem promotions_replayed_same :
  ∃ view store', ({} : PromotionStore).promote testChecks "tenant" "user" (toTest "sha256:a") =
    (.ok view, store') ∧
    AnsweredFaithfully (toTest "sha256:a") (toTest "sha256:a") store'
    (store'.promote testChecks "tenant" "user" (toTest "sha256:a")) := by
  obtain ⟨view, store', answered⟩ := toTest_promoted
  exact ⟨view, store', answered,
    (promotions_replayed_iff testChecks [] rfl answered rfl).mpr fun _ => rfl⟩

/-- Another image under the same key is answered with the deployment of the first. -/
theorem other_image_not_refused :
  ∃ view store', ({} : PromotionStore).promote testChecks "tenant" "user" (toTest "sha256:a") =
    (.ok view, store') ∧
    ¬ AnsweredFaithfully (toTest "sha256:a") (toTest "sha256:b") store'
    (store'.promote testChecks "tenant" "user" (toTest "sha256:b")) := by
  refine ⟨_, _, rfl, fun faithful => ?_⟩
  have same := faithful.1 rfl
  exact absurd (congrArg Promoted.imageDigest same) (by decide)

end AgentHarness.Deployments
