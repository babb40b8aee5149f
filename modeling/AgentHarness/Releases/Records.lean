import AgentHarness.Releases.Ledger

/-!
What holds of the stored deployments after any history of calls.
-/

namespace AgentHarness.Releases

open Collections Interaction ReleasePromotionClient
open Deployments Dict List ReleasePlatform Percent DeploymentController ReleaseServer
open Option String

theorem append_cancel {first second tail tail' : String}
  (same : first ++ tail = second ++ tail') (lengths : first.length = second.length) :
  first = second ∧ tail = tail' := by
  have lists : first.toList ++ tail.toList = second.toList ++ tail'.toList := by
    rw [← String.toList_append, ← String.toList_append, same]
  have sizes : first.toList.length = second.toList.length := by
    rw [String.length_toList, String.length_toList, lengths]
  obtain ⟨heads, tails⟩ := append_inj lists sizes
  exact ⟨String.toList_inj.mp heads, String.toList_inj.mp tails⟩

theorem environmentName_cancel {environment other : EnvironmentName} {tail tail' : String}
  (same : environment.value ++ tail = other.value ++ tail') :
  environment = other ∧ tail = tail' := by
  have lists : environment.value.toList ++ tail.toList = other.value.toList ++ tail'.toList := by
    rw [← toList_append, ← toList_append, same]
  have heads := congrArg List.head? lists
  cases environment with
  | test =>
    cases other with
    | test => exact ⟨rfl, (append_cancel same rfl).2⟩
    | canary | production => cases heads
  | canary =>
    cases other with
    | canary => exact ⟨rfl, (append_cancel same rfl).2⟩
    | test | production => cases heads
  | production =>
    cases other with
    | production => exact ⟨rfl, (append_cancel same rfl).2⟩
    | test | canary => cases heads

theorem releaseKey_names {releaseId releaseId' agentName agentName' : String}
  {environment environment' : EnvironmentName} (digest : releaseId.length = 64)
  (digest' : releaseId'.length = 64)
  (same : releaseKey releaseId environment agentName =
    releaseKey releaseId' environment' agentName') :
  environment = environment' ∧ agentName = agentName' := by
  unfold releaseKey at same
  simp only [String.append_assoc] at same
  obtain ⟨_, afterLabel⟩ := append_cancel same rfl
  obtain ⟨_, afterRelease⟩ := append_cancel afterLabel (digest.trans digest'.symm)
  obtain ⟨_, afterColon⟩ := append_cancel afterRelease rfl
  obtain ⟨named, afterName⟩ := environmentName_cancel afterColon
  exact ⟨named, (append_cancel afterName rfl).2⟩

variable (platform : ReleasePlatform)

def Settled (server : ReleaseServer) (key : EnvironmentKey) : Prop :=
  ∀ deployment ∈ server.deployments.values, deployment.environmentKey = key →
    deployment.status.isTerminal = false →
      deployment.expectedEnvironmentRevision < (platform.environment server key).revision

structure Startable (platform : ReleasePlatform) (server : ReleaseServer)
    (deployment : Deployment) : Prop where
  free : server.deployments.get? deployment.deploymentId = none
  first : server.requestedUnder deployment.idempotencyKey = none
  queued : deployment.status = .queued
  tenant : deployment.tenantId = platform.tenantId
  owner : deployment.requestedBy = platform.userId
  current : deployment.expectedEnvironmentRevision =
    (platform.environment server deployment.environmentKey).revision
  previous : deployment.previousSnapshotId =
    (platform.environment server deployment.environmentKey).healthySnapshotId

def afterApply (server : ReleaseServer) (current : Deployment)
  (target : List DeploymentRoute × Option String) : ReleaseServer :=
  let environment := platform.environment server current.environmentKey
  { server with
    environments := server.environments.set current.environmentKey
      { environment with
        revision := environment.revision + 1, routes := target.1, healthySnapshotId := target.2 }
    applied := current.deploymentId :: server.applied
    newest := server.newest.set current.environmentKey current.deploymentId }

theorem work_cases (server : ReleaseServer) (step : Work) : platform.work server step = server ∨
  ∃ deploymentId current, server.deployments.get? deploymentId = some current ∧
  current.status.isTerminal = false ∧ ((step = .apply deploymentId ∧
  (platform.environment server current.environmentKey).revision =
  current.expectedEnvironmentRevision ∧
  ∃ target, platform.routed server current = some target ∧
  platform.work server step = afterApply platform server current target) ∨
  ∃ status : DeploymentStatus, status.isTerminal = true ∧
  (status = .succeeded → current.deploymentId ∈ server.applied) ∧
  platform.work server step = server.put { current with status }) := by
  unfold work
  dsimp only
  split
  · exact .inl rfl
  case h_2 current found =>
    split
    · exact .inl rfl
    case isFalse going =>
      have going : current.status.isTerminal = false := Bool.eq_false_iff.mpr going
      cases step with
      | apply deploymentId =>
        unfold ReleasePlatform.apply
        dsimp only
        split
        · exact .inl rfl
        case isFalse expected =>
          split
          · exact .inl rfl
          case h_2 target routed =>
            exact .inr ⟨deploymentId, current, found, going,
              .inl ⟨rfl, not_not.mp expected, target, routed, rfl⟩⟩
      | record deploymentId =>
        dsimp only
        split
        case isTrue applied =>
          exact .inr ⟨deploymentId, current, found, going,
            .inr ⟨.succeeded, rfl, fun _ => applied, rfl⟩⟩
        · exact .inl rfl
      | fail deploymentId =>
        exact .inr ⟨deploymentId, current, found, going,
          .inr ⟨.failed, rfl, (fun never => by cases never), rfl⟩⟩

structure RoutesTo (routes : List DeploymentRoute) (deployment : Deployment) : Prop where
  some : ∃ route ∈ routes, route.snapshotId = deployment.targetSnapshotId
  whole : deployment.canaryPercent = full →
    routes = [{ snapshotId := deployment.targetSnapshotId, weight := full }]

structure Sound (platform : ReleasePlatform) (server : ReleaseServer) : Prop where
  keyed : ∀ deploymentId deployment, server.deployments.get? deploymentId = some deployment →
    deployment.deploymentId = deploymentId
  owned : ∀ deploymentId deployment, server.deployments.get? deploymentId = some deployment →
    deployment.tenantId = platform.tenantId ∧ deployment.requestedBy = platform.userId
  labelled : ∀ deploymentId deployment, server.deployments.get? deploymentId = some deployment →
    deployment.action = .promote → ∃ releaseId, releaseId.length = 64 ∧ deployment.idempotencyKey =
        releaseKey releaseId deployment.environment deployment.agentName
  targeted : ∀ deploymentId deployment, server.deployments.get? deploymentId = some deployment →
    deployment.action = .promote → ∃ target,
      server.snapshots.get? deployment.targetSnapshotId = some target ∧
        target.agentName = deployment.agentName
  bounded : ∀ deploymentId deployment, server.deployments.get? deploymentId = some deployment →
    deployment.expectedEnvironmentRevision ≤
      (platform.environment server deployment.environmentKey).revision
  packaged : ∀ snapshotId snapshot, server.snapshots.get? snapshotId = some snapshot →
    snapshot.snapshotId = snapshotId ∧ ∃ manifestHash,
      platform.packages snapshot.agentName snapshot.agentVersion =
        some (manifestHash, snapshot.packageHash)
  applied : ∀ deploymentId ∈ server.applied, (server.deployments.get? deploymentId).isSome = true
  finished : ∀ deploymentId deployment, server.deployments.get? deploymentId = some deployment →
    deployment.status = .succeeded → deploymentId ∈ server.applied
  routing : ∀ key deploymentId, server.newest.get? key = some deploymentId →
    ∃ deployment, server.deployments.get? deploymentId = some deployment ∧
      RoutesTo (platform.environment server key).routes deployment

section

variable {platform : ReleasePlatform} {server : ReleaseServer}

theorem environment_afterApply (current : Deployment)
  (target : List DeploymentRoute × Option String) (key : EnvironmentKey) :
  platform.environment (afterApply platform server current target) key =
    if key = current.environmentKey then
      { platform.environment server current.environmentKey with
        revision := (platform.environment server current.environmentKey).revision + 1
        routes := target.1, healthySnapshotId := target.2 }
    else platform.environment server key := by
  by_cases same : key = current.environmentKey
  · rw [if_pos same, same, ReleasePlatform.environment, afterApply, get?_set_self]
    rfl
  rw [if_neg same, ReleasePlatform.environment, afterApply, get?_set_other _ _ same]
  rfl

variable {current : Deployment} {target : List DeploymentRoute × Option String}
  {deploymentId : String}

theorem routed_target (sound : Sound platform server)
  (routed : platform.routed server current = some target) :
  ∃ route ∈ target.1, route.snapshotId = current.targetSnapshotId := by
  unfold ReleasePlatform.routed at routed
  split at routed
  · cases routed
  case h_2 snapshot found =>
    have named := (sound.packaged _ _ found).1
    unfold routesFor at routed
    split at routed
    · split at routed
      · cases routed
      split at routed
      · cases routed
        exact ⟨_, mem_cons_self, named⟩
      cases routed
      exact ⟨_, mem_cons_of_mem _ mem_cons_self, named⟩
    cases routed
    exact ⟨_, mem_cons_self, named⟩

theorem routed_whole (sound : Sound platform server) (whole : current.canaryPercent = full)
  (routed : platform.routed server current = some target) :
  target.1 = [{ snapshotId := current.targetSnapshotId, weight := full }] := by
  unfold ReleasePlatform.routed at routed
  split at routed
  · cases routed
  case h_2 snapshot found =>
    have named := (sound.packaged _ _ found).1
    unfold routesFor at routed
    rw [dif_neg (by rw [whole]; exact Nat.lt_irrefl 100)] at routed
    cases routed
    rw [named]

theorem sound_applied (sound : Sound platform server)
  (found : server.deployments.get? deploymentId = some current)
  (routed : platform.routed server current = some target) :
  Sound platform (afterApply platform server current target) where
  keyed := sound.keyed
  owned := sound.owned
  labelled := sound.labelled
  targeted := sound.targeted
  bounded name deployment stored := by
    have before := sound.bounded name deployment stored
    rw [environment_afterApply]
    split
    case isTrue same =>
      rw [same] at before
      exact Nat.le_succ_of_le before
    · exact before
  packaged := sound.packaged
  applied name member := by
    rcases mem_cons.mp member with rfl | before
    · rw [sound.keyed _ _ found]
      exact isSome_of_mem found
    exact sound.applied name before
  finished name deployment stored succeeded :=
    mem_cons_of_mem _ (sound.finished name deployment stored succeeded)
  routing key name newest := by
    rw [environment_afterApply]
    by_cases same : key = current.environmentKey
    · rw [if_pos same]
      rw [same, afterApply, get?_set_self] at newest
      cases newest
      refine ⟨current, ?_, routed_target sound routed, fun whole => routed_whole sound whole routed⟩
      rw [sound.keyed _ _ found]
      exact found
    rw [if_neg same]
    rw [afterApply, get?_set_other _ _ same] at newest
    exact sound.routing key name newest

theorem get?_put {deployment other : Deployment}
  (stored : (server.put deployment).deployments.get? deploymentId = some other) :
  (deploymentId = deployment.deploymentId ∧ other = deployment) ∨
    (deploymentId ≠ deployment.deploymentId ∧
    server.deployments.get? deploymentId = some other) := by
  by_cases same : deploymentId = deployment.deploymentId
  · rw [same, put, get?_set_self] at stored
    exact .inl ⟨same, (some.inj stored).symm⟩
  rw [put, get?_set_other _ _ same] at stored
  exact .inr ⟨same, stored⟩

theorem forall_put {holds : String → Deployment → Prop} (own : holds current.deploymentId current)
  (others : ∀ name deployment, server.deployments.get? name = some deployment →
    holds name deployment) :
  ∀ name deployment, (server.put current).deployments.get? name = some deployment →
    holds name deployment := by
  intro name deployment stored
  rcases get?_put stored with ⟨rfl, rfl⟩ | ⟨_, before⟩
  · exact own
  exact others name deployment before

section

variable (sound : Sound platform server)

include sound

theorem sound_status (found : server.deployments.get? deploymentId = some current)
  {status : DeploymentStatus}
  (earned : status = .succeeded → current.deploymentId ∈ server.applied) :
  Sound platform (server.put { current with status }) := by
  have there : server.deployments.get? current.deploymentId = some current := by
    rw [sound.keyed _ _ found]
    exact found
  constructor
  case keyed => exact forall_put rfl sound.keyed
  case owned => exact forall_put (sound.owned _ current there) sound.owned
  case labelled => exact forall_put (sound.labelled _ current there) sound.labelled
  case targeted => exact forall_put (sound.targeted _ current there) sound.targeted
  case bounded => exact forall_put (sound.bounded _ current there) sound.bounded
  case packaged => exact sound.packaged
  case applied =>
    intro name member
    by_cases same : name = current.deploymentId
    · rw [same, put, get?_set_self]
      rfl
    rw [put, get?_set_other _ _ same]
    exact sound.applied name member
  case finished =>
    intro name deployment stored succeeded
    rcases get?_put stored with ⟨rfl, rfl⟩ | ⟨_, before⟩
    · exact earned succeeded
    exact sound.finished name deployment before succeeded
  case routing =>
    intro key name newest
    obtain ⟨deployment, stored, leads⟩ := sound.routing key name newest
    by_cases same : name = current.deploymentId
    · rw [same, there] at stored
      cases stored
      refine ⟨{ current with status }, ?_, leads.some, leads.whole⟩
      rw [same, put, get?_set_self]
    refine ⟨deployment, ?_, leads⟩
    rw [put, get?_set_other _ _ same]
    exact stored

theorem sound_started {deployment : Deployment} (startable : Startable platform server deployment)
  (promotes : deployment.action = .promote →
    (∃ releaseId, releaseId.length = 64 ∧ deployment.idempotencyKey =
    releaseKey releaseId deployment.environment deployment.agentName) ∧
    ∃ target, server.snapshots.get? deployment.targetSnapshotId = some target ∧
    target.agentName = deployment.agentName) : Sound platform (server.put deployment) := by
  have kept : ∀ name other, server.deployments.get? name = some other →
    (server.put deployment).deployments.get? name = some other := by
    intro name other stored
    have distinct : name ≠ deployment.deploymentId := by
      intro same
      rw [same, startable.free] at stored
      cases stored
    exact (get?_set_other _ _ distinct).trans stored
  constructor
  case keyed => exact forall_put rfl sound.keyed
  case owned => exact forall_put ⟨startable.tenant, startable.owner⟩ sound.owned
  case labelled => exact forall_put (fun promoted => (promotes promoted).1) sound.labelled
  case targeted => exact forall_put (fun promoted => (promotes promoted).2) sound.targeted
  case bounded => exact forall_put startable.current.le sound.bounded
  case packaged => exact sound.packaged
  case applied =>
    intro name member
    obtain ⟨other, stored⟩ := isSome_iff_exists.mp (sound.applied name member)
    rw [kept name other stored]
    rfl
  case finished =>
    intro name other stored succeeded
    rcases get?_put stored with ⟨rfl, rfl⟩ | ⟨_, before⟩
    · rw [startable.queued] at succeeded
      cases succeeded
    exact sound.finished name other before succeeded
  case routing =>
    intro key name newest
    obtain ⟨other, stored, leads⟩ := sound.routing key name newest
    exact ⟨other, kept name other stored, leads⟩

theorem sound_work (step : Work) : Sound platform (platform.work server step) := by
  rcases work_cases platform server step with same | ⟨name, current, found, _, applies | moves⟩
  · rw [same]
    exact sound
  · obtain ⟨_, _, target, routed, applied⟩ := applies
    rw [applied]
    exact sound_applied sound found routed
  obtain ⟨status, _, earned, moved⟩ := moves
  rw [moved]
  exact sound_status sound found earned

theorem sound_worked (input : ReleaseInput) : Sound platform (platform.worked server input) := by
  unfold ReleasePlatform.worked
  induction input.works generalizing server with
  | nil => exact sound
  | cons step rest ih => exact ih (sound_work sound step)

end

structure Stocks (platform : ReleasePlatform) (server later : ReleaseServer) : Prop where
  environments : later.environments = server.environments
  deployments : later.deployments = server.deployments
  applied : later.applied = server.applied
  newest : later.newest = server.newest
  snapshots : ∀ snapshotId snapshot, server.snapshots.get? snapshotId = some snapshot →
    later.snapshots.get? snapshotId = some snapshot
  packaged : ∀ snapshotId snapshot, later.snapshots.get? snapshotId = some snapshot →
    server.snapshots.get? snapshotId = some snapshot ∨
      snapshot.snapshotId = snapshotId ∧ ∃ manifestHash,
        platform.packages snapshot.agentName snapshot.agentVersion =
          some (manifestHash, snapshot.packageHash)

theorem Stocks.refl (server : ReleaseServer) : Stocks platform server server :=
  ⟨rfl, rfl, rfl, rfl, fun _ _ => id, fun _ _ found => .inl found⟩

theorem Stocks.numbered (server : ReleaseServer) :
  Stocks platform server { server with generated := server.generated + 1 } :=
  ⟨rfl, rfl, rfl, rfl, fun _ _ => id, fun _ _ found => .inl found⟩

theorem Stocks.environment {later : ReleaseServer} (stocks : Stocks platform server later)
  (key : EnvironmentKey) : platform.environment later key = platform.environment server key := by
  rw [ReleasePlatform.environment, ReleasePlatform.environment, stocks.environments]

theorem sound_stocks {later : ReleaseServer} (sound : Sound platform server)
  (stocks : Stocks platform server later) : Sound platform later where
  keyed := by rw [stocks.deployments]; exact sound.keyed
  owned := by rw [stocks.deployments]; exact sound.owned
  labelled := by rw [stocks.deployments]; exact sound.labelled
  targeted := by
    rw [stocks.deployments]
    intro name deployment stored promoted
    obtain ⟨target, found, named⟩ := sound.targeted name deployment stored promoted
    exact ⟨target, stocks.snapshots _ _ found, named⟩
  bounded := by
    rw [stocks.deployments]
    intro name deployment stored
    rw [stocks.environment]
    exact sound.bounded name deployment stored
  packaged := by
    intro name snapshot found
    rcases stocks.packaged name snapshot found with before | brought
    · exact sound.packaged name snapshot before
    exact brought
  applied := by rw [stocks.applied, stocks.deployments]; exact sound.applied
  finished := by rw [stocks.applied, stocks.deployments]; exact sound.finished
  routing := by
    rw [stocks.newest, stocks.deployments]
    intro key name newest
    rw [stocks.environment]
    exact sound.routing key name newest

structure Promotes (platform : ReleasePlatform) (server : ReleaseServer) (request : ReleaseRequest)
    (later : ReleaseServer) (deployment : Deployment) (target : ReleaseSnapshot) : Prop where
  stocks : Stocks platform server later
  startable : Startable platform later deployment
  action : deployment.action = .promote
  agent : deployment.agentName = request.agentName
  environment : deployment.environment = request.environment
  key : deployment.idempotencyKey = request.idempotencyKey
  targeted : later.snapshots.get? deployment.targetSnapshotId = some target
  targetAgent : target.agentName = request.agentName
  targetVersion : target.agentVersion = request.agentVersion

def stocked (platform : ReleasePlatform) (server : ReleaseServer) (request : ReleaseRequest)
  (packageHash : String) : ReleaseServer :=
  let snapshotId := platform.generatedId "deployment_snapshot" server.generated
  { server with
    generated := server.generated + 1
    snapshots := server.snapshots.set snapshotId
      (platform.promotedSnapshot request packageHash snapshotId) }

theorem launch_cases {request : ReleaseRequest} {key : EnvironmentKey}
  {manifestHash packageHash : String}
  (aimed : key = platform.environmentKey request.agentName request.environment)
  (missing : server.requestedUnder request.idempotencyKey = none)
  (published : platform.packages request.agentName request.agentVersion =
    some (manifestHash, packageHash)) :
  (∃ later, Stocks platform server later ∧
    platform.launch server { platform.environment server key with key } request
    packageHash = (none, later)) ∨
    ∃ later deployment target, Promotes platform server request later deployment target ∧
    platform.launch server { platform.environment server key with key } request
    packageHash = (some { deployment, target }, later.put deployment) := by
  subst aimed
  unfold ReleasePlatform.launch
  dsimp only
  split
  · exact .inl ⟨_, Stocks.numbered server, rfl⟩
  case h_2 free =>
    have stocks : Stocks platform server (stocked platform server request packageHash) := by
      refine ⟨rfl, rfl, rfl, rfl, ?_, ?_⟩
      · intro name snapshot found
        have distinct : name ≠ platform.generatedId "deployment_snapshot" server.generated := by
          intro same
          rw [same, free] at found
          cases found
        exact (get?_set_other _ _ distinct).trans found
      intro name snapshot found
      by_cases same : name = platform.generatedId "deployment_snapshot" server.generated
      · rw [same, stocked, get?_set_self] at found
        cases found
        exact .inr ⟨same.symm, manifestHash, published⟩
      rw [stocked, get?_set_other _ _ same] at found
      exact .inl found
    unfold ReleasePlatform.store
    split
    · exact .inl ⟨_, stocks, rfl⟩
    case h_2 fresh =>
      let key := platform.environmentKey request.agentName request.environment
      refine .inr ⟨stocked platform server request packageHash,
        DeploymentService.promotion { platform.environment server key with key }
          request.toPromoteRequest (platform.generatedId "deployment_snapshot" server.generated)
          (platform.generatedId "deployment" server.generated),
        platform.promotedSnapshot request packageHash
          (platform.generatedId "deployment_snapshot" server.generated), ?_, ?_⟩
      rotate_left
      · rw [ReleaseServer.view]
        dsimp only [DeploymentService.promotion, stocked]
        rw [get?_set_self]
        rfl
      exact
        { stocks
          startable :=
            { free := fresh, first := missing, queued := rfl, tenant := rfl, owner := rfl
              current := rfl, previous := rfl }
          action := rfl
          agent := rfl
          environment := rfl
          key := rfl
          targeted := get?_set_self _ _ _
          targetAgent := rfl
          targetVersion := rfl }

theorem promote_cases (refused : Bool) (request : ReleaseRequest) :
  (∃ existing, server.requestedUnder request.idempotencyKey = some existing ∧
    platform.promote refused server request =
    (ReleasePlatform.samePromote server existing request, server)) ∨
    (∃ later, Stocks platform server later ∧
    platform.promote refused server request = (none, later)) ∨
    ∃ later deployment target, Promotes platform server request later deployment target ∧
    platform.promote refused server request =
    (some { deployment, target }, later.put deployment) := by
  unfold ReleasePlatform.promote
  split
  case h_1 existing found => exact .inl ⟨existing, found, rfl⟩
  case h_2 missing =>
    apply Or.inr
    dsimp only
    split
    · exact .inl ⟨server, Stocks.refl server, rfl⟩
    split
    case h_1 => exact .inl ⟨server, Stocks.refl server, rfl⟩
    case h_2 manifestHash packageHash published =>
      split
      · exact .inl ⟨server, Stocks.refl server, rfl⟩
      exact launch_cases rfl missing published

structure RollsBack (platform : ReleasePlatform) (server : ReleaseServer) (key : EnvironmentKey)
    (request : RollbackRequest) (later : ReleaseServer) (deployment : Deployment) : Prop where
  stocks : Stocks platform server later
  startable : Startable platform later deployment
  action : deployment.action = .rollback
  aimed : deployment.environmentKey = key
  key : deployment.idempotencyKey = request.idempotencyKey
  whole : deployment.canaryPercent = full
  target : deployment.targetSnapshotId = request.snapshotId

theorem rollback_cases (agentName : String) (name : EnvironmentName) (request : RollbackRequest) :
  (∃ existing, server.requestedUnder request.idempotencyKey = some existing ∧
    platform.rollback server agentName name request =
    (ReleasePlatform.sameRollback server (platform.environmentKey agentName name) existing
    request, server)) ∨
    (∃ later, Stocks platform server later ∧
    platform.rollback server agentName name request = (none, later)) ∨
    ∃ later deployment, RollsBack platform server (platform.environmentKey agentName name)
    request later deployment ∧
    ∃ view : Option DeploymentView, (∀ answer ∈ view, answer.deployment = deployment) ∧
    platform.rollback server agentName name request = (view, later.put deployment) := by
  unfold ReleasePlatform.rollback
  dsimp only
  split
  case h_1 existing found => exact .inl ⟨existing, found, rfl⟩
  case h_2 missing =>
    apply Or.inr
    split
    · exact Or.inl ⟨server, Stocks.refl server, rfl⟩
    split
    case h_1 => exact .inl ⟨server, Stocks.refl server, rfl⟩
    · split
      case isTrue => exact .inl ⟨server, Stocks.refl server, rfl⟩
      · unfold ReleasePlatform.store
        split
        · exact .inl ⟨_, Stocks.numbered server, rfl⟩
        case h_2 fresh =>
          refine .inr ⟨_, _, ?_, _, ?_, rfl⟩
          · exact
              { stocks := Stocks.numbered server
                startable :=
                  { free := fresh, first := missing, queued := rfl, tenant := rfl, owner := rfl
                    current := rfl, previous := rfl }
                action := rfl
                aimed := rfl
                key := rfl
                whole := rfl
                target := rfl }
          intro answer viewed
          obtain ⟨target, _, same⟩ := map_eq_some_iff.mp viewed
          rw [← same]

def Labels : ReleaseOp → Prop
  | .promote request => ∃ releaseId, releaseId.length = 64 ∧
      request.idempotencyKey = releaseKey releaseId request.environment request.agentName
  | _ => True

theorem sound_answer (sound : Sound platform server) {op : ReleaseOp} (labels : Labels op)
  (input : ReleaseInput) : Sound platform (platform.answer input server op).2 := by
  cases op with
  | promote request =>
    obtain ⟨releaseId, digest, named⟩ := labels
    simp only [ReleasePlatform.answer]
    rcases @promote_cases platform server input.refused request with
      ⟨existing, _, same⟩ | ⟨later, stocks, refused⟩ | ⟨later, deployment, target, promotes, started⟩
    · rw [same]
      exact sound
    · rw [refused]
      exact sound_stocks sound stocks
    rw [started]
    apply sound_started (sound_stocks sound promotes.stocks) promotes.startable
    intro _
    refine ⟨⟨releaseId, digest, ?_⟩, target, promotes.targeted, ?_⟩
    · rw [promotes.key, promotes.environment, promotes.agent]
      exact named
    rw [promotes.targetAgent, promotes.agent]
  | rollback agentName name request =>
    simp only [ReleasePlatform.answer]
    rcases @rollback_cases platform server agentName name request with
      ⟨existing, _, same⟩ | ⟨later, stocks, refused⟩ | ⟨later, deployment, rolls, view, _, started⟩
    · rw [same]
      exact sound
    · rw [refused]
      exact sound_stocks sound stocks
    rw [started]
    apply sound_started (sound_stocks sound rolls.stocks) rolls.startable
    intro promoted
    rw [rolls.action] at promoted
    cases promoted
  | _ => exact sound

theorem sound_respond (sound : Sound platform server) {op : ReleaseOp} (labels : Labels op)
  (input : ReleaseInput) : Sound platform (platform.respond input server op).2 := by
  have worked := sound_worked sound input
  unfold respond
  split
  · exact sound_answer worked labels input
  · exact worked
  exact sound_answer worked labels input

end

end AgentHarness.Releases
