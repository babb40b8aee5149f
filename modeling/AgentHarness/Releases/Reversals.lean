import AgentHarness.Releases.Promotions

/-!
A promotion that raises after its automatic rollback leaves the routes as they were.
-/

namespace AgentHarness.Releases

open Collections Interaction ReleasePromotionClient
open Deployments Dict List Percent ReleasePlatform Option

def Timely (before server : ReleaseServer) (step : Work) : Prop :=
  match step with
  | .apply deploymentId =>
    ∀ deployment ∈ server.deployments.get? deploymentId,
      before.deployments.get? deploymentId = none ∧ deployment.previousSnapshotId ≠ none
  | _ => True

def Restorable (environment : Environment) : Prop :=
  ∀ healthy ∈ environment.healthySnapshotId,
    environment.routes = [{ snapshotId := healthy, weight := full }]

def Reversible (platform : ReleasePlatform) (before server : ReleaseServer) (op : ReleaseOp)
  (input : ReleaseInput) : Prop := (∀ step ∈ input.works, Timely before server step) ∧
    match op with
    | .promote request =>
      (platform.worked server input).requestedUnder request.idempotencyKey = none ∧
        (∀ lost ∈ input.lost, lost.1 = false) ∧
          Restorable (platform.environment (platform.worked server input)
            (platform.environmentKey request.agentName request.environment))
    | .rollback _ _ request =>
      (platform.worked server input).requestedUnder request.idempotencyKey = none
    | _ => True

instance (before server : ReleaseServer) (step : Work) : Decidable (Timely before server step) :=
  match step with
  | .apply _ => inferInstanceAs (Decidable (∀ deployment ∈ _, _ ∧ _))
  | .record _ | .fail _ => isTrue trivial

instance (environment : Environment) : Decidable (Restorable environment) :=
  inferInstanceAs (Decidable (∀ healthy ∈ _, _))

instance (platform : ReleasePlatform) (before server : ReleaseServer) (op : ReleaseOp)
  (input : ReleaseInput) : Decidable (Reversible platform before server op input) :=
  match op with
  | .promote _ => inferInstanceAs (Decidable (_ ∧ _ = none ∧ (∀ lost ∈ input.lost, _) ∧ _))
  | .rollback _ _ _ => inferInstanceAs (Decidable (_ ∧ _ = none))
  | .publish _ | .evaluationGate _ _ | .qualityGate _ _ | .environment _ _ | .snapshots _
  | .deployment _ | .clock => inferInstanceAs (Decidable (_ ∧ True))

def Kept (server : ReleaseServer) (base : Deployment) : Prop :=
  ∃ status, server.deployments.get? base.deploymentId = some { base with status }

def routesOf (platform : ReleasePlatform) (server : ReleaseServer) (key : EnvironmentKey) :
  List DeploymentRoute :=
  (platform.environment server key).routes

structure Launched (platform : ReleasePlatform) (before server : ReleaseServer)
    (pair : ReleaseRequest × Deployment) : Prop where
  kept : Kept server pair.2
  aimed : pair.2.environmentKey = platform.environmentKey pair.1.agentName pair.1.environment
  key : pair.2.idempotencyKey = pair.1.idempotencyKey
  first : pair.2.previousSnapshotId = none → routesOf platform server pair.2.environmentKey =
      routesOf platform before pair.2.environmentKey
  whole : ∀ previous ∈ pair.2.previousSnapshotId, routesOf platform before pair.2.environmentKey =
      [{ snapshotId := previous, weight := full }]

structure Reverts (platform : ReleasePlatform) (order : PromotionOrder) (server : ReleaseServer)
    (restoration : Restoration) : Prop where
  standing : Standing platform server restoration.deployment
  aimed : restoration.deployment.environmentKey =
    platform.environmentKey restoration.agentName order.environment
  key : restoration.deployment.idempotencyKey =
    rollbackKey order.manifest.releaseId order.environment restoration.agentName
  whole : restoration.deployment.canaryPercent = full
  target : restoration.deployment.targetSnapshotId = restoration.snapshotId

def Traced (before server : ReleaseServer) (ledger : Ledger) : Prop :=
  ∀ deploymentId deployment, server.deployments.get? deploymentId = some deployment →
    before.deployments.get? deploymentId = none →
      ∃ pair ∈ ledger.started, deployment.environmentKey = pair.2.environmentKey ∧
        (pair.2.previousSnapshotId = none → deployment.previousSnapshotId = none)

structure Undoes (platform : ReleasePlatform) (order : PromotionOrder) (before : ReleaseServer)
    (server : ReleaseServer) (ledger : Ledger) : Prop where
  sound : Sound platform server
  calm : ledger.rolling = false → ledger.restorations = []
  asked : ∀ pair ∈ ledger.started, ∃ bundle revision, pair.1 = order.request bundle revision
  succeeded : ∀ deploymentId ∈ ledger.succeeded, Finished server deploymentId
  launched : ∀ pair ∈ ledger.started, Launched platform before server pair
  single : ∀ pair ∈ ledger.started, ∀ other ∈ ledger.started,
    pair.2.environmentKey = other.2.environmentKey →
      pair.2.previousSnapshotId = other.2.previousSnapshotId
  traced : Traced before server ledger
  untouched : ∀ key, (∀ pair ∈ ledger.started, pair.2.environmentKey ≠ key) →
    routesOf platform server key = routesOf platform before key
  reverts : ∀ restoration ∈ ledger.restorations, Reverts platform order server restoration

section

variable {platform : ReleasePlatform} {order : PromotionOrder} {before server later : ReleaseServer}
  {ledger : Ledger}

theorem work_deployments (sound : Sound platform server) (step : Work) {name : String}
  {deployment : Deployment}
  (found : (platform.work server step).deployments.get? name = some deployment) :
  ∃ stored status, server.deployments.get? name = some stored ∧
    deployment = { stored with status } := by
  rcases work_cases platform server step with same | ⟨other, current, there, _, applies | moves⟩
  · rw [same] at found
    exact ⟨deployment, deployment.status, found, rfl⟩
  · obtain ⟨_, _, target, _, applied⟩ := applies
    rw [applied] at found
    exact ⟨deployment, deployment.status, found, rfl⟩
  obtain ⟨status, _, _, moved⟩ := moves
  rw [moved] at found
  rcases get?_put found with ⟨rfl, rfl⟩ | ⟨_, earlier⟩
  · refine ⟨current, status, ?_, rfl⟩
    rw [sound.keyed _ _ there]
    exact there
  exact ⟨deployment, deployment.status, earlier, rfl⟩

theorem timely_work (sound : Sound platform server) (step other : Work)
  (timely : Timely before server other) : Timely before (platform.work server step) other := by
  cases other with
  | apply name =>
    intro deployment found
    obtain ⟨stored, status, there, rfl⟩ := work_deployments sound step found
    exact timely stored there
  | record _ | fail _ => trivial

theorem kept_work (sound : Sound platform server) (step : Work) {base : Deployment}
  (kept : Kept server base) : Kept (platform.work server step) base := by
  obtain ⟨status, stored⟩ := kept
  rcases work_cases platform server step with same | ⟨name, current, found, _, applies | moves⟩
  · rw [same]
    exact ⟨status, stored⟩
  · obtain ⟨_, _, target, _, applied⟩ := applies
    rw [applied]
    exact ⟨status, stored⟩
  obtain ⟨now, _, _, moved⟩ := moves
  rw [moved]
  by_cases same : base.deploymentId = current.deploymentId
  · have there : server.deployments.get? base.deploymentId = some current := by
      rw [same, sound.keyed _ _ found]
      exact found
    have identical : current = { base with status := status } := some.inj (there.symm.trans stored)
    refine ⟨now, ?_⟩
    rw [same, ReleaseServer.put, get?_set_self, identical]
  exact ⟨status, (get?_set_other _ _ same).trans stored⟩

section

variable (undoes : Undoes platform order before server ledger)

include undoes

theorem routes_work (step : Work) (timely : Timely before server step) (key : EnvironmentKey) :
  routesOf platform (platform.work server step) key = routesOf platform server key ∨
    ∃ pair ∈ ledger.started, pair.2.environmentKey = key ∧ pair.2.previousSnapshotId ≠ none := by
  rcases work_cases platform server step with same | ⟨name, current, found, _, applies | moves⟩
  · rw [same]
    exact .inl rfl
  · obtain ⟨rfl, _, target, _, applied⟩ := applies
    obtain ⟨fresh, wayBack⟩ := timely current found
    obtain ⟨pair, started, aimed, previous⟩ := undoes.traced name current found fresh
    by_cases same : key = current.environmentKey
    · exact .inr ⟨pair, started, aimed.symm.trans same.symm, fun none => wayBack (previous none)⟩
    rw [applied, routesOf, environment_afterApply, if_neg same]
    exact .inl rfl
  obtain ⟨status, _, _, moved⟩ := moves
  rw [moved]
  exact .inl rfl

theorem undoes_work (step : Work) (timely : Timely before server step) :
  Undoes platform order before (platform.work server step) ledger := by
  have sound := undoes.sound
  constructor
  case sound => exact sound_work sound step
  case calm => exact undoes.calm
  case asked => exact undoes.asked
  case succeeded => exact fun name known => finished_work sound (undoes.succeeded name known) step
  case launched =>
    intro pair started
    obtain ⟨kept, aimed, key, first, whole⟩ := undoes.launched pair started
    refine ⟨kept_work sound step kept, aimed, key, ?_, whole⟩
    intro nothing
    rcases routes_work undoes step timely pair.2.environmentKey with
      same | ⟨other, begun, shared, some⟩
    · exact same.trans (first nothing)
    rw [undoes.single other begun pair started shared] at some
    exact absurd nothing some
  case single => exact undoes.single
  case traced =>
    intro name deployment found fresh
    obtain ⟨stored, status, there, rfl⟩ := work_deployments sound step found
    exact undoes.traced name stored there fresh
  case untouched =>
    intro key foreign
    rcases routes_work undoes step timely key with same | ⟨pair, started, aimed, _⟩
    · exact same.trans (undoes.untouched key foreign)
    exact absurd aimed (foreign pair started)
  case reverts =>
    intro restoration known
    obtain ⟨standing, aimed, key, whole, target⟩ := undoes.reverts restoration known
    exact ⟨standing_work sound step standing, aimed, key, whole, target⟩

theorem undoes_worked (input : ReleaseInput)
  (timely : ∀ step ∈ input.works, Timely before server step) :
  Undoes platform order before (platform.worked server input) ledger := by
  unfold ReleasePlatform.worked
  revert timely
  induction input.works generalizing server with
  | nil => exact fun _ => undoes
  | cons step rest ih =>
    intro timely
    apply ih (undoes_work undoes step (timely step mem_cons_self))
    intro other member
    exact timely_work undoes.sound step other (timely other (mem_cons_of_mem _ member))

end

theorem routesOf_stocks (stocks : Stocks platform server later) (key : EnvironmentKey) :
  routesOf platform later key = routesOf platform server key := by
  rw [routesOf, routesOf, stocks.environment]

theorem undoes_stocks (undoes : Undoes platform order before server ledger)
  (stocks : Stocks platform server later) : Undoes platform order before later ledger where
  sound := sound_stocks undoes.sound stocks
  calm := undoes.calm
  asked := undoes.asked
  succeeded name known := finished_stocks stocks (undoes.succeeded name known)
  launched pair started := by
    obtain ⟨kept, aimed, key, first, whole⟩ := undoes.launched pair started
    refine ⟨?_, aimed, key, ?_, whole⟩
    · rw [Kept, stocks.deployments]
      exact kept
    rw [routesOf_stocks stocks]
    exact first
  single := undoes.single
  traced := by
    rw [Traced, stocks.deployments]
    exact undoes.traced
  untouched key foreign := (routesOf_stocks stocks key).trans (undoes.untouched key foreign)
  reverts restoration known := by
    obtain ⟨standing, aimed, key, whole, target⟩ := undoes.reverts restoration known
    exact ⟨standing_stocks stocks standing, aimed, key, whole, target⟩

theorem kept_started {deployment base : Deployment}
  (startable : Startable platform server deployment) (kept : Kept server base) :
  Kept (server.put deployment) base := by
  obtain ⟨status, stored⟩ := kept
  have distinct : base.deploymentId ≠ deployment.deploymentId := by
    intro same
    rw [same, startable.free] at stored
    cases stored
  exact ⟨status, (get?_set_other _ _ distinct).trans stored⟩

theorem launched_started {deployment : Deployment}
  (startable : Startable platform server deployment) {pair : ReleaseRequest × Deployment}
  (launched : Launched platform before server pair) :
  Launched platform before (server.put deployment) pair :=
  ⟨kept_started startable launched.kept, launched.aimed, launched.key, launched.first,
    launched.whole⟩

theorem fresh_environment (undoes : Undoes platform order before server ledger)
  {request : ReleaseRequest} {bundle : AgentBundle} {revision : Nat}
  (asked : request = order.request bundle revision)
  (missing : server.requestedUnder request.idempotencyKey = none)
  {pair : ReleaseRequest × Deployment} (started : pair ∈ ledger.started) :
  pair.2.environmentKey ≠ platform.environmentKey request.agentName request.environment := by
  intro same
  obtain ⟨kept, aimed, key, _, _⟩ := undoes.launched pair started
  obtain ⟨other, old, asks⟩ := undoes.asked pair started
  obtain ⟨status, there⟩ := kept
  apply unrequested missing there
  rw [aimed, asks, asked] at same
  have keys : pair.2.idempotencyKey = (order.request other old).idempotencyKey := by
    rw [key, asks]
  rw [asked, ← key_of_environment same]
  exact keys

section

variable (undoes : Undoes platform order before server ledger)

include undoes

theorem undoes_promote (refused : Bool) {request : ReleaseRequest}
  (permits : Permits order ledger (.promote request))
  (missing : server.requestedUnder request.idempotencyKey = none)
  (restorable : Restorable (platform.environment server
    (platform.environmentKey request.agentName request.environment))) :
  Undoes platform order before (platform.promote refused server request).2
    (ledger.after (.promote request)
    (orRejected (platform.promote refused server request).1)) := by
  obtain ⟨calm, bundle, revision, asked⟩ := permits
  have foreign := fun pair started => @fresh_environment platform order before server ledger undoes
    request bundle revision asked missing pair started
  rcases @promote_cases platform server refused request with
    ⟨existing, found, _⟩ | ⟨later, stocks, refusal⟩ | ⟨later, deployment, target, promotes, started⟩
  · rw [missing] at found
    cases found
  · rw [refusal]
    exact undoes_stocks undoes stocks
  rw [started]
  have stocked := undoes_stocks undoes promotes.stocks
  have startable := promotes.startable
  have aimed := aimed_of_promotes promotes
  have nothing : ledger.restorations = [] := undoes.calm calm
  have home : routesOf platform server deployment.environmentKey =
    routesOf platform before deployment.environmentKey := by
    apply undoes.untouched
    intro pair held
    rw [aimed]
    exact foreign pair held
  constructor
  case sound =>
    apply sound_started stocked.sound startable
    intro _
    refine ⟨⟨order.manifest.releaseId, order.manifest.digest, ?_⟩, target, promotes.targeted,
      promotes.targetAgent.trans promotes.agent.symm⟩
    rw [promotes.key, promotes.environment, promotes.agent, asked]
    rfl
  case calm => exact undoes.calm
  case asked =>
    intro pair held
    rcases mem_cons.mp held with rfl | earlier
    · exact ⟨bundle, revision, asked⟩
    exact undoes.asked pair earlier
  case succeeded =>
    exact fun name known => finished_started startable (stocked.succeeded name known)
  case launched =>
    intro pair held
    rcases mem_cons.mp held with rfl | earlier
    · refine ⟨⟨deployment.status, get?_set_self _ _ _⟩, aimed, promotes.key, ?_, ?_⟩
      · intro _
        exact (routesOf_stocks promotes.stocks _).trans home
      intro previous healthy
      rw [← home, routesOf, aimed]
      apply restorable
      rw [← aimed, ← promotes.stocks.environment, ← startable.previous]
      exact healthy
    exact launched_started startable (stocked.launched pair earlier)
  case single =>
    intro pair held other held' shared
    rcases mem_cons.mp held with rfl | earlier
    · rcases mem_cons.mp held' with rfl | earlier'
      · rfl
      exact absurd (shared.symm.trans aimed) (foreign other earlier')
    rcases mem_cons.mp held' with rfl | earlier'
    · exact absurd (shared.trans aimed) (foreign pair earlier)
    exact undoes.single pair earlier other earlier' shared
  case traced =>
    intro name other found fresh
    rcases get?_put found with ⟨_, rfl⟩ | ⟨_, older⟩
    · exact ⟨(request, other), mem_cons_self, rfl, id⟩
    obtain ⟨pair, held, rest⟩ := stocked.traced name other older fresh
    exact ⟨pair, mem_cons_of_mem _ held, rest⟩
  case untouched =>
    intro key untouched
    exact stocked.untouched key fun pair held => untouched pair (mem_cons_of_mem _ held)
  case reverts =>
    intro restoration known
    have earlier : restoration ∈ ledger.restorations := known
    rw [nothing] at earlier
    cases earlier

theorem undoes_rollback {agentName : String} {name : EnvironmentName}
  {request : RollbackRequest} (permits : Permits order ledger (.rollback agentName name request))
  (missing : server.requestedUnder request.idempotencyKey = none) {next : Ledger}
  (rolling : next.rolling = true) (started : next.started = ledger.started)
  (succeeded : next.succeeded = ledger.succeeded)
  (restorations : ∀ restoration ∈ next.restorations, restoration ∈ ledger.restorations ∨
    ∃ view ∈ (platform.rollback server agentName name request).1,
    restoration = ⟨agentName, request.snapshotId, view.deployment⟩) :
  Undoes platform order before (platform.rollback server agentName name request).2 next := by
  obtain ⟨named, keyed, pair, held, agent, previous⟩ := permits
  have sound := @sound_answer platform server undoes.sound (.rollback agentName name request)
    trivial {}
  rcases @rollback_cases platform server agentName name request with
    ⟨existing, found, _⟩ | ⟨later, stocks, refusal⟩ | ⟨later, deployment, rolls, view, viewed, begun⟩
  · rw [missing] at found
    cases found
  · rw [refusal] at restorations ⊢
    have stocked := undoes_stocks undoes stocks
    refine ⟨stocked.sound, ?_, ?_, ?_, ?_, ?_, ?_, ?_, ?_⟩
    · intro calm
      rw [rolling] at calm
      cases calm
    · rw [started]
      exact stocked.asked
    · rw [succeeded]
      exact stocked.succeeded
    · rw [started]
      exact stocked.launched
    · rw [started]
      exact stocked.single
    · rw [Traced, started]
      exact stocked.traced
    · rw [started]
      exact stocked.untouched
    intro restoration known
    rcases restorations restoration known with earlier | ⟨view, answered, _⟩
    · exact stocked.reverts restoration earlier
    cases answered
  simp only [ReleasePlatform.answer] at sound
  rw [begun] at restorations sound ⊢
  have stocked := undoes_stocks undoes rolls.stocks
  have startable := rolls.startable
  have environment : pair.1.environment = order.environment := by
    obtain ⟨bundle, revision, asks⟩ := undoes.asked pair held
    rw [asks]
    rfl
  have aimed : deployment.environmentKey = pair.2.environmentKey := by
    rw [rolls.aimed, (undoes.launched pair held).aimed, agent, environment, named]
  refine ⟨sound, ?_, ?_, ?_, ?_, ?_, ?_, ?_, ?_⟩
  · intro calm
    rw [rolling] at calm
    cases calm
  · rw [started]
    exact stocked.asked
  · rw [succeeded]
    exact fun name known => finished_started startable (stocked.succeeded name known)
  · rw [started]
    exact fun pair held => launched_started startable (stocked.launched pair held)
  · rw [started]
    exact stocked.single
  · rw [Traced, started]
    intro name other found fresh
    rcases get?_put found with ⟨_, rfl⟩ | ⟨_, older⟩
    · refine ⟨pair, held, aimed, ?_⟩
      intro nothing
      rw [previous] at nothing
      cases nothing
    exact stocked.traced name other older fresh
  · rw [started]
    exact stocked.untouched
  intro restoration known
  rcases restorations restoration known with earlier | ⟨answer, answered, rfl⟩
  · obtain ⟨standing, aims, key, whole, target⟩ := stocked.reverts restoration earlier
    refine ⟨standing_started startable ?_ standing, aims, key, whole, target⟩
    intro same
    rw [rolls.aimed, aims] at same
    have agents : agentName = restoration.agentName := congrArg EnvironmentKey.agentName same
    obtain ⟨status, there, _⟩ := standing
    apply unrequested startable.first there
    rw [rolls.key, keyed, named, agents]
    exact key
  have same : answer.deployment = deployment := viewed answer answered
  constructor
  · rw [same]
    exact standing_new stocked.sound startable
  · rw [same, rolls.aimed, named]
  · rw [same, rolls.key, keyed, named]
  · rw [same]
    exact rolls.whole
  rw [same]
  exact rolls.target

theorem undoes_answer {op : ReleaseOp} (permits : Permits order ledger op) (input : ReleaseInput)
  (reversible : Reversible platform before server op { input with works := [] }) :
  Undoes platform order before (platform.answer input server op).2
    (ledger.after op (platform.answer input server op).1) := by
  cases op with
  | promote request =>
    exact undoes_promote undoes input.refused permits reversible.2.1 reversible.2.2.2
  | rollback agentName name request =>
    simp only [ReleasePlatform.answer]
    cases answered : orRejected
      (platform.rollback server agentName name request).1 with
    | error error =>
      exact undoes_rollback undoes permits reversible.2 rfl rfl rfl
        (fun _ earlier => .inl earlier)
    | ok view =>
      refine undoes_rollback undoes permits reversible.2 rfl rfl rfl ?_
      intro restoration known
      rcases mem_cons.mp known with rfl | earlier
      · exact .inr ⟨view, mem_of_orRejected answered, rfl⟩
      exact .inl earlier
  | publish bundle =>
    simp only [ReleasePlatform.answer]
    cases platform.packages bundle.name bundle.version with
    | none => exact undoes
    | some hashes =>
      exact ⟨undoes.sound, undoes.calm, undoes.asked, undoes.succeeded, undoes.launched,
        undoes.single, undoes.traced, undoes.untouched, undoes.reverts⟩
  | deployment deploymentId =>
    simp only [ReleasePlatform.answer]
    cases answered : orRejected
      ((server.deployments.get? deploymentId).bind server.view) with
    | error error => exact undoes
    | ok view =>
      obtain ⟨stored, found, viewed⟩ := mem_bind_iff.mp (mem_of_orRejected answered)
      obtain ⟨target, _, same⟩ := map_eq_some_iff.mp viewed
      simp only [Ledger.after]
      split
      case isFalse => exact undoes
      case isTrue succeeded =>
        refine ⟨undoes.sound, undoes.calm, undoes.asked, ?_, undoes.launched, undoes.single,
          undoes.traced, undoes.untouched, undoes.reverts⟩
        intro name known
        rcases mem_cons.mp known with rfl | before
        · rw [← same] at succeeded
          exact ⟨stored, found, succeeded⟩
        exact undoes.succeeded name before
  | _ => exact undoes

theorem undoes_error (op : ReleaseOp) (error : PromotionError) :
  Undoes platform order before server (ledger.after op (.error error)) := by
  cases op with
  | rollback agentName name request =>
    exact ⟨undoes.sound, nofun, undoes.asked, undoes.succeeded, undoes.launched, undoes.single,
      undoes.traced, undoes.untouched, undoes.reverts⟩
  | _ => exact undoes

theorem undoes_effect {op : ReleaseOp} (permits : Permits order ledger op) (input : ReleaseInput)
  (reversible : Reversible platform before server op { input with works := [] }) {struck : String}
  (lost : input.lost = some (true, struck)) (error : PromotionError) :
  Undoes platform order before (platform.answer input server op).2
    (ledger.after op (.error error)) := by
  cases op with
  | promote request =>
    have arrives := reversible.2.2.1 (true, struck) lost
    cases arrives
  | rollback agentName name request =>
    exact undoes_rollback undoes permits reversible.2 rfl rfl rfl
      (fun _ earlier => .inl earlier)
  | _ => exact undoes

end

theorem adheres_reversible : Pool.Adheres platform.releaseComponent
  (fun _ : Unit => releaseContract order)
  (fun server known => Undoes platform order before server (known ()))
  (fun server _ => Reversible platform before server) := by
  intro server known actor op input undoes reversible permits
  have worked := undoes_worked undoes input reversible.1
  have same : Reversible platform before (platform.worked server input) op
      { input with works := [] } := by
    refine ⟨fun _ => nofun, ?_⟩
    cases op with
    | promote request | rollback agentName name request => exact reversible.2
    | _ => trivial
  cases actor
  refine ⟨_, rfl, ?_⟩
  dsimp only [releaseComponent, respond]
  rw [Function.update_self]
  split
  · exact undoes_answer worked permits input same
  · exact undoes_error worked op _
  case h_3 struck lost => exact undoes_effect worked permits input same lost _

def Unmoved (platform : ReleasePlatform) (before server : ReleaseServer) : Prop :=
  ∀ deploymentId deployment, server.deployments.get? deploymentId = some deployment →
    before.deployments.get? deploymentId = none →
      routesOf platform server deployment.environmentKey =
        routesOf platform before deployment.environmentKey

theorem Undoes.unmoved (undoes : Undoes platform order before server ledger)
  {error : PromotionError} (undone : Undone ledger error)
  (complete : error ≠ .rollbackIncomplete) : Unmoved platform before server := by
  intro name deployment found fresh
  obtain ⟨pair, started, aimed, _⟩ := undoes.traced name deployment found fresh
  have launched := undoes.launched pair started
  rw [aimed]
  cases healthy : pair.2.previousSnapshotId with
  | none => exact launched.first healthy
  | some previous =>
    obtain ⟨restoration, known, agent, target, succeeded⟩ :=
      undone complete pair started previous healthy
    have reverts := undoes.reverts restoration known
    obtain ⟨stored, there, won⟩ := undoes.succeeded _ succeeded
    obtain ⟨status, _, leads⟩ := reverts.standing
    have whole := (leads (undoes.sound.finished _ _ there won)).whole reverts.whole
    have environment : pair.1.environment = order.environment := by
      obtain ⟨bundle, revision, asks⟩ := undoes.asked pair started
      rw [asks]
      rfl
    have same : restoration.deployment.environmentKey = pair.2.environmentKey := by
      rw [reverts.aimed, launched.aimed, agent, environment]
    rw [launched.whole previous healthy, routesOf, ← same, whole, reverts.target, target]

theorem undoes_initial (sound : Sound platform before) :
  Undoes platform order before before {} where
  sound
  calm _ := rfl
  asked _ := nofun
  succeeded _ := nofun
  launched _ := nofun
  single _ := nofun
  traced name deployment found fresh := by
    rw [found] at fresh
    cases fresh
  untouched _ _ := rfl
  reverts _ := nofun

theorem promote_unmoved (sound : Sound platform before) (inputs : List ReleaseInput)
  (along : (callPool before (.promote order)).Along platform.releaseComponent
    (fun server _ => Reversible platform before server)
    (inputs.map fun input => ((), input)))
  {error : PromotionError}
  (raises : (platform.perform before (.promote order) inputs).thread () = .raised error)
  (complete : error ≠ .rollbackIncomplete) :
  Unmoved platform before (platform.perform before (.promote order) inputs).state := by
  have start : (callPool before (.promote order)).Ready (fun _ => releaseContract order)
    (fun server known => Undoes platform order before server (known ()))
    (fun _ later _ => Promoted order later) (fun _ => Undone) (fun _ => {}) :=
    ⟨undoes_initial sound, fun _ => promote_known order⟩
  obtain ⟨known, undoes, threads⟩ := Pool.run_ready adheres_reversible start
    (inputs.map fun input => ((), input)) along
  have undone := threads ()
  rw [show ((callPool before (.promote order)).run platform.releaseComponent
    (inputs.map fun input => ((), input))).thread () = .raised error from raises] at undone
  exact undoes.unmoved undone complete

end

end AgentHarness.Releases
