import AgentHarness.Releases.Standing

/-!
A promotion that returns has delivered its release.
-/

namespace AgentHarness.Releases

open Collections Interaction ReleasePromotionClient
open Deployments Dict List ReleasePlatform Option

def Current (platform : ReleasePlatform) (server : ReleaseServer) (op : ReleaseOp)
  (input : ReleaseInput) : Prop :=
  match op with
  | .promote request =>
    ∀ existing ∈ (platform.worked server input).requestedUnder request.idempotencyKey,
      existing.deploymentId ∈ (platform.worked server input).applied →
        (platform.worked server input).newest.get? existing.environmentKey =
            some existing.deploymentId ∧
          Settled platform (platform.worked server input) existing.environmentKey
  | _ => True

instance (platform : ReleasePlatform) (server : ReleaseServer) (key : EnvironmentKey) :
  Decidable (Settled platform server key) :=
  inferInstanceAs (Decidable (∀ deployment ∈ server.deployments.values, _ → _ → _))

instance (platform : ReleasePlatform) (server : ReleaseServer) (op : ReleaseOp)
  (input : ReleaseInput) : Decidable (Current platform server op input) :=
  match op with
  | .promote _ => inferInstanceAs (Decidable (∀ existing ∈ _, _ → _ ∧ _))
  | .publish _ | .evaluationGate _ _ | .qualityGate _ _ | .environment _ _ | .snapshots _
  | .deployment _ | .rollback _ _ _ | .clock => isTrue trivial

structure Ordered (platform : ReleasePlatform) (server : ReleaseServer)
    (pair : ReleaseRequest × Deployment) : Prop where
  standing : Standing platform server pair.2
  aimed : pair.2.environmentKey = platform.environmentKey pair.1.agentName pair.1.environment
  key : pair.2.idempotencyKey = pair.1.idempotencyKey
  target : ∃ target, server.snapshots.get? pair.2.targetSnapshotId = some target ∧
    target.agentName = pair.1.agentName ∧ target.agentVersion = pair.1.agentVersion

structure Delivers (platform : ReleasePlatform) (order : PromotionOrder) (server : ReleaseServer)
    (ledger : Ledger) : Prop where
  sound : Sound platform server
  published : ∀ entry ∈ ledger.published,
    platform.packages entry.1.name entry.1.version = some entry.2
  asked : ∀ pair ∈ ledger.started, ∃ bundle revision, pair.1 = order.request bundle revision
  ordered : ledger.rolling = false → ∀ pair ∈ ledger.started, Ordered platform server pair
  succeeded : ∀ deploymentId ∈ ledger.succeeded, Finished server deploymentId

section

variable {platform : ReleasePlatform} {order : PromotionOrder} {server later : ReleaseServer}
  {ledger : Ledger}

theorem work_snapshots (step : Work) :
  (platform.work server step).snapshots = server.snapshots := by
  rcases work_cases platform server step with same | ⟨_, _, _, _, applies | moves⟩
  · rw [same]
  · obtain ⟨_, _, target, _, applied⟩ := applies
    rw [applied]
    rfl
  obtain ⟨status, _, _, moved⟩ := moves
  rw [moved]
  rfl

theorem worked_snapshots (input : ReleaseInput) :
  (platform.worked server input).snapshots = server.snapshots := by
  unfold ReleasePlatform.worked
  induction input.works generalizing server with
  | nil => rfl
  | cons step rest ih => exact ih.trans (work_snapshots step)

theorem requestedUnder_stored (sound : Sound platform server) {key : String}
  {existing : Deployment} (found : server.requestedUnder key = some existing) :
  server.deployments.get? existing.deploymentId = some existing ∧
    existing.idempotencyKey = key := by
  have fitting := find?_some (show List.find? _ _ = some existing from found)
  have member : existing ∈ server.deployments.values := mem_of_find?_eq_some found
  obtain ⟨name, stored⟩ := mem_values.mp member
  rw [sound.keyed name existing stored]
  exact ⟨stored, of_decide_eq_true fitting⟩

theorem unrequested {key name : String} {stored : Deployment}
  (missing : server.requestedUnder key = none)
  (found : server.deployments.get? name = some stored) : stored.idempotencyKey ≠ key := by
  intro same
  have member : stored ∈ server.deployments.values := mem_values.mpr ⟨name, found⟩
  exact find?_eq_none.mp missing stored member (decide_eq_true same)

theorem delivers_worked (delivers : Delivers platform order server ledger)
  (input : ReleaseInput) : Delivers platform order (platform.worked server input) ledger where
  sound := sound_worked delivers.sound input
  published := delivers.published
  asked := delivers.asked
  ordered calm pair started := by
    obtain ⟨standing, aimed, key, target⟩ := delivers.ordered calm pair started
    refine ⟨standing_worked delivers.sound input standing, aimed, key, ?_⟩
    rw [worked_snapshots]
    exact target
  succeeded name known := finished_worked delivers.sound input (delivers.succeeded name known)

theorem Ordered.stock {pair : ReleaseRequest × Deployment}
  (ordered : Ordered platform server pair) (stocks : Stocks platform server later) :
  Ordered platform later pair where
  standing := standing_stocks stocks ordered.standing
  aimed := ordered.aimed
  key := ordered.key
  target := by
    obtain ⟨target, found, same⟩ := ordered.target
    exact ⟨target, stocks.snapshots _ _ found, same⟩

theorem delivers_stocks (delivers : Delivers platform order server ledger)
  (stocks : Stocks platform server later) : Delivers platform order later ledger where
  sound := sound_stocks delivers.sound stocks
  published := delivers.published
  asked := delivers.asked
  ordered calm pair started := (delivers.ordered calm pair started).stock stocks
  succeeded name known := finished_stocks stocks (delivers.succeeded name known)

theorem key_of_environment {bundle bundle' : AgentBundle} {revision revision' : Nat}
  (same : platform.environmentKey (order.request bundle revision).agentName
    (order.request bundle revision).environment =
    platform.environmentKey (order.request bundle' revision').agentName
    (order.request bundle' revision').environment) :
  (order.request bundle revision).idempotencyKey =
    (order.request bundle' revision').idempotencyKey := by
  have agents : bundle.name = bundle'.name := congrArg EnvironmentKey.agentName same
  rw [PromotionOrder.request, PromotionOrder.request, agents]

theorem aimed_of_promotes {request : ReleaseRequest} {deployment : Deployment}
  {target : ReleaseSnapshot} (promotes : Promotes platform server request later deployment target) :
  deployment.environmentKey = platform.environmentKey request.agentName request.environment := by
  rw [environmentKey_of_owned promotes.startable.tenant promotes.startable.owner,
    promotes.agent, promotes.environment]

section

variable (delivers : Delivers platform order server ledger)

include delivers

theorem delivers_promote (refused : Bool) {request : ReleaseRequest}
  (permits : Permits order ledger (.promote request))
  (current : ∀ existing ∈ server.requestedUnder request.idempotencyKey,
    existing.deploymentId ∈ server.applied →
    server.newest.get? existing.environmentKey = some existing.deploymentId ∧
    Settled platform server existing.environmentKey) :
  Delivers platform order (platform.promote refused server request).2 ledger ∧
    ∀ view ∈ (platform.promote refused server request).1,
    Ordered platform (platform.promote refused server request).2
    (request, view.deployment) := by
  obtain ⟨calm, bundle, revision, asked⟩ := permits
  have sound := delivers.sound
  rcases @promote_cases platform server refused request with
    ⟨existing, found, same⟩ | ⟨later, stocks, refusal⟩ | ⟨later, deployment, target, promotes, started⟩
  · rw [same]
    refine ⟨delivers, ?_⟩
    intro view answered
    obtain ⟨stored, named⟩ := requestedUnder_stored sound found
    dsimp only [samePromote] at answered
    split at answered
    · cases answered
    case h_2 target located =>
      split at answered
      · cases answered
      case isFalse matching =>
        cases answered
        simp only [not_or, ne_eq, not_not] at matching
        obtain ⟨promoted, version, environment, _⟩ := matching
        obtain ⟨releaseId, digest, label⟩ := sound.labelled _ _ stored promoted
        obtain ⟨found', located', agent⟩ := sound.targeted _ _ stored promoted
        rw [located] at located'
        cases located'
        have names : existing.agentName = request.agentName := by
          have keys : releaseKey releaseId existing.environment existing.agentName =
            releaseKey order.manifest.releaseId order.environment bundle.name := by
            rw [← label, named, asked]
            rfl
          have both := @releaseKey_names releaseId order.manifest.releaseId existing.agentName
            bundle.name existing.environment order.environment digest order.manifest.digest keys
          rw [asked]
          exact both.2
        obtain ⟨tenant, owner⟩ := sound.owned _ _ stored
        constructor
        · refine ⟨existing.status, stored, ?_⟩
          intro applied
          obtain ⟨newest, settled⟩ := current existing found applied
          obtain ⟨led, there, routes⟩ := sound.routing _ _ newest
          rw [stored] at there
          cases there
          exact ⟨newest, settled, routes.whole⟩
        · rw [environmentKey_of_owned tenant owner, names, environment]
        · exact named
        exact ⟨target, located, agent.trans names, version⟩
  · rw [refusal]
    exact ⟨delivers_stocks delivers stocks, fun view answered => (not_mem_none view answered).elim⟩
  rw [started]
  have stocked := delivers_stocks delivers promotes.stocks
  have missing := promotes.startable.first
  have aimed := aimed_of_promotes promotes
  have soundLater : Sound platform (later.put deployment) := by
    apply sound_started stocked.sound promotes.startable
    intro _
    refine ⟨⟨order.manifest.releaseId, order.manifest.digest, ?_⟩, target, promotes.targeted,
      promotes.targetAgent.trans promotes.agent.symm⟩
    rw [promotes.key, promotes.environment, promotes.agent, asked]
    rfl
  constructor
  · refine ⟨soundLater, stocked.published, stocked.asked, ?_, ?_⟩
    · intro calm pair held
      have ordered := stocked.ordered calm pair held
      have distinct : deployment.environmentKey ≠ pair.2.environmentKey := by
        intro same
        obtain ⟨other, old, asks⟩ := stocked.asked pair held
        rw [aimed, ordered.aimed, asked, asks] at same
        obtain ⟨status, there, _⟩ := ordered.standing
        apply unrequested missing there
        rw [promotes.key, asked, key_of_environment same, ← asks]
        exact ordered.key
      exact ⟨standing_started promotes.startable distinct ordered.standing, ordered.aimed,
        ordered.key, ordered.target⟩
    exact fun name known => finished_started promotes.startable (stocked.succeeded name known)
  intro view answered
  cases answered
  exact ⟨standing_new stocked.sound promotes.startable, aimed, promotes.key, target,
    promotes.targeted, promotes.targetAgent, promotes.targetVersion⟩

theorem delivers_rollback (agentName : String) (name : EnvironmentName) (request : RollbackRequest)
  {next : Ledger} (rolling : next.rolling = true) (started : next.started = ledger.started)
  (published : next.published = ledger.published) (succeeded : next.succeeded = ledger.succeeded) :
  Delivers platform order (platform.rollback server agentName name request).2 next := by
  have finished : ∀ deploymentId ∈ ledger.succeeded,
    Finished (platform.rollback server agentName name request).2 deploymentId := by
    intro deploymentId known
    have before := delivers.succeeded deploymentId known
    rcases @rollback_cases platform server agentName name request with
      ⟨_, _, same⟩ | ⟨_, stocks, refused⟩ | ⟨_, _, rolls, _, _, begun⟩
    · rw [same]
      exact before
    · rw [refused]
      exact finished_stocks stocks before
    rw [begun]
    exact finished_started rolls.startable (finished_stocks rolls.stocks before)
  refine ⟨@sound_answer platform server delivers.sound (.rollback agentName name request) trivial {},
    ?_, ?_, ?_, ?_⟩
  · rw [published]
    exact delivers.published
  · rw [started]
    exact delivers.asked
  · intro calm
    rw [rolling] at calm
    cases calm
  rw [succeeded]
  exact finished

theorem delivers_error (op : ReleaseOp) (error : PromotionError) :
  Delivers platform order server (ledger.after op (.error error)) := by
  cases op with
  | rollback agentName name request =>
    exact ⟨delivers.sound, delivers.published, delivers.asked, nofun, delivers.succeeded⟩
  | _ => exact delivers

theorem delivers_effect {op : ReleaseOp} (permits : Permits order ledger op) (input : ReleaseInput)
  (current : Current platform server op { input with works := [] }) (error : PromotionError) :
  Delivers platform order (platform.answer input server op).2
    (ledger.after op (.error error)) := by
  cases op with
  | promote request => exact (delivers_promote delivers input.refused permits current).1
  | rollback agentName name request =>
    exact delivers_rollback delivers agentName name request rfl rfl rfl rfl
  | _ => exact delivers

end

theorem mem_of_orRejected {α : Type} {answer : Option α} {value : α}
  (answered : orRejected answer = .ok value) : value ∈ answer := by
  cases answer with
  | none => cases answered
  | some other =>
    cases answered
    exact mem_some_self value

theorem delivers_answer (delivers : Delivers platform order server ledger)
  {op : ReleaseOp} (permits : Permits order ledger op) (input : ReleaseInput)
  (current : Current platform server op { input with works := [] }) :
  Delivers platform order (platform.answer input server op).2
    (ledger.after op (platform.answer input server op).1) := by
  cases op with
  | publish bundle =>
    simp only [ReleasePlatform.answer]
    cases published : platform.packages bundle.name bundle.version with
    | none => exact delivers
    | some hashes =>
      refine ⟨delivers.sound, ?_, delivers.asked, delivers.ordered, delivers.succeeded⟩
      intro entry known
      rcases mem_cons.mp known with rfl | before
      · exact published
      exact delivers.published entry before
  | promote request =>
    obtain ⟨kept, ordered⟩ := delivers_promote delivers input.refused permits current
    simp only [ReleasePlatform.answer]
    cases answered : orRejected
      (platform.promote input.refused server request).1 with
    | error error => exact kept
    | ok view =>
      have order' := ordered view (mem_of_orRejected answered)
      refine ⟨kept.sound, kept.published, ?_, ?_, kept.succeeded⟩
      · intro pair held
        rcases mem_cons.mp held with rfl | before
        · exact permits.2
        exact kept.asked pair before
      intro calm pair held
      rcases mem_cons.mp held with rfl | before
      · exact order'
      exact kept.ordered calm pair before
  | rollback agentName name request =>
    simp only [ReleasePlatform.answer]
    cases orRejected (platform.rollback server agentName name request).1 with
    | error error | ok view =>
      exact delivers_rollback delivers agentName name request rfl rfl rfl rfl
  | deployment deploymentId =>
    simp only [ReleasePlatform.answer]
    cases answered : orRejected
      ((server.deployments.get? deploymentId).bind server.view) with
    | error error => exact delivers
    | ok view =>
      obtain ⟨stored, found, viewed⟩ := mem_bind_iff.mp (mem_of_orRejected answered)
      obtain ⟨target, _, same⟩ := map_eq_some_iff.mp viewed
      simp only [Ledger.after]
      split
      case isFalse => exact delivers
      case isTrue succeeded =>
        refine ⟨delivers.sound, delivers.published, delivers.asked, delivers.ordered, ?_⟩
        intro name known
        rcases mem_cons.mp known with rfl | before
        · rw [← same] at succeeded
          exact ⟨stored, found, succeeded⟩
        exact delivers.succeeded name before
  | _ => exact delivers

theorem adheres_current : Pool.Adheres platform.releaseComponent
  (fun _ : Unit => releaseContract order)
  (fun server known => Delivers platform order server (known ()))
  (fun server _ => Current platform server) := by
  intro server known actor op input delivers current permits
  have worked := delivers_worked delivers input
  have same : Current platform (platform.worked server input) op { input with works := [] } := by
    cases op with
    | promote request => exact current
    | _ => trivial
  cases actor
  refine ⟨_, rfl, ?_⟩
  dsimp only [releaseComponent, respond]
  rw [Function.update_self]
  split
  · exact delivers_answer worked permits input same
  · exact delivers_error worked op _
  exact delivers_effect worked permits input same _

def Delivered (platform : ReleasePlatform) (server : ReleaseServer) (environment : EnvironmentName)
  (bundle : AgentBundle) : Prop :=
  ∃ deployment target, server.newest.get? (platform.environmentKey bundle.name environment) =
        some deployment.deploymentId ∧
      server.deployments.get? deployment.deploymentId = some deployment ∧
      deployment.status = .succeeded ∧
      server.snapshots.get? deployment.targetSnapshotId = some target ∧
      (∃ route ∈ (platform.environment server
          (platform.environmentKey bundle.name environment)).routes,
        route.snapshotId = deployment.targetSnapshotId) ∧
      target.agentName = bundle.name ∧ target.agentVersion = bundle.version ∧
      target.packageHash = bundle.packageHash

theorem Delivers.delivered (delivers : Delivers platform order server ledger)
  (promoted : Promoted order ledger) {bundle : AgentBundle}
  (member : bundle ∈ order.manifest.agentBundles) :
  Delivered platform server order.environment bundle := by
  obtain ⟨calm, every⟩ := promoted
  obtain ⟨known, revision, deployment, started, succeeded⟩ := every bundle member
  have sound := delivers.sound
  have ordered := delivers.ordered calm _ started
  obtain ⟨stored, there, won⟩ := delivers.succeeded _ succeeded
  obtain ⟨status, kept, leads⟩ := ordered.standing
  rw [there] at kept
  have same : stored = { deployment with status := status } := some.inj kept
  obtain ⟨newest, _, _⟩ := leads (sound.finished _ _ there won)
  have aimed : deployment.environmentKey =
    platform.environmentKey bundle.name order.environment := ordered.aimed
  obtain ⟨target, found, agent, version⟩ := ordered.target
  obtain ⟨led, located, routes⟩ := sound.routing _ _ newest
  rw [there] at located
  cases located
  obtain ⟨_, manifestHash, packaged⟩ := sound.packaged _ _ found
  have hashes := delivers.published _ known
  rw [agent, version] at packaged
  have pair := some.inj (packaged.symm.trans hashes)
  refine ⟨stored, target, ?_, ?_, won, ?_, ?_, agent, version, congrArg Prod.snd pair⟩
  · rw [same, ← aimed]
    exact newest
  · rw [same] at there ⊢
    exact there
  · rw [same]
    exact found
  rw [← aimed]
  exact routes.some

theorem delivers_initial (sound : Sound platform server) : Delivers platform order server {} :=
  ⟨sound, fun _ => nofun, fun _ => nofun, fun _ _ => nofun, fun _ => nofun⟩

theorem promote_delivers (sound : Sound platform server) (inputs : List ReleaseInput)
  (along : (callPool server (.promote order)).Along platform.releaseComponent
    (fun server _ => Current platform server) (inputs.map fun input => ((), input)))
  {plan : PromotionPlan}
  (returned : (platform.perform server (.promote order) inputs).thread () = .done plan) :
  ∀ bundle ∈ order.manifest.agentBundles,
    Delivered platform (platform.perform server (.promote order) inputs).state
    order.environment bundle := by
  have start : (callPool server (.promote order)).Ready (fun _ => releaseContract order)
    (fun server known => Delivers platform order server (known ()))
    (fun _ later _ => Promoted order later) (fun _ => Undone) (fun _ => {}) :=
    ⟨delivers_initial sound, fun _ => promote_known order⟩
  obtain ⟨known, delivers, threads⟩ := Pool.run_ready adheres_current start
    (inputs.map fun input => ((), input)) along
  have promoted := threads ()
  rw [show ((callPool server (.promote order)).run platform.releaseComponent
    (inputs.map fun input => ((), input))).thread () = .done plan from returned] at promoted
  exact fun bundle member => delivers.delivered promoted member

end

end AgentHarness.Releases
