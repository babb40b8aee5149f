import AgentHarness.Releases.Records

/-!
A deployment that was applied stays the last one of its environment, until another is asked for.
-/

namespace AgentHarness.Releases

open Collections Interaction Program ReleasePromotionClient
open Deployments Dict ReleasePlatform Option

section

variable {platform : ReleasePlatform} {server later : ReleaseServer} {base : Deployment}

structure Leads (platform : ReleasePlatform) (server : ReleaseServer) (base : Deployment) :
    Prop where
  newest : server.newest.get? base.environmentKey = some base.deploymentId
  settled : Settled platform server base.environmentKey
  whole : base.canaryPercent = Percent.full →
    (platform.environment server base.environmentKey).routes =
      [{ snapshotId := base.targetSnapshotId, weight := Percent.full }]

def Standing (platform : ReleasePlatform) (server : ReleaseServer) (base : Deployment) : Prop :=
  ∃ status, server.deployments.get? base.deploymentId = some { base with status } ∧
    (base.deploymentId ∈ server.applied → Leads platform server base)

def Finished (server : ReleaseServer) (deploymentId : String) : Prop :=
  ∃ stored, server.deployments.get? deploymentId = some stored ∧ stored.status = .succeeded

variable {current : Deployment} {name : String}

theorem standing_applied (sound : Sound platform server)
  {target : List DeploymentRoute × Option String}
  (found : server.deployments.get? name = some current) (going : current.status.isTerminal = false)
  (expected : (platform.environment server current.environmentKey).revision =
    current.expectedEnvironmentRevision) (routed : platform.routed server current = some target)
  (standing : Standing platform server base) :
  Standing platform (afterApply platform server current target) base := by
  obtain ⟨status, stored, leads⟩ := standing
  refine ⟨status, stored, ?_⟩
  intro applied
  have named : current.deploymentId = name := sound.keyed _ _ found
  by_cases same : base.deploymentId = current.deploymentId
  · have there : server.deployments.get? base.deploymentId = some current := by
      rw [same, named]
      exact found
    have identical : current = { base with status := status } := some.inj (there.symm.trans stored)
    have key : base.environmentKey = current.environmentKey := by rw [identical]; rfl
    constructor
    · rw [key, same, afterApply, get?_set_self]
    · intro other member aimed _
      obtain ⟨otherId, kept⟩ := mem_values.mp member
      have bounded := sound.bounded otherId other kept
      rw [environment_afterApply, if_pos key, ← key, ← aimed]
      exact Nat.lt_succ_of_le bounded
    intro whole
    have full : current.canaryPercent = Percent.full := by rw [identical]; exact whole
    rw [environment_afterApply, if_pos key]
    rw [routed_whole sound full routed, identical]
  have before : base.deploymentId ∈ server.applied := by
    rcases List.mem_cons.mp applied with here | earlier
    · exact absurd here same
    exact earlier
  obtain ⟨newest, settled, whole⟩ := leads before
  have distinct : base.environmentKey ≠ current.environmentKey := by
    intro shared
    have older := settled current (mem_values.mpr ⟨name, found⟩) shared.symm going
    rw [shared, expected] at older
    exact Nat.lt_irrefl _ older
  constructor
  · rw [afterApply, get?_set_other _ _ distinct]
    exact newest
  · intro other member aimed left
    rw [environment_afterApply, if_neg distinct]
    exact settled other member aimed left
  intro full
  rw [environment_afterApply, if_neg distinct]
  exact whole full

theorem standing_status (sound : Sound platform server)
  (found : server.deployments.get? name = some current) {status : DeploymentStatus}
  (ended : status.isTerminal = true) (standing : Standing platform server base) :
  Standing platform (server.put { current with status }) base := by
  obtain ⟨before, stored, leads⟩ := standing
  have named : current.deploymentId = name := sound.keyed _ _ found
  have kept : ∃ now, (server.put { current with status := status }).deployments.get?
      base.deploymentId = some { base with status := now } := by
    by_cases same : base.deploymentId = current.deploymentId
    · have there : server.deployments.get? base.deploymentId = some current := by
        rw [same, named]
        exact found
      have identical : current = { base with status := before } :=
        some.inj (there.symm.trans stored)
      refine ⟨status, ?_⟩
      rw [same, ReleaseServer.put, get?_set_self, identical]
    exact ⟨before, (get?_set_other _ _ same).trans stored⟩
  obtain ⟨now, there⟩ := kept
  refine ⟨now, there, ?_⟩
  intro applied
  obtain ⟨newest, settled, whole⟩ := leads applied
  refine ⟨newest, ?_, whole⟩
  intro other member aimed going
  obtain ⟨otherId, held⟩ := mem_values.mp member
  rcases get?_put held with ⟨_, rfl⟩ | ⟨_, earlier⟩
  · rw [ended] at going
    cases going
  exact settled other (mem_values.mpr ⟨otherId, earlier⟩) aimed going

theorem standing_stocks (stocks : Stocks platform server later)
  (standing : Standing platform server base) : Standing platform later base := by
  obtain ⟨status, stored, leads⟩ := standing
  refine ⟨status, by rw [stocks.deployments]; exact stored, ?_⟩
  rw [stocks.applied]
  intro applied
  obtain ⟨newest, settled, whole⟩ := leads applied
  constructor
  · rw [stocks.newest]
    exact newest
  · unfold Settled
    rw [stocks.deployments, stocks.environment]
    exact settled
  rw [stocks.environment]
  exact whole

variable {deployment : Deployment} {deploymentId : String}

theorem standing_started (startable : Startable platform server deployment)
  (distinct : deployment.environmentKey ≠ base.environmentKey)
  (standing : Standing platform server base) :
  Standing platform (server.put deployment) base := by
  obtain ⟨status, stored, leads⟩ := standing
  have other : base.deploymentId ≠ deployment.deploymentId := by
    intro same
    rw [same, startable.free] at stored
    cases stored
  refine ⟨status, (get?_set_other _ _ other).trans stored, ?_⟩
  intro applied
  obtain ⟨newest, settled, whole⟩ := leads applied
  refine ⟨newest, ?_, whole⟩
  intro waiting member aimed going
  obtain ⟨name, held⟩ := mem_values.mp member
  rcases get?_put held with ⟨_, rfl⟩ | ⟨_, earlier⟩
  · exact absurd aimed distinct
  exact settled waiting (mem_values.mpr ⟨name, earlier⟩) aimed going

section

variable (sound : Sound platform server)

include sound

theorem standing_new (startable : Startable platform server base) :
  Standing platform (server.put base) base := by
  refine ⟨base.status, get?_set_self _ _ _, ?_⟩
  intro applied
  have there := sound.applied _ applied
  rw [startable.free] at there
  cases there

theorem standing_work (step : Work) (standing : Standing platform server base) :
  Standing platform (platform.work server step) base := by
  rcases work_cases platform server step with same | ⟨name, current, found, going, applies | moves⟩
  · rw [same]
    exact standing
  · obtain ⟨_, expected, target, routed, applied⟩ := applies
    rw [applied]
    exact standing_applied sound found going expected routed standing
  obtain ⟨status, ended, _, moved⟩ := moves
  rw [moved]
  exact standing_status sound found ended standing

theorem standing_worked (input : ReleaseInput) (standing : Standing platform server base) :
  Standing platform (platform.worked server input) base := by
  unfold worked
  induction input.works generalizing server with
  | nil => exact standing
  | cons step rest ih => exact ih (sound_work sound step) (standing_work sound step standing)

theorem finished_work (finished : Finished server deploymentId) (step : Work) :
  Finished (platform.work server step) deploymentId := by
  obtain ⟨stored, there, succeeded⟩ := finished
  rcases work_cases platform server step with same | ⟨name, current, found, going, applies | moves⟩
  · rw [same]
    exact ⟨stored, there, succeeded⟩
  · obtain ⟨_, _, target, _, applied⟩ := applies
    rw [applied]
    exact ⟨stored, there, succeeded⟩
  obtain ⟨status, _, _, moved⟩ := moves
  rw [moved]
  have distinct : deploymentId ≠ current.deploymentId := by
    rintro rfl
    rw [sound.keyed _ _ found, found] at there
    cases there
    rw [succeeded] at going
    cases going
  exact ⟨stored, (get?_set_other _ _ distinct).trans there, succeeded⟩

theorem finished_worked (input : ReleaseInput) (finished : Finished server deploymentId) :
  Finished (platform.worked server input) deploymentId := by
  unfold worked
  induction input.works generalizing server with
  | nil => exact finished
  | cons step rest ih => exact ih (sound_work sound step) (finished_work sound finished step)

end

theorem finished_started (startable : Startable platform server deployment)
  (finished : Finished server deploymentId) : Finished (server.put deployment) deploymentId := by
  obtain ⟨stored, there, succeeded⟩ := finished
  have distinct : deploymentId ≠ deployment.deploymentId := by
    rintro rfl
    rw [startable.free] at there
    cases there
  exact ⟨stored, (get?_set_other _ _ distinct).trans there, succeeded⟩

theorem finished_stocks (stocks : Stocks platform server later)
  (finished : Finished server deploymentId) : Finished later deploymentId := by
  obtain ⟨stored, there, succeeded⟩ := finished
  exact ⟨stored, by rw [stocks.deployments]; exact there, succeeded⟩

theorem environmentKey_of_owned (tenant : deployment.tenantId = platform.tenantId)
  (owner : deployment.requestedBy = platform.userId) :
  deployment.environmentKey =
    platform.environmentKey deployment.agentName deployment.environment := by
  rw [Deployment.environmentKey, tenant, owner]
  rfl

end

section

variable {platform : ReleasePlatform}

def labelContract : Contract ReleaseOp ReleaseOp.Answer PromotionError Unit where
  allowed _ := Labels
  learns _ _ _ _ := True

def Labelled {α : Type} (program : ReleaseProgram α) : Prop :=
  program.wp labelContract (fun _ _ => True) (fun _ _ => True) ()

theorem labelled_bind {α β : Type} {first : ReleaseProgram α} {next : α → ReleaseProgram β}
  (head : Labelled first) (tail : ∀ value, Labelled (next value)) : Labelled (first.bind next) := by
  unfold Labelled
  rw [wp_bind]
  exact wp_mono head (fun _ value _ => tail value) fun _ _ _ => trivial

variable {op : ReleaseOp}

theorem labelled_ask (labels : Labels op) : Labelled (ask op) := by
  unfold Labelled
  rw [wp_perform]
  exact ⟨labels, fun _ _ _ => trivial, fun _ _ _ => trivial⟩

theorem labelled_refuse {refused : Prop} [Decidable refused] (message : String) :
  Labelled (refuse refused message) := by
  unfold refuse
  split
  · trivial
  trivial

theorem labelled_wait (deploymentId : String) (polls : Nat) :
  Labelled (wait deploymentId polls) := by
  induction polls with
  | zero => trivial
  | succ polls ih =>
    rw [wait, bind_eq]
    apply labelled_bind (labelled_ask (by trivial))
    intro inTime
    split
    · rw [bind_eq]
      apply labelled_bind (labelled_ask (by trivial))
      intro view
      split
      · trivial
      split
      · trivial
      exact ih
    trivial

theorem labelled_restoreEntries (polls : Nat) (releaseId : String)
  (entries : List PromotionEntry) : Labelled (restoreEntries polls releaseId entries) := by
  induction entries with
  | nil => trivial
  | cons entry rest ih =>
    rw [restoreEntries]
    split
    · exact ih
    rw [bind_eq]
    apply labelled_bind
    · unfold restore
      apply labelled_bind (labelled_ask (by trivial))
      intro current
      apply labelled_bind (labelled_ask (by trivial))
      intro view
      apply labelled_bind (labelled_wait _ _)
      intro completed
      exact labelled_bind (labelled_refuse _) fun _ => trivial
    intro restored
    exact labelled_bind ih fun _ => trivial

theorem labels_request {order : PromotionOrder} {ledger : Ledger}
  (permits : Permits order ledger op) : Labels op := by
  cases op with
  | promote request =>
    obtain ⟨_, bundle, revision, rfl⟩ := permits
    exact ⟨order.manifest.releaseId, order.manifest.digest, rfl⟩
  | _ => trivial

def Forgets (_ : Ledger) (_ : Unit) : Prop := True

theorem call_labelled (call : ReleaseCall) : Labelled call.program := by
  cases call with
  | promote order =>
    have start : Forgets {} () := trivial
    apply wp_weaken (promote_known order) start
    · intro ledger _ op _ permits
      exact ⟨labels_request permits, fun answer _ _ => ⟨ledger.after op answer, rfl, trivial⟩⟩
    · exact fun _ _ _ _ _ => trivial
    exact fun _ _ _ _ _ => trivial
  | rollback polls plan => exact labelled_bind (labelled_restoreEntries _ _ _) fun _ => trivial

theorem adheres_labelled : Pool.Adheres platform.releaseComponent (fun _ : Unit => labelContract)
  (fun server _ => Sound platform server) (fun _ _ _ _ => True) :=
  fun _ _ _ _ input sound _ labels => ⟨(), trivial, sound_respond sound labels input⟩

theorem sound_initial : Sound platform {} where
  keyed := fun _ _ => nofun
  owned := fun _ _ => nofun
  labelled := fun _ _ => nofun
  targeted := fun _ _ => nofun
  bounded := fun _ _ => nofun
  packaged := fun _ _ => nofun
  applied := fun _ => nofun
  finished := fun _ _ => nofun
  routing := fun _ _ => nofun

theorem sound_perform {server : ReleaseServer} (sound : Sound platform server) (call : ReleaseCall)
  (inputs : List ReleaseInput) : Sound platform (platform.perform server call inputs).state := by
  have start : (callPool server call).Ready (fun _ => labelContract)
    (fun server _ => Sound platform server) (fun _ _ _ => True) (fun _ _ _ => True)
    (fun _ => ()) :=
    ⟨sound, fun _ => call_labelled call⟩
  obtain ⟨_, ready⟩ := Pool.run_ready adheres_labelled start
    (inputs.map fun input => ((), input)) (Pool.along_of_forall (fun _ _ _ _ => trivial) _ _)
  exact ready.1

theorem sound_afterCalls (history : List (ReleaseCall × List ReleaseInput)) :
  Sound platform (platform.afterCalls history) := by
  have chained : ∀ server, Sound platform server → Sound platform (history.foldl
    (fun server past => (platform.perform server past.1 past.2).state) server) := by
    induction history with
    | nil => exact fun _ => id
    | cons past rest ih => exact fun server sound => ih _ (sound_perform sound past.1 past.2)
  exact chained {} sound_initial

end

end AgentHarness.Releases
