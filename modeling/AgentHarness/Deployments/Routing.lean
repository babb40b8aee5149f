import AgentHarness.Deployments.Records

/-!
What an environment routes to.
-/

namespace AgentHarness.Deployments

open Collections Interaction Dict List DeploymentController DeploymentPlatform

variable (platform : DeploymentPlatform)

def RoutesWell (store : DeploymentStore) (environment : Environment) (snapshotId : String) : Prop :=
  ∃ snapshot, store.snapshots.get? (environment.key.tenantId, snapshotId) = some snapshot ∧
    Meets platform snapshot environment.resourcePolicy

structure Compliant (platform : DeploymentPlatform) (store : DeploymentStore)
    (environment : Environment) : Prop where
  routes : ∀ route ∈ environment.routes, RoutesWell platform store environment route.snapshotId
  healthy : ∀ snapshotId ∈ environment.healthySnapshotId,
    ∃ route ∈ environment.routes, route.snapshotId = snapshotId

structure Target (store : DeploymentStore) (deployment : Deployment)
    (snapshot : DeploymentSnapshot) : Prop where
  stored : store.snapshots.get? (deployment.tenantId, deployment.targetSnapshotId) = some snapshot
  agent : snapshot.agentName = deployment.agentName
  environment : snapshot.environment = deployment.environment
  verified : deployment.action = .rollback →
    snapshot.evalGatePassed = true ∧ deployment.canaryPercent = Percent.full

def Justified (store : DeploymentStore) (deployment : Deployment) : Prop :=
  ∃ snapshot, Target store deployment snapshot ∧
    ∃ environment, store.environments.get? deployment.environmentKey = some environment ∧
      deployment.expectedEnvironmentRevision ≤ environment.revision ∧
        (deployment.expectedEnvironmentRevision = environment.revision →
          Meets platform snapshot environment.resourcePolicy)

structure Sound (platform : DeploymentPlatform) (store : DeploymentStore) : Prop where
  compliant : ∀ key environment, store.environments.get? key = some environment →
    Compliant platform store environment
  justified : ∀ task deployment, store.deployments.get? task = some deployment →
    Justified platform store deployment

def RollbackFits (store : DeploymentStore) (_actor : Nat) (op : DeploymentOp)
  (_input : DeploymentInput) : Prop :=
  match op with
  | .addDeployment deployment =>
    deployment.action = .rollback → ∀ environment snapshot,
        store.environments.get? deployment.environmentKey = some environment →
        deployment.expectedEnvironmentRevision = environment.revision →
        store.snapshots.get? (deployment.tenantId, deployment.targetSnapshotId) = some snapshot →
          Meets platform snapshot environment.resourcePolicy
  | _ => True

section

variable {platform : DeploymentPlatform} {store later : DeploymentStore}

theorem RoutesWell.grow (keyed : Keyed store) (grows : Grows store later)
  {environment : Environment} {snapshotId : String}
  (well : RoutesWell platform store environment snapshotId) :
  RoutesWell platform later environment snapshotId := by
  obtain ⟨snapshot, found, meets⟩ := well
  exact ⟨snapshot, grows.snapshot_of_key keyed found, meets⟩

theorem Compliant.grow (keyed : Keyed store) (grows : Grows store later)
  {environment : Environment} (compliant : Compliant platform store environment) :
  Compliant platform later environment :=
  ⟨fun route member => (compliant.routes route member).grow keyed grows, compliant.healthy⟩

variable {snapshot : DeploymentSnapshot} {updated current : Environment}

theorem Target.grow (keyed : Keyed store) (grows : Grows store later)
  {deployment : Deployment} (target : Target store deployment snapshot) : Target later deployment snapshot :=
  ⟨grows.snapshot_of_key keyed target.stored, target.agent, target.environment, target.verified⟩

theorem Justified.grow (keyed : Keyed store) (grows : Grows store later)
  {deployment : Deployment} (justified : Justified platform store deployment) :
  Justified platform later deployment := by
  obtain ⟨snapshot, target, environment, found, reached, meets⟩ := justified
  have named := keyed.environments _ environment found
  have seen : SeenEnvironment store environment :=
    ⟨environment, by rw [named]; exact found, Nat.le_refl _, fun _ => rfl⟩
  obtain ⟨stored, present, older, same⟩ := grows.environments environment seen
  refine ⟨snapshot, target.grow keyed grows, stored, by rw [← named]; exact present,
    Nat.le_trans reached older, fun expected => ?_⟩
  have unchanged := same (Nat.le_antisymm older (expected ▸ reached))
  rw [unchanged] at expected ⊢
  exact meets expected

theorem Sound.environment (sound : Sound platform store) (keyed : Keyed store)
  {applied : List (DeploymentTask × Nat)} (grows : Grows store { store with
    environments := store.environments.set updated.key updated, applied })
  (compliant : Compliant platform store updated) :
  Sound platform { store with
    environments := store.environments.set updated.key updated, applied } := by
  constructor
  · exact forall_set (compliant.grow keyed grows)
      (fun key environment found => (sound.compliant key environment found).grow keyed grows)
  intro task deployment found
  exact (sound.justified task deployment found).grow keyed grows

theorem Sound.deployment (sound : Sound platform store) (keyed : Keyed store) {updated : Deployment}
  (grows : Grows store { store with
    deployments := store.deployments.set updated.task updated })
  (justified : Justified platform store updated) :
  Sound platform { store with
    deployments := store.deployments.set updated.task updated } := by
  constructor
  · intro key environment found
    exact (sound.compliant key environment found).grow keyed grows
  exact forall_set (justified.grow keyed grows)
    (fun task deployment found => (sound.justified task deployment found).grow keyed grows)

theorem routesFor_routes {deployment : Deployment} {healthy : Option String}
  {target : List DeploymentRoute × Option String}
  (routed : routesFor deployment snapshot healthy = some target) :
  (∀ route ∈ target.1, route.snapshotId = snapshot.snapshotId ∨ healthy = some route.snapshotId) ∧
    ∀ snapshotId ∈ target.2, ∃ route ∈ target.1, route.snapshotId = snapshotId := by
  unfold routesFor at routed
  split at routed
  · split at routed
    · cases routed
    rename_i healthyId
    split at routed
    · rename_i same
      cases routed
      refine ⟨fun route member => .inl ?_, ?_⟩
      · rw [mem_singleton.mp member]
      rintro snapshotId ⟨⟩
      exact ⟨_, mem_singleton_self _, same.symm⟩
    cases routed
    refine ⟨fun route member => ?_, ?_⟩
    · rcases mem_cons.mp member with rfl | last
      · exact .inr rfl
      rw [mem_singleton.mp last]
      exact .inl rfl
    rintro snapshotId ⟨⟩
    exact ⟨_, mem_cons_self, rfl⟩
  cases routed
  refine ⟨fun route member => .inl ?_, ?_⟩
  · rw [mem_singleton.mp member]
  rintro snapshotId ⟨⟩
  exact ⟨_, mem_singleton_self _, rfl⟩

variable {known : Known} {expectedRevision : Nat}

theorem compliant_of_replaced (remembers : Remembers store known)
  (replaces : ReplacesPolicy platform known expectedRevision updated current)
  (compliant : Compliant platform store current) : Compliant platform store updated := by
  have key : updated.key = current.key := by rw [replaces.written]
  have routes : updated.routes = current.routes := by rw [replaces.written]
  have healthy : updated.healthySnapshotId = current.healthySnapshotId := by rw [replaces.written]
  constructor
  · intro route member
    rw [routes] at member
    obtain ⟨snapshot, present, tenant, named, meets⟩ := replaces.validated route member
    have stored := remembers.snapshots snapshot present
    refine ⟨snapshot, ?_, meets⟩
    rw [key, ← tenant, ← named]
    exact stored
  rw [healthy, routes]
  exact compliant.healthy

theorem compliant_of_applied (remembers : Remembers store known) {task : DeploymentTask}
  {deployment : Deployment}
  (applies : AppliesRoutes known task expectedRevision updated current deployment)
  (sound : Sound platform store) (found : store.environments.get? current.key = some current) :
  Compliant platform store updated := by
  obtain ⟨snapshot, present, target, tenant, named, routed, written⟩ := applies.written
  have compliant := sound.compliant _ current found
  obtain ⟨stored, launched, _, planned, _⟩ := remembers.current deployment applies.deploying
  obtain ⟨aim, aimed, environment, targeted, _, meets⟩ := sound.justified _ stored launched
  obtain ⟨sameTarget, sameTenant, sameKey, sameRevision⟩ := same_of_plan planned
  rw [sameKey, ← applies.aimed, found] at targeted
  cases targeted
  have satisfied := meets (sameRevision.trans applies.unchanged.symm)
  have located := aimed.stored
  rw [sameTarget, sameTenant] at located
  have aim_well : RoutesWell platform store updated snapshot.snapshotId := by
    refine ⟨aim, ?_, ?_⟩
    · rw [written, named, applies.aimed]
      exact located
    rw [written]
    exact satisfied
  obtain ⟨left, healthy⟩ := routesFor_routes routed
  constructor
  · intro route member
    have listed : route ∈ target.1 := by
      rw [written] at member
      exact member
    rcases left route listed with same | before
    · rw [same]
      exact aim_well
    obtain ⟨old, kept, same⟩ := compliant.healthy _ before
    obtain ⟨healthySnapshot, healthyStored, healthyMeets⟩ := compliant.routes old kept
    rw [same] at healthyStored
    refine ⟨healthySnapshot, ?_, ?_⟩
    · rw [written]
      exact healthyStored
    rw [written]
    exact healthyMeets
  rw [written]
  exact healthy

theorem justified_of_launched (remembers : Remembers store known) {deployment : Deployment}
  (launches : Launches platform known deployment current snapshot)
  (fits : RollbackFits platform store 0 (.addDeployment deployment) {}) :
  Justified platform store deployment := by
  have stored := remembers.snapshots snapshot launches.present
  have located : store.snapshots.get? (deployment.tenantId, deployment.targetSnapshotId) =
    some snapshot := by
    rw [← launches.tenant, ← launches.target]
    exact stored
  obtain ⟨environment, found, older, same⟩ := remembers.environment current launches.read
  rw [launches.aimed] at found
  refine ⟨snapshot, ⟨located, launches.agent, launches.environment, fun rollback =>
    ⟨launches.verified rollback, launches.whole rollback⟩⟩, environment, found,
    launches.unchanged ▸ older, fun expected => ?_⟩
  cases action : deployment.action with
  | promote =>
    rw [same (launches.unchanged.symm.trans expected)]
    exact launches.promoted action
  | rollback => exact fits action environment snapshot found expected located

variable {op : DeploymentOp}

theorem sound_answer (keyed : Keyed store) (remembers : Remembers store known)
  (sound : Sound platform store)
  (allowed : (contract platform).allowed known op) (actor : Nat) (input : DeploymentInput)
  (fits : RollbackFits platform store actor op input) :
  Sound platform (platform.answer actor input store op).2 := by
  have grown := (answer_grows keyed remembers allowed actor input).1
  cases op with
  | addEnvironment environment =>
    simp only [answer] at grown ⊢
    split
    · exact sound
    rename_i absent
    rw [absent] at grown
    refine sound.environment keyed grown ⟨?_, ?_⟩
    · rw [allowed.2.2.1]
      exact fun _ member => by cases member
    rw [allowed.2.2.2]
    exact fun _ member => by cases member
  | compareAndSetEnvironment cause expectedRevision updated =>
    simp only [answer] at grown ⊢
    split
    · rename_i accepted
      rw [if_pos accepted] at grown
      refine sound.environment keyed grown ?_
      cases cause with
      | none =>
        obtain ⟨current, replaces⟩ := allowed.2
        have found := environment_of_accepted replaces.read replaces.expected
          (by rw [replaces.written]) remembers accepted
        exact compliant_of_replaced remembers replaces (sound.compliant _ current found)
      | some task =>
        obtain ⟨current, deployment, applies⟩ := allowed.2
        obtain ⟨_, _, _, _, _, _, written⟩ := applies.written
        have found := environment_of_accepted applies.read applies.expected
          (by rw [written]) remembers accepted
        exact compliant_of_applied remembers applies sound found
    exact sound
  | addSnapshot snapshot =>
    simp only [answer] at grown ⊢
    split
    · split <;> exact sound
    rename_i absent
    rw [absent] at grown
    exact ⟨fun key environment found => (sound.compliant key environment found).grow keyed grown,
      fun task deployment found => (sound.justified task deployment found).grow keyed grown⟩
  | addDeployment deployment =>
    simp only [answer] at grown ⊢
    split
    · exact sound
    rename_i fresh
    rw [if_neg fresh] at grown
    obtain ⟨current, snapshot, launches⟩ := allowed.2
    exact sound.deployment keyed grown (justified_of_launched remembers launches fits)
  | compareAndSetDeployment expected updated =>
    simp only [answer] at grown ⊢
    split
    · rename_i accepted
      rw [if_pos accepted] at grown
      obtain ⟨current, moves⟩ := allowed.2
      have justified := sound.justified _ current (current_of_accepted moves remembers accepted)
      refine sound.deployment keyed grown ?_
      rw [moves.written]
      obtain ⟨snapshot, target, aimed⟩ := justified
      exact ⟨snapshot, ⟨target.stored, target.agent, target.environment, target.verified⟩, aimed⟩
    exact sound
  | getEnvironment | getSnapshot | getDeployment | getVersion | requirePromotionAllowed =>
    simp only [answer]
    split <;> exact sound
  | generateId kind =>
    exact ⟨fun key environment found => (sound.compliant key environment found).grow keyed grown,
      fun task deployment found => (sound.justified task deployment found).grow keyed grown⟩
  | _ => exact sound

theorem sound_respond (keyed : Keyed store) (remembers : Remembers store known)
  (sound : Sound platform store)
  (allowed : (contract platform).allowed known op) (actor : Nat) (input : DeploymentInput)
  (fits : RollbackFits platform store actor op input) :
  Sound platform (platform.respond actor input store op).2 := by
  have effect := sound_answer keyed remembers sound allowed actor input fits
  rcases platform.respond_cases actor input store op with answered | ⟨error, _, failed⟩ |
    ⟨error, _, failed⟩
  · rw [answered]
    exact effect
  · rw [failed]
    exact sound
  rw [failed]
  exact effect

end

section

def plainVersion : AgentVersion where
  published := true
  packageHash := some "sha256:0"
  snapshot := { modelRoute := "glm-5-2" }

def plainPlatform : DeploymentPlatform where
  versions _ := some plainVersion
  generatedId kind count := kind ++ String.ofList (List.replicate count '+')

def plainCatalog : CapabilityCatalogRecord where
  revision := 1
  modelRoutes := [{ name := "glm-5-2" }]
  mcpServers := []
  executionProfiles := [{ profileId := "isolated-default", networkAccess := [] }]

def helperTest : EnvironmentKey where
  tenantId := "tenant-1"
  ownerUserId := "user-1"
  agentName := "helper"
  name := .test

def promoteThenRollback : Nat → List DeploymentRequest
  | 0 =>
    [.promote "tenant-1" "user-1"
      { agentName := "helper", agentVersion := "1", environment := .test
        expectedEnvironmentRevision := 0, executionProfile := "isolated-default"
        idempotencyKey := "first" },
    .rollback helperTest
      { snapshotId := "deployment_snapshot", expectedEnvironmentRevision := 0
        idempotencyKey := "second" }]
  | _ => [.processOnce, .processOnce]

def rollbackTask : DeploymentTask where
  tenantId := "tenant-1"
  deploymentId := "deployment++"

def calm : DeploymentInput where
  catalog := plainCatalog
  task := some rollbackTask

def requested : List (Nat × DeploymentInput) := List.replicate 18 (0, calm)

def processed : List (Nat × DeploymentInput) := requested ++ List.replicate 12 (1, calm)

end

end AgentHarness.Deployments
