import AgentHarness.Deployments.Knowledge

/-!
What was read stays true of the records: an environment of a given revision and a
deployment with a given token never change, and a snapshot never does.
-/

namespace AgentHarness.Deployments

open Collections Interaction Dict Function List DeploymentPlatform Option

def Deployment.plan (deployment : Deployment) : Deployment :=
  { deployment with status := .queued, fencingToken := 0, errorCode := none }

theorem same_of_plan {first second : Deployment} (planned : first.plan = second.plan) :
  first.targetSnapshotId = second.targetSnapshotId ∧ first.tenantId = second.tenantId ∧
    first.environmentKey = second.environmentKey ∧
    first.expectedEnvironmentRevision = second.expectedEnvironmentRevision := by
  have target : first.plan.targetSnapshotId = second.plan.targetSnapshotId := by rw [planned]
  have tenant : first.plan.tenantId = second.plan.tenantId := by rw [planned]
  have key : first.plan.environmentKey = second.plan.environmentKey := by rw [planned]
  have revision : first.plan.expectedEnvironmentRevision =
    second.plan.expectedEnvironmentRevision := by rw [planned]
  exact ⟨target, tenant, key, revision⟩

def SeenEnvironment (store : DeploymentStore) (environment : Environment) : Prop :=
  ∃ stored, store.environments.get? environment.key = some stored ∧
    environment.revision ≤ stored.revision ∧
      (environment.revision = stored.revision → stored = environment)

def SeenDeployment (store : DeploymentStore) (deployment : Deployment) : Prop :=
  ∃ stored, store.deployments.get? deployment.task = some stored ∧
    deployment.fencingToken ≤ stored.fencingToken ∧ stored.plan = deployment.plan ∧
      (deployment.fencingToken = stored.fencingToken → stored = deployment)

def Stored (store : DeploymentStore) (snapshot : DeploymentSnapshot) : Prop :=
  store.snapshots.get? snapshot.storeKey = some snapshot

structure Keyed (store : DeploymentStore) : Prop where
  environments : ∀ key environment, store.environments.get? key = some environment →
    environment.key = key
  snapshots : ∀ key snapshot, store.snapshots.get? key = some snapshot → snapshot.storeKey = key
  deployments : ∀ task deployment, store.deployments.get? task = some deployment →
    deployment.task = task

structure Remembers (store : DeploymentStore) (known : Known) : Prop where
  environment : ∀ environment ∈ known.environment, SeenEnvironment store environment
  current : ∀ deployment ∈ known.current, SeenDeployment store deployment
  snapshots : ∀ snapshot ∈ known.snapshots, Stored store snapshot

structure Recorded (store : DeploymentStore) (known : Nat → Known) : Prop where
  keyed : Keyed store
  remembers : ∀ actor, Remembers store (known actor)

theorem recorded_initial : Recorded {} (fun _ => {}) where
  keyed := ⟨fun _ _ => nofun, fun _ _ => nofun, fun _ _ => nofun⟩
  remembers _ := ⟨fun _ => nofun, fun _ => nofun, fun _ => nofun⟩

structure Grows (store later : DeploymentStore) : Prop where
  environments : ∀ environment, SeenEnvironment store environment →
    SeenEnvironment later environment
  deployments : ∀ deployment, SeenDeployment store deployment → SeenDeployment later deployment
  snapshots : ∀ snapshot, Stored store snapshot → Stored later snapshot

theorem Grows.refl (store : DeploymentStore) : Grows store store :=
  ⟨fun _ => id, fun _ => id, fun _ => id⟩

variable {later store : DeploymentStore}

theorem Remembers.grow {known : Known} (remembers : Remembers store known)
  (grows : Grows store later) : Remembers later known :=
  ⟨fun environment read => grows.environments environment (remembers.environment environment read),
    fun deployment read => grows.deployments deployment (remembers.current deployment read),
    fun snapshot read => grows.snapshots snapshot (remembers.snapshots snapshot read)⟩

theorem Recorded.learn {known : Nat → Known} (recorded : Recorded store known)
  (grows : Grows store later) (keyed : Keyed later) {actor : Nat} {learned : Known}
  (remembers : Remembers later learned) :
  Recorded later (update known actor learned) where
  keyed
  remembers := Pool.forall_update remembers
    (fun other _ => (recorded.remembers other).grow grows)

theorem Grows.snapshot_of_key (keyed : Keyed store) (grows : Grows store later)
  {key : String × String} {snapshot : DeploymentSnapshot}
  (found : store.snapshots.get? key = some snapshot) :
  later.snapshots.get? key = some snapshot := by
  have named := keyed.snapshots key snapshot found
  have stored : Stored store snapshot := by
    rw [Stored, named]
    exact found
  have kept := grows.snapshots snapshot stored
  rwa [Stored, named] at kept

section

variable {store : DeploymentStore}

theorem grows_environment {environment : Environment} (applied : List (DeploymentTask × Nat))
  (rises : ∀ stored, store.environments.get? environment.key = some stored →
    stored.revision < environment.revision) :
  Grows store
    { store with environments := store.environments.set environment.key environment, applied } := by
  refine ⟨?_, fun _ => id, fun _ => id⟩
  rintro seen ⟨stored, found, older, same⟩
  by_cases named : seen.key = environment.key
  · have rising := rises stored (named ▸ found)
    refine ⟨environment, ?_, by omega, fun equal => by omega⟩
    rw [named]
    exact get?_set_self _ _ _
  exact ⟨stored, (get?_set_other _ _ named).trans found, older, same⟩

theorem keyed_environment (keyed : Keyed store) (environment : Environment)
  (applied : List (DeploymentTask × Nat)) :
  Keyed { store with
    environments := store.environments.set environment.key environment, applied } := by
  exact ⟨forall_set rfl keyed.environments, keyed.snapshots, keyed.deployments⟩

theorem grows_deployment {deployment : Deployment}
  (rises : ∀ stored, store.deployments.get? deployment.task = some stored →
    stored.fencingToken < deployment.fencingToken ∧ deployment.plan = stored.plan) :
  Grows store
    { store with deployments := store.deployments.set deployment.task deployment } := by
  refine ⟨fun _ => id, ?_, fun _ => id⟩
  rintro seen ⟨stored, found, older, planned, same⟩
  by_cases named : seen.task = deployment.task
  · obtain ⟨rising, plan⟩ := rises stored (named ▸ found)
    refine ⟨deployment, ?_, by omega, plan.trans planned, fun equal => by omega⟩
    rw [named]
    exact get?_set_self _ _ _
  exact ⟨stored, (get?_set_other _ _ named).trans found, older, planned, same⟩

theorem keyed_deployment (keyed : Keyed store) (deployment : Deployment) :
  Keyed { store with
    deployments := store.deployments.set deployment.task deployment } := by
  exact ⟨keyed.environments, keyed.snapshots, forall_set rfl keyed.deployments⟩

theorem grows_snapshot {snapshot : DeploymentSnapshot}
  (fresh : store.snapshots.get? snapshot.storeKey = none) :
  Grows store
    { store with snapshots := store.snapshots.set snapshot.storeKey snapshot } := by
  refine ⟨fun _ => id, fun _ => id, ?_⟩
  intro other stored
  by_cases named : other.storeKey = snapshot.storeKey
  · rw [Stored, named, fresh] at stored
    cases stored
  exact (get?_set_other _ _ named).trans stored

theorem keyed_snapshot (keyed : Keyed store) (snapshot : DeploymentSnapshot) :
  Keyed { store with
    snapshots := store.snapshots.set snapshot.storeKey snapshot } := by
  exact ⟨keyed.environments, forall_set rfl keyed.snapshots, keyed.deployments⟩

end

section

variable {platform : DeploymentPlatform} {store : DeploymentStore} {known : Known}
  {updated current : Deployment} {expected : DeploymentStatus}

theorem plan_of_moves (moves : Moves known expected updated current) :
  updated.plan = current.plan ∧ updated.task = current.task ∧
    updated.fencingToken = current.fencingToken + 1 := by
  rw [moves.written]
  exact ⟨rfl, rfl, rfl⟩

theorem current_of_accepted
  (moves : Moves known expected updated current) (remembers : Remembers store known)
  (accepted : store.acceptsDeployment expected updated) :
  store.deployments.get? current.task = some current := by
  obtain ⟨stored, found, _, token⟩ := accepted
  obtain ⟨_, task, next⟩ := plan_of_moves moves
  obtain ⟨seen, present, _, _, same⟩ := remembers.current current moves.read
  rw [task] at found
  have equal : stored = seen := some.inj ((mem_def.mp found).symm.trans present)
  subst equal
  rw [present, same (by omega)]

theorem environment_of_accepted {expectedRevision : Nat} {updated current : Environment}
  (read : known.environment = some current) (expected : expectedRevision = current.revision)
  (named : updated.key = current.key) (remembers : Remembers store known)
  (accepted : store.acceptsEnvironment expectedRevision updated) :
  store.environments.get? current.key = some current := by
  obtain ⟨stored, found, revision⟩ := accepted
  obtain ⟨seen, present, _, same⟩ := remembers.environment current read
  rw [named] at found
  have equal : stored = seen := some.inj ((mem_def.mp found).symm.trans present)
  subst equal
  rw [present, same (by omega)]

variable {op : DeploymentOp}

theorem answer_grows (keyed : Keyed store) (remembers : Remembers store known)
  (allowed : (contract platform).allowed known op) (actor : Nat) (input : DeploymentInput) :
  Grows store (platform.answer actor input store op).2 ∧
    Keyed (platform.answer actor input store op).2 := by
  cases op with
  | addEnvironment environment =>
    simp only [answer]
    split
    · exact ⟨Grows.refl store, keyed⟩
    rename_i absent
    refine ⟨grows_environment store.applied fun stored found => ?_,
      keyed_environment keyed environment store.applied⟩
    rw [absent] at found
    cases found
  | compareAndSetEnvironment cause expectedRevision updated =>
    simp only [answer]
    split
    · rename_i accepted
      have next : updated.revision = expectedRevision + 1 := by
        cases cause with
        | none =>
          obtain ⟨current, replaces⟩ := allowed.2
          rw [replaces.written, replaces.expected]
        | some task =>
          obtain ⟨current, deployment, applies⟩ := allowed.2
          obtain ⟨snapshot, _, target, _, _, _, written⟩ := applies.written
          rw [written, applies.expected]
      obtain ⟨stored, found, revision⟩ := accepted
      refine ⟨grows_environment _ fun other present => ?_, keyed_environment keyed updated _⟩
      cases (mem_def.mp found).symm.trans present
      omega
    exact ⟨Grows.refl store, keyed⟩
  | addSnapshot snapshot =>
    simp only [answer]
    split
    · split <;> exact ⟨Grows.refl store, keyed⟩
    rename_i absent
    exact ⟨grows_snapshot absent, keyed_snapshot keyed snapshot⟩
  | addDeployment deployment =>
    simp only [answer]
    split
    · exact ⟨Grows.refl store, keyed⟩
    rename_i fresh
    refine ⟨grows_deployment fun stored found => ?_, keyed_deployment keyed deployment⟩
    rw [found] at fresh
    exact absurd (.inl rfl) fresh
  | compareAndSetDeployment expected updated =>
    simp only [answer]
    split
    · rename_i accepted
      obtain ⟨current, moves⟩ := allowed.2
      obtain ⟨plan, task, token⟩ := plan_of_moves moves
      have present := current_of_accepted moves remembers accepted
      refine ⟨grows_deployment fun stored found => ?_, keyed_deployment keyed updated⟩
      rw [task, present] at found
      cases found
      exact ⟨by omega, plan⟩
    exact ⟨Grows.refl store, keyed⟩
  | getEnvironment | getSnapshot | getDeployment | getVersion | requirePromotionAllowed =>
    simp only [answer]
    split <;> exact ⟨Grows.refl store, keyed⟩
  | generateId kind =>
    exact ⟨⟨fun _ => id, fun _ => id, fun _ => id⟩,
      keyed.environments, keyed.snapshots, keyed.deployments⟩
  | _ => exact ⟨Grows.refl store, keyed⟩

theorem remembers_failure {error : DeploymentError} (remembers : Remembers store known) : Remembers store (known.after op (.error error)) := by
  cases op with
  | compareAndSetEnvironment cause expectedRevision updated =>
    exact ⟨(fun _ read => nomatch read), remembers.current, remembers.snapshots⟩
  | compareAndSetDeployment expected updated =>
    exact ⟨remembers.environment, remembers.current, remembers.snapshots⟩
  | _ => exact remembers

theorem foreseen_failure (op : DeploymentOp) (error : DeploymentError) :
  Foreseen platform op (.error error) := by
  cases op <;> trivial

theorem answer_teaches (keyed : Keyed store) (remembers : Remembers store known)
  (allowed : (contract platform).allowed known op) (actor : Nat) (input : DeploymentInput) :
  Foreseen platform op (platform.answer actor input store op).1 ∧
    Remembers (platform.answer actor input store op).2
    (known.after op (platform.answer actor input store op).1) := by
  have grown := remembers.grow (answer_grows keyed remembers allowed actor input).1
  cases op with
  | getEnvironment key =>
    simp only [answer] at grown ⊢
    split
    · exact ⟨trivial, remembers⟩
    rename_i environment found
    have named := keyed.environments key environment found
    refine ⟨named, ?_, remembers.current, remembers.snapshots⟩
    rintro read ⟨⟩
    exact ⟨environment, by rw [named]; exact found, Nat.le_refl _, fun _ => rfl⟩
  | addEnvironment environment =>
    simp only [answer] at grown ⊢
    split
    · exact ⟨trivial, remembers⟩
    rename_i absent
    rw [absent] at grown
    refine ⟨trivial, ?_, grown.current, grown.snapshots⟩
    rintro read ⟨⟩
    exact ⟨environment, get?_set_self _ _ _, Nat.le_refl _, fun _ => rfl⟩
  | compareAndSetEnvironment cause expectedRevision updated =>
    simp only [answer] at grown ⊢
    split
    · rename_i accepted
      rw [if_pos accepted] at grown
      exact ⟨trivial, (fun _ read => by cases read), grown.current, grown.snapshots⟩
    exact ⟨trivial, (fun _ read => by cases read), remembers.current, remembers.snapshots⟩
  | getSnapshot tenantId snapshotId =>
    simp only [answer] at grown ⊢
    split
    · exact ⟨trivial, remembers⟩
    rename_i snapshot found
    have named := keyed.snapshots _ snapshot found
    refine ⟨⟨congrArg Prod.fst named, congrArg Prod.snd named⟩, remembers.environment,
      remembers.current, ?_⟩
    intro other present
    rcases mem_cons.mp present with rfl | before
    · rw [Stored, named]
      exact found
    exact remembers.snapshots other before
  | addSnapshot snapshot =>
    simp only [answer] at grown ⊢
    split
    · rename_i existing found
      split
      · rename_i same
        subst same
        refine ⟨trivial, remembers.environment, remembers.current, ?_⟩
        intro other present
        rcases mem_cons.mp present with rfl | before
        · exact found
        exact remembers.snapshots other before
      exact ⟨trivial, remembers⟩
    rename_i absent
    rw [absent] at grown
    refine ⟨trivial, grown.environment, grown.current, ?_⟩
    intro other present
    rcases mem_cons.mp present with rfl | before
    · exact get?_set_self _ _ _
    exact grown.snapshots other before
  | getDeployment task =>
    simp only [answer] at grown ⊢
    split
    · exact ⟨trivial, remembers⟩
    rename_i deployment found
    have named := keyed.deployments task deployment found
    refine ⟨named, remembers.environment, ?_, remembers.snapshots⟩
    rintro read ⟨⟩
    exact ⟨deployment, by rw [named]; exact found, Nat.le_refl _, rfl, fun _ => rfl⟩
  | addDeployment deployment =>
    simp only [answer] at grown ⊢
    split
    · exact ⟨trivial, remembers⟩
    rename_i fresh
    rw [if_neg fresh] at grown
    exact ⟨trivial, grown⟩
  | compareAndSetDeployment expected updated =>
    simp only [answer] at grown ⊢
    split
    · rename_i accepted
      rw [if_pos accepted] at grown
      exact ⟨trivial, grown.environment, grown.current, grown.snapshots⟩
    exact ⟨trivial, remembers.environment, remembers.current, remembers.snapshots⟩
  | getVersion key =>
    simp only [answer] at grown ⊢
    split
    · exact ⟨trivial, remembers⟩
    rename_i version found
    exact ⟨found, remembers⟩
  | requirePromotionAllowed key =>
    simp only [answer] at grown ⊢
    split <;> exact ⟨trivial, remembers⟩
  | generateId kind => exact ⟨trivial, grown⟩
  | _ => exact ⟨trivial, remembers⟩

theorem recorded_respond {all : Nat → Known} (recorded : Recorded store all) {actor : Nat}
  (allowed : (contract platform).allowed (all actor) op) (input : DeploymentInput) :
  let reply := platform.respond actor input store op
  Foreseen platform op reply.1 ∧
    Recorded reply.2 (update all actor ((all actor).after op reply.1)) := by
  have remembers := recorded.remembers actor
  obtain ⟨grows, keyed⟩ := answer_grows recorded.keyed remembers allowed actor input
  rcases platform.respond_cases actor input store op with answered | ⟨error, _, failed⟩ |
    ⟨error, _, failed⟩
  · rw [answered]
    obtain ⟨foreseen, learned⟩ := answer_teaches recorded.keyed remembers allowed actor input
    exact ⟨foreseen, recorded.learn grows keyed learned⟩
  · rw [failed]
    exact ⟨foreseen_failure op error,
      recorded.learn (Grows.refl store) recorded.keyed (remembers_failure remembers)⟩
  rw [failed]
  exact ⟨foreseen_failure op error,
    recorded.learn grows keyed (remembers_failure (remembers.grow grows))⟩

end

end AgentHarness.Deployments
