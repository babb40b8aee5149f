import AgentHarness.Deployments.Records
import AgentHarness.Deployments.Resolution

/-!
How an environment splits its traffic.
-/

namespace AgentHarness.Deployments

open Collections Interaction Dict List DeploymentPlatform DeploymentController

inductive Split : List DeploymentRoute → Option String → Prop
  | unrouted : Split [] none
  | whole (snapshotId : String) :
      Split [{ snapshotId, weight := Percent.full }] (some snapshotId)
  | canary (healthyId canaryId : String) (percent : Percent) (below : percent.value < 100)
      (distinct : canaryId ≠ healthyId) :
      Split
        [{ snapshotId := healthyId, weight := percent.rest below },
          { snapshotId := canaryId, weight := percent }]
        (some healthyId)

structure WellRouted (environment : Environment) : Prop where
  distinct : (environment.routes.map fun route => route.snapshotId).Nodup
  positive : ∀ route ∈ environment.routes, 0 < route.weight.value
  total : environment.routes ≠ [] → totalWeight routeWeight environment.routes = 100
  healthy : environment.routes ≠ [] →
    ∃ route ∈ environment.routes, environment.healthySnapshotId = some route.snapshotId

namespace Split

theorem wellRouted {environment : Environment}
  (split : Split environment.routes environment.healthySnapshotId) : WellRouted environment := by
  generalize routed : environment.routes = routes at split
  generalize healthy : environment.healthySnapshotId = healthyId at split
  cases split with
  | unrouted =>
    constructor
    · rw [routed]
      exact nodup_nil
    · rw [routed]
      exact fun _ member => nomatch member
    · exact fun listed => absurd routed listed
    exact fun listed => absurd routed listed
  | whole snapshotId =>
    constructor
    · rw [routed]
      exact nodup_singleton _
    · exact fun route _ => route.weight.positive
    · rw [routed]
      exact fun _ => rfl
    rw [routed, healthy]
    exact fun _ => ⟨_, mem_singleton_self _, rfl⟩
  | canary healthyId canaryId percent below distinct =>
    constructor
    · rw [routed]
      simpa using distinct.symm
    · exact fun route _ => route.weight.positive
    · intro _
      rw [routed]
      simp only [totalWeight, routeWeight, Percent.rest, map_cons, map_nil, sum_cons, sum_nil]
      omega
    rw [routed, healthy]
    exact fun _ => ⟨_, mem_cons_self, rfl⟩

theorem of_routesFor {current : Deployment} {snapshot : DeploymentSnapshot}
  {healthy : Option String} {target : List DeploymentRoute × Option String}
  (routed : routesFor current snapshot healthy = some target) :
  Split target.1 target.2 := by
  unfold routesFor at routed
  split at routed
  case isTrue below =>
    cases healthy with
    | none => cases routed
    | some healthyId =>
      dsimp only at routed
      split at routed
      case isTrue same =>
        cases routed
        rw [same]
        exact .whole snapshot.snapshotId
      case isFalse distinct =>
        cases routed
        exact .canary healthyId snapshot.snapshotId current.canaryPercent below (Ne.symm distinct)
  · cases routed
    exact .whole snapshot.snapshotId

end Split

namespace WellRouted

variable {environment : Environment}

section

variable (well : WellRouted environment)

include well

theorem same_route {first second : DeploymentRoute} (one : first ∈ environment.routes)
  (other : second ∈ environment.routes) (same : first.snapshotId = second.snapshotId) :
  first = second :=
  inj_on_of_nodup_map well.distinct one other same

theorem selects (listed : environment.routes ≠ []) (routingKey : String) :
  ∃! route, route ∈ environment.routes ∧ selectRoute environment routingKey = .ok route := by
  have below : bucketOf routingKey < totalWeight routeWeight environment.routes := by
    rw [well.total listed]
    exact bucketOf_lt routingKey
  obtain ⟨route, shared⟩ := shareOf_of_lt below
  have selected : selectRoute environment routingKey = .ok route := by
    rw [selectRoute_ok, routeAt_eq_shareOf below]
    exact shared
  refine ⟨route, ⟨shareOf_mem shared, selected⟩, ?_⟩
  intro other ⟨_, also⟩
  rw [selected] at also
  exact (Except.ok.inj also).symm

variable {route : DeploymentRoute}

end

end WellRouted

def KeepsCanary (before after : Environment) : Prop :=
  ∀ canary ∈ before.routes, before.healthySnapshotId ≠ some canary.snapshotId →
    ∀ raised ∈ after.routes, raised.snapshotId = canary.snapshotId →
      canary.weight.value ≤ raised.weight.value →
        ∀ routingKey, selectRoute before routingKey = .ok canary →
          selectRoute after routingKey = .ok raised

variable {before after : Environment}

theorem KeepsCanary.of_same_routes (well : WellRouted before)
  (same : after.routes = before.routes) : KeepsCanary before after := by
  intro canary routed _ raised listed named _ routingKey selected
  rw [same] at listed
  rw [well.same_route listed routed named, selectRoute_ok, same]
  exact selectRoute_ok.mp selected

theorem routeAt_whole (snapshotId : String) (routingKey : String) :
  routeAt [{ snapshotId, weight := Percent.full }] (bucketOf routingKey) =
    some { snapshotId, weight := Percent.full } := by
  rw [routeAt_eq_shareOf (bucketOf_lt routingKey)]
  exact if_pos (bucketOf_lt routingKey)

theorem routeAt_canary {healthyId canaryId : String} {percent : Percent}
  (below : percent.value < 100) (distinct : canaryId ≠ healthyId) (routingKey : String) :
  routeAt
    [{ snapshotId := healthyId, weight := percent.rest below },
    { snapshotId := canaryId, weight := percent }] (bucketOf routingKey) =
    some { snapshotId := canaryId, weight := percent } ↔
    100 - percent.value ≤ bucketOf routingKey := by
  have bound := bucketOf_lt routingKey
  have rest : routeWeight { snapshotId := healthyId, weight := percent.rest below } =
      100 - percent.value := rfl
  have share : routeWeight { snapshotId := canaryId, weight := percent } = percent.value := rfl
  have total : totalWeight routeWeight
      [{ snapshotId := healthyId, weight := percent.rest below },
        { snapshotId := canaryId, weight := percent }] = 100 := by
    simp only [totalWeight_cons, rest, share]
    simp only [totalWeight, map_nil, sum_nil]
    omega
  rw [routeAt_eq_shareOf (by omega), shareOf, shareOf]
  by_cases low : bucketOf routingKey <
      routeWeight { snapshotId := healthyId, weight := percent.rest below }
  · rw [if_pos low]
    simp only [Option.some.injEq, DeploymentRoute.mk.injEq, Ne.symm distinct, false_and, false_iff]
    omega
  rw [if_neg low, if_pos (by omega)]
  simp only [true_iff]
  omega

theorem KeepsCanary.of_routesFor {current : Deployment}
  {snapshot : DeploymentSnapshot} {target : List DeploymentRoute × Option String}
  (split : Split before.routes before.healthySnapshotId)
  (routed : routesFor current snapshot before.healthySnapshotId = some target)
  (written : after.routes = target.1) : KeepsCanary before after := by
  intro canary listed unhealthy raised member named weighs routingKey selected
  rw [selectRoute_ok] at selected ⊢
  rw [written] at member ⊢
  unfold routesFor at routed
  generalize healthy : before.healthySnapshotId = healthyId at split routed unhealthy
  generalize known : before.routes = routes at split listed selected
  split at routed
  case isFalse =>
    cases routed
    rw [mem_singleton.mp member]
    exact routeAt_whole _ routingKey
  case isTrue below =>
    cases split with
    | unrouted => cases listed
    | whole healthyId =>
      rw [mem_singleton.mp listed] at unhealthy
      exact absurd rfl unhealthy
    | canary healthyId canaryId percent lower distinct =>
      have own : canary = { snapshotId := canaryId, weight := percent } := by
        cases mem_cons.mp listed with
        | inl first =>
          rw [first] at unhealthy
          exact absurd rfl unhealthy
        | inr last => exact mem_singleton.mp last
      subst own
      dsimp only at routed
      split at routed
      case isTrue same =>
        cases routed
        rw [mem_singleton.mp member]
        exact routeAt_whole _ routingKey
      case isFalse other =>
        cases routed
        have new : raised =
            { snapshotId := snapshot.snapshotId, weight := current.canaryPercent } := by
          cases mem_cons.mp member with
          | inl first =>
            rw [first] at named
            exact absurd named.symm distinct
          | inr last => exact mem_singleton.mp last
        subst new
        rw [routeAt_canary lower distinct] at selected
        rw [routeAt_canary below (Ne.symm other)]
        have raises : percent.value ≤ current.canaryPercent.value := weighs
        omega

def AllSplit (store : DeploymentStore) : Prop :=
  ∀ key environment, store.environments.get? key = some environment →
    Split environment.routes environment.healthySnapshotId

def CanariesKeep (before after : DeploymentStore) : Prop :=
  ∀ key earlier later, before.environments.get? key = some earlier →
    after.environments.get? key = some later → KeepsCanary earlier later

section

variable {platform : DeploymentPlatform} {store : DeploymentStore} {known : Known}

theorem CanariesKeep.refl (split : AllSplit store) : CanariesKeep store store := by
  intro key earlier later stored same
  cases stored.symm.trans same
  exact .of_same_routes (split key earlier stored).wellRouted rfl

variable {later : DeploymentStore}

theorem step_environment (split : AllSplit store) {updated : Environment}
  (set : later.environments = store.environments.set updated.key updated)
  (routes : Split updated.routes updated.healthySnapshotId)
  (keeps : ∀ before, store.environments.get? updated.key = some before →
    KeepsCanary before updated) : AllSplit later ∧ CanariesKeep store later := by
  constructor
  · unfold AllSplit
    rw [set]
    exact forall_set routes split
  intro key before after stored found
  rw [set, get?_set] at found
  split at found
  case isTrue same =>
    cases found
    rw [same] at stored
    exact keeps before stored
  · cases stored.symm.trans found
    exact .of_same_routes (split key before stored).wellRouted rfl

theorem step_same (split : AllSplit store) (same : later.environments = store.environments) :
  AllSplit later ∧ CanariesKeep store later := by
  constructor
  · intro key environment found
    rw [same] at found
    exact split key environment found
  intro key before after stored found
  rw [same] at found
  exact CanariesKeep.refl split key before after stored found

variable {op : DeploymentOp}

theorem split_answer (remembers : Remembers store known) (split : AllSplit store)
  (allowed : (contract platform).allowed known op) (actor : Nat) (input : DeploymentInput) :
  AllSplit (platform.answer actor input store op).2 ∧
    CanariesKeep store (platform.answer actor input store op).2 := by
  cases op with
  | addEnvironment environment =>
    simp only [answer]
    split
    · exact step_same split rfl
    rename_i absent
    apply step_environment split rfl
    · rw [allowed.2.2.1, allowed.2.2.2]
      exact .unrouted
    intro before stored
    rw [absent] at stored
    cases stored
  | compareAndSetEnvironment cause expectedRevision updated =>
    simp only [answer]
    split
    · rename_i accepted
      cases cause with
      | none =>
        obtain ⟨current, replaces⟩ := allowed.2
        have named : updated.key = current.key := by rw [replaces.written]
        have routes : updated.routes = current.routes := by rw [replaces.written]
        have healthy : updated.healthySnapshotId = current.healthySnapshotId := by
          rw [replaces.written]
        have found := environment_of_accepted replaces.read replaces.expected named remembers
          accepted
        apply step_environment split rfl
        · rw [routes, healthy]
          exact split _ current found
        intro before stored
        rw [named, found] at stored
        cases stored
        exact .of_same_routes (split _ current found).wellRouted routes
      | some task =>
        obtain ⟨current, deployment, applies⟩ := allowed.2
        obtain ⟨snapshot, _, target, _, _, routed, written⟩ := applies.written
        have named : updated.key = current.key := by rw [written]
        have found := environment_of_accepted applies.read applies.expected named remembers
          accepted
        apply step_environment split rfl
        · rw [written]
          exact Split.of_routesFor routed
        intro before stored
        rw [named, found] at stored
        cases stored
        exact .of_routesFor (split _ current found) routed (by rw [written])
    exact step_same split rfl
  | addSnapshot snapshot =>
    simp only [answer]
    split
    · split <;> exact step_same split rfl
    exact step_same split rfl
  | addDeployment deployment | compareAndSetDeployment expected updated
  | getEnvironment | getSnapshot | getDeployment | getVersion | requirePromotionAllowed =>
    simp only [answer]
    split <;> exact step_same split rfl
  | _ => exact step_same split rfl

theorem split_respond (remembers : Remembers store known) (split : AllSplit store)
  (allowed : (contract platform).allowed known op) (actor : Nat) (input : DeploymentInput) :
  AllSplit (platform.respond actor input store op).2 ∧
    CanariesKeep store (platform.respond actor input store op).2 := by
  have effect := split_answer remembers split allowed actor input
  rcases platform.respond_cases actor input store op with answered | ⟨error, _, failed⟩ |
    ⟨error, _, failed⟩
  · rw [answered]
    exact effect
  · rw [failed]
    exact ⟨split, CanariesKeep.refl split⟩
  rw [failed]
  exact effect

theorem split_adheres (platform : DeploymentPlatform) :
  Pool.Adheres platform.component (fun _ => contract platform)
    (fun store known => Recorded store known ∧ AllSplit store) (fun _ _ _ _ => True) := by
  intro store known actor op input ⟨recorded, split⟩ _ allowed
  obtain ⟨foreseen, kept⟩ := recorded_respond recorded allowed input
  exact ⟨_, ⟨rfl, foreseen⟩, kept,
    (split_respond (recorded.remembers actor) split allowed actor input).1⟩

end

instance : Trans Grows Grows Grows where
  trans first second :=
    ⟨fun environment seen => second.environments environment (first.environments environment seen),
      fun deployment seen => second.deployments deployment (first.deployments deployment seen),
      fun snapshot stored => second.snapshots snapshot (first.snapshots snapshot stored)⟩

/-- Through every run no record vanishes: the revision of an environment and the token of a
deployment rise with each change, and a snapshot stays as it is. -/
theorem records_grow (platform : DeploymentPlatform) (service : Nat → DeploymentService)
  (requests : Nat → List DeploymentRequest) (schedule : List (Nat × DeploymentInput)) :
  ((deploymentPool service requests).visited platform.component schedule).Pairwise Grows := by
  have ready : (deploymentPool service requests).Ready (fun _ => contract platform)
    (fun store known => Recorded store known ∧ AllSplit store)
    (fun _ later _ => later.applied = none) (fun _ => Fails) (fun _ => {}) :=
    ⟨⟨recorded_initial, fun _ _ => nofun⟩,
      fun actor => wp_actor platform (service actor) (requests actor)⟩
  refine (Pool.visited_chain (split_adheres platform) Grows.refl ?_ ready schedule
    (Pool.along_of_forall (fun _ _ _ _ => trivial) _ schedule)).pairwise
  intro store known actor op input kept _ allowed
  have grows := (answer_grows kept.1.keyed (kept.1.remembers actor) allowed actor input).1
  rcases platform.respond_cases actor input store op with same | ⟨_, _, same⟩ | ⟨_, _, same⟩
  all_goals change Grows store (platform.respond actor input store op).2
  all_goals rw [same]
  · exact grows
  · exact Grows.refl store
  exact grows

end AgentHarness.Deployments
