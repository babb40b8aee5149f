import AgentHarness.Deployments.Routing

/-!
What the recorded outcome of a deployment says about the traffic.
-/

namespace AgentHarness.Deployments

open Collections Interaction Dict Function List Pool DeploymentStore Option

def DeploymentStatus.token : DeploymentStatus → Nat
  | .queued => 0
  | .reconciling => 1
  | .succeeded | .failed => 2

/-- The routes are applied by an actor whose answer arrives, while the outcome is still
open; until that actor has recorded the success nobody else writes the deployment, and
its own write is not lost. -/
def Undivided (store : DeploymentStore) (actor : Nat) (op : DeploymentOp)
  (input : DeploymentInput) : Prop :=
  match op with
  | .compareAndSetEnvironment (some task) expectedRevision updated =>
    store.acceptsEnvironment expectedRevision updated →
      (∀ deployment ∈ store.deployments.get? task, deployment.status = .reconciling) ∧
        ∀ error, input.fault ≠ .after error
  | .compareAndSetDeployment _ updated =>
    ∀ applier, (updated.task, applier) ∈ store.applied →
      (∀ deployment ∈ store.deployments.get? updated.task, deployment.status = .reconciling) →
        actor = applier ∧ ∀ error, input.fault ≠ .before error
  | _ => True

/-- A deployment whose routes are applied: its environment has moved past the revision it
expected, and its success is recorded or its actor is about to record it. -/
structure Applied (store : DeploymentStore) (known : Known) (deployment : Deployment) : Prop where
  advanced : ∃ environment, store.environments.get? deployment.environmentKey = some environment ∧
    deployment.expectedEnvironmentRevision < environment.revision
  outcome : deployment.status = .succeeded ∨
    deployment.status = .reconciling ∧ known.applied = some deployment

structure Accountable (store : DeploymentStore) (actor : Nat) (known : Known) : Prop where
  read : ∀ deployment ∈ known.current, deployment.fencingToken = deployment.status.token
  applying : ∀ deployment ∈ known.applied, (deployment.task, actor) ∈ store.applied
  applied : ∀ task, (task, actor) ∈ store.applied →
    ∃ deployment, store.deployments.get? task = some deployment ∧ Applied store known deployment

structure Faithful (store : DeploymentStore) (known : Nat → Known) : Prop where
  tokens : ∀ task deployment, store.deployments.get? task = some deployment →
    deployment.fencingToken = deployment.status.token
  once : (store.applied.map Prod.fst).Nodup
  recorded : ∀ task deployment, store.deployments.get? task = some deployment →
    deployment.status = .succeeded → ∃ actor, (task, actor) ∈ store.applied
  accountable : ∀ actor, Accountable store actor (known actor)

section

variable {platform : DeploymentPlatform} {store later : DeploymentStore} {known : Nat → Known}
  {deployment updated : Deployment} {actor : Nat} {learned : Known} {expected : DeploymentStatus}
  {op : DeploymentOp}

theorem advanced_grow (keyed : Keyed store) (grows : Grows store later) (advanced : ∃ environment,
    store.environments.get? deployment.environmentKey = some environment ∧
    deployment.expectedEnvironmentRevision < environment.revision) :
  ∃ environment, later.environments.get? deployment.environmentKey = some environment ∧
    deployment.expectedEnvironmentRevision < environment.revision := by
  obtain ⟨environment, target, passed⟩ := advanced
  have named := keyed.environments _ environment target
  have seen : SeenEnvironment store environment :=
    ⟨environment, by rw [named]; exact target, Nat.le_refl _, fun _ => rfl⟩
  obtain ⟨stored, present, older, _⟩ := grows.environments environment seen
  exact ⟨stored, named ▸ present, Nat.lt_of_lt_of_le passed older⟩

section

variable (faithful : Faithful store known)

include faithful

theorem Faithful.keep (keyed : Keyed store) (grows : Grows store later)
  (deployments : later.deployments = store.deployments) (applied : later.applied = store.applied)
  (idle : learned.applied = (known actor).applied)
  (read : ∀ deployment ∈ learned.current, deployment.fencingToken = deployment.status.token) :
  Faithful later (update known actor learned) := by
  have kept : ∀ other (memory : Known), memory.applied = (known other).applied →
    (∀ deployment ∈ memory.current, deployment.fencingToken = deployment.status.token) →
      Accountable later other memory := by
    intro other memory same tokens
    refine ⟨tokens, ?_, ?_⟩
    · rw [same, applied]
      exact (faithful.accountable other).applying
    intro task member
    rw [applied] at member
    obtain ⟨deployment, found, passed⟩ := (faithful.accountable other).applied task member
    refine ⟨deployment, by rw [deployments]; exact found,
      advanced_grow keyed grows passed.advanced, ?_⟩
    rw [same]
    exact passed.outcome
  refine ⟨by rw [deployments]; exact faithful.tokens, by rw [applied]; exact faithful.once,
    by rw [deployments, applied]; exact faithful.recorded, ?_⟩
  exact forall_update (kept actor learned idle read)
    (fun other _ => kept other (known other) rfl (faithful.accountable other).read)

theorem Faithful.launch (queued : deployment.status = .queued)
  (unmoved : deployment.fencingToken = 0) (fresh : store.deployments.get? deployment.task = none) :
  Faithful
    { store with deployments := store.deployments.set deployment.task deployment } known := by
  have unapplied : ∀ actor, (deployment.task, actor) ∉ store.applied := by
    intro actor member
    obtain ⟨stored, found, _⟩ := (faithful.accountable actor).applied _ member
    rw [fresh] at found
    cases found
  refine ⟨?_, faithful.once, ?_, ?_⟩
  · refine forall_set ?_ faithful.tokens
    rw [unmoved, queued]
    rfl
  · exact forall_set (fun succeeded => nomatch queued.symm.trans succeeded) faithful.recorded
  intro actor
  have before := faithful.accountable actor
  refine ⟨before.read, before.applying, fun task member => ?_⟩
  obtain ⟨found, stored, passed⟩ := before.applied task member
  have other : task ≠ deployment.task := by
    rintro rfl
    exact unapplied actor member
  exact ⟨found, (get?_set_other _ _ other).trans stored, passed.advanced, passed.outcome⟩

variable {current : Deployment}

theorem Faithful.advance (keyed : Keyed store)
  (moves : Moves (known actor) expected updated current)
  (found : store.deployments.get? current.task = some current)
  (applier : ∀ other, (current.task, other) ∈ store.applied → current.status = .reconciling →
    actor = other) (idle : learned.applied = none)
  (read : learned.current = (known actor).current) :
  Faithful { store with deployments := store.deployments.set updated.task updated }
    (update known actor learned) := by
  have task : updated.task = current.task := by rw [moves.written]; rfl
  have key : updated.environmentKey = current.environmentKey := by rw [moves.written]; rfl
  have revision :
    updated.expectedEnvironmentRevision = current.expectedEnvironmentRevision := by
    rw [moves.written]
  have token : updated.fencingToken = current.fencingToken + 1 := by rw [moves.written]
  have before := faithful.tokens _ current found
  -- Only the applier writes an applied deployment, and then it records the success.
  have succeeded : ∀ other, (current.task, other) ∈ store.applied →
    updated.status = .succeeded := by
    intro other member
    obtain ⟨stored, present, passed⟩ := (faithful.accountable other).applied _ member
    cases found.symm.trans present
    rcases moves.forward with ⟨queued, _⟩ | ⟨reconciling, _, unoccupied⟩ | ⟨_, target, _⟩
    · rcases passed.outcome with outcome | ⟨outcome, _⟩ <;> cases queued.symm.trans outcome
    · have own := applier other member reconciling
      subst own
      rcases passed.outcome with outcome | ⟨_, applying⟩
      · cases reconciling.symm.trans outcome
      cases unoccupied.symm.trans applying
    exact target
  refine ⟨?_, faithful.once, ?_, ?_⟩
  · refine forall_set ?_ faithful.tokens
    rw [token, before]
    rcases moves.forward with ⟨old, next, _⟩ | ⟨old, next, _⟩ | ⟨old, next, _⟩ <;>
      rw [old, next] <;> rfl
  · refine forall_set (fun success => ?_) faithful.recorded
    rcases moves.forward with ⟨_, next, _⟩ | ⟨_, next, _⟩ | ⟨_, _, applying⟩
    · cases next.symm.trans success
    · cases next.symm.trans success
    have member := (faithful.accountable actor).applying current applying
    rw [task]
    exact ⟨actor, member⟩
  have kept : ∀ other (memory : Known), (∀ deployment ∈ memory.current,
      deployment.fencingToken = deployment.status.token) →
      (∀ deployment ∈ memory.applied, (deployment.task, other) ∈ store.applied) →
      (∀ task deployment, task ≠ current.task → (task, other) ∈ store.applied →
        (known other).applied = some deployment → deployment.task = task →
          memory.applied = some deployment) →
      Accountable { store with deployments := store.deployments.set updated.task updated }
        other memory := by
    intro other memory tokens applying remembered
    refine ⟨tokens, applying, fun about member => ?_⟩
    by_cases same : about = current.task
    · subst same
      obtain ⟨stored, present, passed⟩ := (faithful.accountable other).applied _ member
      cases found.symm.trans present
      refine ⟨updated, by rw [← task]; exact get?_set_self _ _ _, ?_, .inl (succeeded other member)⟩
      rw [key, revision]
      exact passed.advanced
    obtain ⟨stored, present, passed⟩ := (faithful.accountable other).applied about member
    refine ⟨stored, (get?_set_other _ _ (task ▸ same)).trans present, passed.advanced, ?_⟩
    rcases passed.outcome with outcome | ⟨outcome, applying⟩
    · exact .inl outcome
    exact .inr ⟨outcome, remembered about stored same member applying
      (keyed.deployments about stored present)⟩
  refine forall_update (kept actor learned ?_ ?_ ?_) (fun other _ =>
    kept other (known other) (faithful.accountable other).read
      (faithful.accountable other).applying fun _ _ _ _ applying _ => applying)
  · rw [read]
    exact (faithful.accountable actor).read
  · rw [idle]
    exact fun _ => nofun
  intro about deployment different member applying named
  rcases moves.forward with ⟨_, _, unoccupied⟩ | ⟨_, _, unoccupied⟩ | ⟨_, _, own⟩
  · cases unoccupied.symm.trans applying
  · cases unoccupied.symm.trans applying
  cases own.symm.trans applying
  exact absurd named.symm different

theorem Faithful.apply (recorded : Recorded store known) {task : DeploymentTask}
  {expectedRevision : Nat} {updated current : Environment}
  (applies : AppliesRoutes (known actor) task expectedRevision updated current deployment)
  (found : store.environments.get? current.key = some current)
  (grows : Grows store (store.writeEnvironment actor (some task) updated))
  (pending : ∀ stored ∈ store.deployments.get? task, stored.status = .reconciling)
  (applying : learned.applied = some deployment) (read : learned.current = (known actor).current) :
  Faithful (store.writeEnvironment actor (some task) updated)
    (update known actor learned) := by
  have caused := applies.caused
  subst caused
  obtain ⟨stored, present, _, _, unchanged⟩ :=
    (recorded.remembers actor).current deployment applies.deploying
  have same : stored = deployment := by
    apply unchanged
    rw [(faithful.accountable actor).read deployment applies.deploying, applies.reconciling,
      faithful.tokens _ stored present, pending stored present]
  subst same
  obtain ⟨_, _, target, _, _, _, written⟩ := applies.written
  have fresh : stored.task ∉ store.applied.map Prod.fst := by
    intro member
    obtain ⟨⟨about, other⟩, listed, named⟩ := mem_map.mp member
    cases named
    obtain ⟨again, located, ⟨environment, aimed, passed⟩, _⟩ :=
      (faithful.accountable other).applied _ listed
    cases present.symm.trans located
    rw [← applies.aimed, found] at aimed
    cases aimed
    exact absurd applies.unchanged (Nat.ne_of_gt passed)
  have advanced : ∃ environment,
    (store.writeEnvironment actor (some stored.task) updated).environments.get?
      stored.environmentKey = some environment ∧
      stored.expectedEnvironmentRevision < environment.revision := by
    refine ⟨updated, ?_, ?_⟩
    · have key : stored.environmentKey = updated.key := by
        rw [written]
        exact applies.aimed.symm
      rw [key]
      exact get?_set_self _ _ _
    rw [written, ← applies.unchanged]
    exact Nat.lt_succ_self _
  have listed : ∀ about other, (about, other) ∈
    (store.writeEnvironment actor (some stored.task) updated).applied ↔
      (about, other) ∈ store.applied ∨ about = stored.task ∧ other = actor := by
    intro about other
    simp [writeEnvironment]
  refine ⟨faithful.tokens, ?_, ?_, ?_⟩
  · simp only [writeEnvironment, map_some, toList_some, map_append, map_cons, map_nil]
    refine nodup_append.mpr ⟨faithful.once, nodup_singleton _, ?_⟩
    rintro about member last single rfl
    cases mem_singleton.mp single
    exact fresh member
  · intro about deployment located success
    obtain ⟨other, member⟩ := faithful.recorded about deployment located success
    exact ⟨other, (listed about other).mpr (.inl member)⟩
  refine forall_update ⟨?_, ?_, ?_⟩ fun other distinct => ⟨?_, ?_, ?_⟩
  · rw [read]
    exact (faithful.accountable actor).read
  · intro deployment occupied
    cases applying.symm.trans occupied
    exact (listed _ _).mpr (.inr ⟨rfl, rfl⟩)
  · intro about member
    rcases (listed about actor).mp member with before | ⟨rfl, _⟩
    · obtain ⟨earlier, located, passed⟩ := (faithful.accountable actor).applied about before
      refine ⟨earlier, located, advanced_grow recorded.keyed grows passed.advanced, ?_⟩
      rcases passed.outcome with outcome | ⟨_, occupied⟩
      · exact .inl outcome
      cases applies.idle.symm.trans occupied
    exact ⟨stored, present, advanced, .inr ⟨applies.reconciling, applying⟩⟩
  · exact (faithful.accountable other).read
  · intro deployment occupied
    exact (listed _ _).mpr (.inl ((faithful.accountable other).applying deployment occupied))
  intro about member
  rcases (listed about other).mp member with before | ⟨_, own⟩
  · obtain ⟨earlier, located, passed⟩ := (faithful.accountable other).applied about before
    exact ⟨earlier, located, advanced_grow recorded.keyed grows passed.advanced, passed.outcome⟩
  exact absurd own distinct

theorem Faithful.refuse (moves : Moves (known actor) expected updated current)
  (spared : (current.task, actor) ∈ store.applied →
    store.deployments.get? current.task = some current → current.status ≠ .reconciling)
  (keyed : Keyed store) (idle : learned.applied = none)
  (read : learned.current = (known actor).current) :
  Faithful store (update known actor learned) := by
  refine ⟨faithful.tokens, faithful.once, faithful.recorded,
    forall_update ⟨?_, ?_, ?_⟩ fun other _ => faithful.accountable other⟩
  · rw [read]
    exact (faithful.accountable actor).read
  · rw [idle]
    exact fun _ => nofun
  intro task member
  obtain ⟨stored, present, passed⟩ := (faithful.accountable actor).applied task member
  refine ⟨stored, present, passed.advanced, ?_⟩
  rcases passed.outcome with outcome | ⟨reconciling, occupied⟩
  · exact .inl outcome
  rcases moves.forward with ⟨_, _, free⟩ | ⟨_, _, free⟩ | ⟨_, _, own⟩
  · cases free.symm.trans occupied
  · cases free.symm.trans occupied
  cases own.symm.trans occupied
  have named := keyed.deployments task current present
  subst named
  exact absurd reconciling (spared member present)

end

def spares : DeploymentOp → Bool
  | .compareAndSetEnvironment (some _) _ _ | .addDeployment _ | .compareAndSetDeployment _ _ =>
    false
  | _ => true

theorem answer_spares (platform : DeploymentPlatform) (store : DeploymentStore)
  (spared : spares op = true) (actor : Nat) (input : DeploymentInput) :
  (platform.answer actor input store op).2.deployments = store.deployments ∧
    (platform.answer actor input store op).2.applied = store.applied := by
  cases op with
  | compareAndSetEnvironment cause expectedRevision updated =>
    cases cause with
    | none =>
      simp only [DeploymentPlatform.answer]
      split
      · exact ⟨rfl, append_nil _⟩
      exact ⟨rfl, rfl⟩
    | some task => cases spared
  | addDeployment | compareAndSetDeployment => cases spared
  | getEnvironment | addEnvironment | getSnapshot | getDeployment | getVersion
  | requirePromotionAllowed =>
    simp only [DeploymentPlatform.answer]
    split <;> exact ⟨rfl, rfl⟩
  | addSnapshot snapshot =>
    simp only [DeploymentPlatform.answer]
    split
    · split <;> exact ⟨rfl, rfl⟩
    exact ⟨rfl, rfl⟩
  | _ => exact ⟨rfl, rfl⟩

section

variable (faithful : Faithful store known)

include faithful

theorem after_spares (spared : spares op = true)
  (allowed : (contract platform).allowed (known actor) op) (input : DeploymentInput) :
  let learned := (known actor).after op (platform.respond actor input store op).1
  learned.applied = (known actor).applied ∧
    ∀ deployment ∈ learned.current, deployment.fencingToken = deployment.status.token := by
  have before := (faithful.accountable actor).read
  intro learned
  have failing : ∀ error, ((known actor).after op (.error error)).applied = (known actor).applied ∧
    ∀ deployment ∈ ((known actor).after op (.error error)).current,
      deployment.fencingToken = deployment.status.token := by
    intro error
    cases op with
    | addDeployment | compareAndSetDeployment => cases spared
    | _ => exact ⟨rfl, before⟩
  have answered : ((known actor).after op (platform.answer actor input store op).1).applied =
        (known actor).applied ∧
      ∀ deployment ∈ ((known actor).after op (platform.answer actor input store op).1).current,
        deployment.fencingToken = deployment.status.token := by
    cases op with
    | compareAndSetEnvironment cause expectedRevision updated =>
      cases cause with
      | none =>
        obtain ⟨current, replaces⟩ := allowed.2
        simp only [DeploymentPlatform.answer]
        split
        · refine ⟨?_, before⟩
          exact replaces.idle.symm
        refine ⟨?_, before⟩
        exact replaces.idle.symm
      | some task => cases spared
    | addDeployment | compareAndSetDeployment => cases spared
    | getDeployment task =>
      simp only [DeploymentPlatform.answer]
      split
      · exact ⟨rfl, before⟩
      rename_i deployment found
      refine ⟨rfl, ?_⟩
      rintro read ⟨⟩
      exact faithful.tokens task deployment found
    | getEnvironment | addEnvironment | getSnapshot | getVersion | requirePromotionAllowed =>
      simp only [DeploymentPlatform.answer]
      split <;> exact ⟨rfl, before⟩
    | addSnapshot snapshot =>
      simp only [DeploymentPlatform.answer]
      split
      · split <;> exact ⟨rfl, before⟩
      exact ⟨rfl, before⟩
    | _ => exact ⟨rfl, before⟩
  rcases platform.respond_cases actor input store op with same | ⟨error, _, failed⟩ |
    ⟨error, _, failed⟩
  · simp only [learned, same]
    exact answered
  · simp only [learned, failed]
    exact failing error
  simp only [learned, failed]
  exact failing error

theorem faithful_spares (recorded : Recorded store known) (spared : spares op = true)
  (allowed : (contract platform).allowed (known actor) op) (input : DeploymentInput) :
  Faithful (platform.respond actor input store op).2
    (update known actor ((known actor).after op (platform.respond actor input store op).1)) := by
  obtain ⟨idle, read⟩ := after_spares faithful spared allowed input
  obtain ⟨deployments, applied⟩ := answer_spares platform store spared actor input
  have grows := (answer_grows recorded.keyed (recorded.remembers actor) allowed actor input).1
  rcases platform.respond_cases actor input store op with same | ⟨error, _, failed⟩ |
    ⟨error, _, failed⟩
  · rw [same] at idle read ⊢
    exact faithful.keep recorded.keyed grows deployments applied idle read
  · rw [failed] at idle read ⊢
    exact faithful.keep recorded.keyed (Grows.refl store) rfl rfl idle read
  rw [failed] at idle read ⊢
  exact faithful.keep recorded.keyed grows deployments applied idle read

theorem faithful_apply (recorded : Recorded store known) {task : DeploymentTask}
  {expectedRevision : Nat} {updated : Environment}
  (allowed : (contract platform).allowed (known actor)
    (.compareAndSetEnvironment (some task) expectedRevision updated)) (input : DeploymentInput)
  (undivided : Undivided store actor
    (.compareAndSetEnvironment (some task) expectedRevision updated) input) :
  let reply := platform.respond actor input store
    (.compareAndSetEnvironment (some task) expectedRevision updated)
  Faithful reply.2 (update known actor ((known actor).after
    (.compareAndSetEnvironment (some task) expectedRevision updated) reply.1)) := by
  have grows := (answer_grows recorded.keyed (recorded.remembers actor) allowed actor input).1
  obtain ⟨current, deployment, applies⟩ := allowed.2
  have before := (faithful.accountable actor).read
  have failing : ∀ error, Faithful store (update known actor ((known actor).after
    (.compareAndSetEnvironment (some task) expectedRevision updated) (.error error))) :=
    fun error => faithful.keep recorded.keyed (Grows.refl store) rfl rfl rfl before
  rcases platform.respond_cases actor input store
    (.compareAndSetEnvironment (some task) expectedRevision updated) with same |
    ⟨error, _, failed⟩ | ⟨error, struck, failed⟩
  · rw [same]
    simp only [DeploymentPlatform.answer] at grows ⊢
    split
    · rename_i accepted
      rw [if_pos accepted] at grows
      obtain ⟨_, _, _, _, _, _, written⟩ := applies.written
      have found := environment_of_accepted applies.read applies.expected (by rw [written])
        (recorded.remembers actor) accepted
      refine faithful.apply recorded applies found grows (undivided accepted).1 ?_ rfl
      exact applies.deploying
    refine faithful.keep recorded.keyed (Grows.refl store) rfl rfl ?_ before
    exact applies.idle.symm
  · rw [failed]
    exact failing error
  rw [failed]
  simp only [DeploymentPlatform.answer]
  split
  · rename_i accepted
    exact absurd struck ((undivided accepted).2 error)
  exact failing error

theorem faithful_launch
  (allowed : (contract platform).allowed (known actor) (.addDeployment deployment))
  (input : DeploymentInput) :
  let reply := platform.respond actor input store (.addDeployment deployment)
  Faithful reply.2 (update known actor
    ((known actor).after (.addDeployment deployment) reply.1)) := by
  obtain ⟨current, snapshot, launches⟩ := allowed.2
  have unchanged : ∀ answer, (known actor).after (.addDeployment deployment) answer = known actor :=
    fun answer => by cases answer <;> rfl
  intro reply
  rw [unchanged, update_eq_self]
  have effect : Faithful (platform.answer actor input store (.addDeployment deployment)).2 known := by
    simp only [DeploymentPlatform.answer]
    split
    · exact faithful
    rename_i fresh
    refine faithful.launch launches.queued launches.unmoved ?_
    exact not_isSome_iff_eq_none.mp fun present => fresh (.inl present)
  rcases platform.respond_cases actor input store (.addDeployment deployment) with same |
    ⟨error, _, failed⟩ | ⟨error, _, failed⟩
  · simp only [reply, same]
    exact effect
  · simp only [reply, failed]
    exact faithful
  simp only [reply, failed]
  exact effect

theorem faithful_advance (recorded : Recorded store known)
  (allowed : (contract platform).allowed (known actor) (.compareAndSetDeployment expected updated))
  (input : DeploymentInput)
  (undivided : Undivided store actor (.compareAndSetDeployment expected updated) input) :
  let reply := platform.respond actor input store (.compareAndSetDeployment expected updated)
  Faithful reply.2 (update known actor
    ((known actor).after (.compareAndSetDeployment expected updated) reply.1)) := by
  obtain ⟨current, moves⟩ := allowed.2
  have task : updated.task = current.task := by rw [moves.written]; rfl
  have idle : ∀ answer,
    ((known actor).after (.compareAndSetDeployment expected updated) answer).applied = none :=
    fun answer => by cases answer <;> rfl
  have read : ∀ answer,
    ((known actor).after (.compareAndSetDeployment expected updated) answer).current =
      (known actor).current :=
    fun answer => by cases answer <;> rfl
  have effect : ∀ answer, store.acceptsDeployment expected updated →
      Faithful { store with deployments := store.deployments.set updated.task updated }
        (update known actor
          ((known actor).after (.compareAndSetDeployment expected updated) answer)) := by
    intro answer accepted
    have found := current_of_accepted moves (recorded.remembers actor) accepted
    refine faithful.advance recorded.keyed moves found (fun other member reconciling => ?_)
      (idle answer) (read answer)
    refine (undivided other (by rw [task]; exact member) ?_).1
    intro stored present
    rw [task, found] at present
    cases present
    exact reconciling
  have refused : ∀ answer, ¬ store.acceptsDeployment expected updated →
    Faithful store (update known actor
      ((known actor).after (.compareAndSetDeployment expected updated) answer)) := by
    intro answer refusal
    refine faithful.refuse moves (fun _ found => absurd ?_ refusal) recorded.keyed (idle answer)
      (read answer)
    refine ⟨current, by rw [task]; exact found, moves.expected.symm, ?_⟩
    rw [moves.written]
  rcases platform.respond_cases actor input store (.compareAndSetDeployment expected updated) with
    same | ⟨error, struck, failed⟩ | ⟨error, _, failed⟩
  · rw [same]
    simp only [DeploymentPlatform.answer]
    split
    · rename_i accepted
      exact effect _ accepted
    rename_i refusal
    exact refused _ refusal
  · rw [failed]
    refine faithful.refuse moves (fun member found reconciling => ?_) recorded.keyed (idle _) (read _)
    refine (undivided actor (by rw [task]; exact member) ?_).2 error struck
    intro stored present
    rw [task, found] at present
    cases present
    exact reconciling
  rw [failed]
  simp only [DeploymentPlatform.answer]
  split
  · rename_i accepted
    exact effect _ accepted
  rename_i refusal
  exact refused _ refusal

end

theorem outcomes_adhere (platform : DeploymentPlatform) :
  Pool.Adheres platform.component (fun _ => contract platform)
    (fun store known => Recorded store known ∧ Faithful store known) Undivided := by
  rintro store known actor op input ⟨recorded, faithful⟩ undivided allowed
  obtain ⟨foreseen, kept⟩ := recorded_respond recorded allowed input
  refine ⟨_, ⟨rfl, foreseen⟩, kept, ?_⟩
  cases op with
  | compareAndSetEnvironment cause expectedRevision updated =>
    cases cause with
    | none => exact faithful_spares faithful recorded rfl allowed input
    | some task => exact faithful_apply faithful recorded allowed input undivided
  | addDeployment deployment => exact faithful_launch faithful allowed input
  | compareAndSetDeployment expected updated =>
    exact faithful_advance faithful recorded allowed input undivided
  | _ => exact faithful_spares faithful recorded rfl allowed input

end

def DeploymentStore.timesApplied (store : DeploymentStore) (task : DeploymentTask) : Nat :=
  (store.applied.map Prod.fst).count task

variable {task : DeploymentTask}

theorem mem_of_timesApplied {store : DeploymentStore}
  (applied : store.timesApplied task ≠ 0) : ∃ actor, (task, actor) ∈ store.applied := by
  have member := count_pos_iff.mp (Nat.pos_of_ne_zero applied)
  obtain ⟨⟨about, actor⟩, listed, named⟩ := mem_map.mp member
  cases named
  exact ⟨actor, listed⟩

theorem timesApplied_of_mem {store : DeploymentStore}
  (once : (store.applied.map Prod.fst).Nodup) {actor : Nat}
  (member : (task, actor) ∈ store.applied) : store.timesApplied task = 1 :=
  count_eq_one_of_mem once (mem_map_of_mem member)

def Recording (task : DeploymentTask) (program : DeploymentProgram Unit) : Prop :=
  ∃ expected updated next, program = .call (.compareAndSetDeployment expected updated) next ∧
    updated.task = task ∧ updated.status = .succeeded

theorem recording_of_applied {platform : DeploymentPlatform} {known : Known}
  {program : DeploymentProgram Unit} {deployment : Deployment}
  (occupied : known.applied = some deployment)
  (runs : program.wp (contract platform) (fun later _ => later.applied = none) Fails known) :
  Recording deployment.task program := by
  cases program with
  | done value | raised error => cases runs.symm.trans occupied
  | call op next =>
    obtain ⟨⟨unoccupied, allowed⟩, _⟩ := runs
    rcases unoccupied with free | ⟨expected, updated, rfl, succeeded⟩
    · cases free.symm.trans occupied
    obtain ⟨current, moves⟩ := allowed
    refine ⟨expected, updated, next, rfl, ?_, succeeded⟩
    rcases moves.forward with ⟨_, target, _⟩ | ⟨_, target, _⟩ | ⟨_, _, own⟩
    · cases target.symm.trans succeeded
    · cases target.symm.trans succeeded
    cases own.symm.trans occupied
    rw [moves.written]
    rfl

/-- As long as no other controller writes a deployment whose routes are being applied and no
answer is lost between the two writes: the routes of a failed deployment were never applied,
those of a succeeded one exactly once, and a deployment whose routes were applied has
succeeded or its controller is about to record that. -/
theorem outcome_tells_traffic (platform : DeploymentPlatform) (service : Nat → DeploymentService)
  (requests : Nat → List DeploymentRequest) (schedule : List (Nat × DeploymentInput))
  (undivided : (deploymentPool service requests).Along platform.component Undivided schedule) :
  let reached := (deploymentPool service requests).run platform.component schedule
  ∀ task deployment, reached.state.deployments.get? task = some deployment →
    (deployment.status = .failed → reached.state.timesApplied task = 0) ∧
    (deployment.status = .succeeded → reached.state.timesApplied task = 1) ∧
    (reached.state.timesApplied task ≠ 0 →
      deployment.status = .succeeded ∨ ∃ actor, Recording task (reached.thread actor)) := by
  have initial : (deploymentPool service requests).Ready (fun _ => contract platform)
    (fun store known => Recorded store known ∧ Faithful store known)
    (fun _ later _ => later.applied = none) (fun _ => Fails) (fun _ => {}) := by
    refine ⟨⟨recorded_initial, ?_⟩, fun actor => wp_actor platform (service actor) (requests actor)⟩
    exact ⟨fun _ _ => nofun, nodup_nil, fun _ _ => nofun,
      fun _ => ⟨fun _ => nofun, fun _ => nofun, fun _ => nofun⟩⟩
  obtain ⟨known, ⟨recorded, faithful⟩, threads⟩ :=
    run_ready (outcomes_adhere platform) initial schedule undivided
  intro reached task deployment stored
  have outcome : ∀ actor, (task, actor) ∈ reached.state.applied → deployment.status = .succeeded ∨
        deployment.status = .reconciling ∧ (known actor).applied = some deployment := by
    intro actor member
    obtain ⟨again, located, passed⟩ := (faithful.accountable actor).applied task member
    cases stored.symm.trans located
    exact passed.outcome
  refine ⟨fun failed => ?_, fun succeeded => ?_, fun applied => ?_⟩
  · by_contra applied
    obtain ⟨actor, member⟩ := mem_of_timesApplied applied
    rcases outcome actor member with succeeded | ⟨reconciling, _⟩
    · cases failed.symm.trans succeeded
    cases failed.symm.trans reconciling
  · obtain ⟨actor, member⟩ := faithful.recorded task deployment stored succeeded
    exact timesApplied_of_mem faithful.once member
  obtain ⟨actor, member⟩ := mem_of_timesApplied applied
  rcases outcome actor member with succeeded | ⟨_, occupied⟩
  · exact .inl succeeded
  refine .inr ⟨actor, ?_⟩
  rw [← recorded.keyed.deployments task deployment stored]
  exact recording_of_applied occupied (threads actor)

section

def promoteAndProcess : Nat → List DeploymentRequest
  | 0 => (promoteThenRollback 0).take 1
  | _ => [.processOnce, .processOnce]

def promotionTask : DeploymentTask where
  tenantId := "tenant-1"
  deploymentId := "deployment+"

def delivered : DeploymentInput where
  catalog := plainCatalog
  task := some promotionTask

/-- The first controller applies the routes and is not heard of again; the second one is
given the same task. -/
def crashed : List (Nat × DeploymentInput) :=
  List.replicate 12 (0, delivered) ++ List.replicate 10 (1, delivered) ++
    List.replicate 6 (2, delivered)

theorem failed_deployment_took_traffic : ∃ platform service requests schedule,
  let reached := (deploymentPool service requests).run
    (DeploymentPlatform.component platform) schedule
  ∃ task deployment environment,
    reached.state.deployments.get? task = some deployment ∧ deployment.status = .failed ∧
      reached.state.timesApplied task = 1 ∧
      reached.state.environments.get? deployment.environmentKey = some environment ∧
      environment.routes.map (fun route => route.snapshotId) = [deployment.targetSnapshotId] :=
  ⟨plainPlatform, fun _ => {}, promoteAndProcess, crashed, promotionTask, _, _, rfl, rfl, rfl, rfl,
    rfl⟩

def completed : List (Nat × DeploymentInput) :=
  List.replicate 12 (0, delivered) ++ List.replicate 12 (1, delivered)

theorem completed_deployment_took_traffic :
  ((deploymentPool (fun _ => {}) promoteAndProcess).run plainPlatform.component
    completed).state.timesApplied promotionTask = 1 :=
  (outcome_tells_traffic plainPlatform (fun _ => {}) promoteAndProcess completed
    (by
      repeat' apply And.intro
      all_goals first
        | (intro _ _ calls; cases calls; trivial)
        | trivial
        | (intro _ _ calls; cases calls)
      · exact fun _ => nofun
      · refine fun _ => ⟨fun _ found => ?_, fun _ struck => nomatch struck⟩
        cases found
        rfl
      refine fun _ member _ => ⟨?_, fun _ struck => nomatch struck⟩
      cases mem_singleton.mp member
      rfl) promotionTask _ rfl).2.1 rfl

end

end AgentHarness.Deployments
