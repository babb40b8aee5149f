import AgentHarness.Lifecycle.Clients

/-!
Legal holds against running deletions.
-/

namespace AgentHarness.Lifecycle

open Collections Interaction Dict Function List InMemoryDataLifecycleRepository
open Option

namespace DataLifecycle

variable {lifecycle : DataLifecycle}

structure Governed (store : LifecycleStore) : Prop where
  sound : ∀ key job, store.repository.jobs.get? key = some job → SoundJob job
  filed : ∀ key hold, store.repository.holds.get? key = some hold →
    (hold.tenantId, hold.holdId) = key
  stored : ∀ actor tenantId holds, store.surveyed actor = some (tenantId, holds) →
    ∀ hold ∈ holds, (store.repository.holds.get? (tenantId, hold.holdId)).isSome
  listed : ∀ actor tenantId holds, store.surveyed actor = some (tenantId, holds) →
    ∀ holdId hold, store.repository.holds.get? (tenantId, holdId) = some hold →
      hold.active → holdId ∈ holds.map LegalHold.holdId → hold ∈ holds

variable {store : LifecycleStore}

theorem Governed.keep {later : LifecycleStore} (holds : Governed store)
  (sound : ∀ key job, later.repository.jobs.get? key = some job → SoundJob job)
  (same : later.repository.holds = store.repository.holds)
  (fewer : ∀ actor survey, later.surveyed actor = some survey →
    store.surveyed actor = some survey) : Governed later where
  sound
  filed key hold found := holds.filed key hold (same ▸ found)
  stored actor tenantId known survey hold member :=
    same ▸ holds.stored actor tenantId known (fewer actor _ survey) hold member
  listed actor tenantId known survey holdId hold found :=
    holds.listed actor tenantId known (fewer actor _ survey) holdId hold (same ▸ found)

theorem Governed.survey (holds : Governed store) (actor : Nat) (tenantId : String) :
  Governed { store with
    surveyed := update store.surveyed actor
      (some (tenantId, store.repository.listHolds tenantId)) } := by
  refine ⟨holds.sound, holds.filed, ?_, ?_⟩
  · intro other tenant known survey hold member
    dsimp only at survey ⊢
    by_cases same : other = actor
    · subst other
      rw [update_self] at survey
      obtain ⟨rfl, rfl⟩ := Prod.mk.inj (some.inj survey)
      obtain ⟨holdId, found⟩ := mem_listHolds.mp member
      have filed := (Prod.mk.inj (holds.filed _ hold found)).2
      rw [filed, found]
      rfl
    rw [update_of_ne same] at survey
    exact holds.stored other tenant known survey hold member
  intro other tenant known survey holdId hold found active listed
  dsimp only at survey found
  by_cases same : other = actor
  · subst other
    rw [update_self] at survey
    obtain ⟨rfl, rfl⟩ := Prod.mk.inj (some.inj survey)
    exact mem_listHolds.mpr ⟨holdId, found⟩
  rw [update_of_ne same] at survey
  exact holds.listed other tenant known survey holdId hold found active listed

theorem Governed.file (holds : Governed store) (hold : LegalHold)
  (harmless : store.repository.holds.get? (hold.tenantId, hold.holdId) = none ∨
    hold.active = false) :
  Governed { store with
    repository := { store.repository with
      holds := store.repository.holds.set (hold.tenantId, hold.holdId) hold } } := by
  refine ⟨holds.sound, ?_, ?_, ?_⟩
  · exact forall_set rfl holds.filed
  · intro actor tenantId known survey other member
    rw [get?_set]
    split
    · rfl
    exact holds.stored actor tenantId known survey other member
  intro actor tenantId known survey holdId other found active listed
  rw [get?_set] at found
  split at found
  · rename_i same
    cases found
    rcases harmless with fresh | released
    · obtain ⟨before, member, named⟩ := mem_map.mp listed
      have present := holds.stored actor tenantId known survey before member
      rw [named, same, fresh] at present
      cases present
    rw [released] at active
    cases active
  exact holds.listed actor tenantId known survey holdId other found active listed

variable (lifecycle store) in
theorem answer_delete (actor : Nat) (input : LifecycleInput) (adapter : String)
  (job : DataLifecycleJob) :
  ∃ database, (lifecycle.answer actor input store (.adapterDelete adapter job)).2 =
    { store with database } := by
  simp only [answer]
  split
  · exact ⟨store.database, rfl⟩
  split
  · exact ⟨store.database, rfl⟩
  exact ⟨_, rfl⟩

variable {known : Survey}

theorem answer_governed (actor : Nat) (input : LifecycleInput)
  (op : LifecycleOp) (holds : Governed store) (allowed : lifecycle.contract.allowed known op) :
  Governed (lifecycle.answer actor input store op).2 := by
  cases op with
  | addHold hold =>
    rcases store.repository.addHold_cases hold with same | ⟨fresh, filed⟩
    · simp only [answer, same]
      exact holds
    simp only [answer, filed]
    exact holds.file hold (.inl fresh)
  | updateHold hold =>
    rcases store.repository.updateHold_cases hold with same | filed
    · simp only [answer, same]
      exact holds
    simp only [answer, filed]
    exact holds.file hold (.inr allowed)
  | listHolds tenantId => exact holds.survey actor tenantId
  | addJob job =>
    refine holds.keep (fun key other found => ?_)
      (addJob_holds _ _) fun _ _ => id
    rcases addJob_stored found with rfl | before
    · exact allowed
    exact holds.sound key other before
  | compareAndSet expected job =>
    refine holds.keep (fun key other found => ?_)
      (compareAndSet_holds _ _ _) ?_
    · rcases compareAndSet_stored found with rfl | before
      · exact allowed
      exact holds.sound key other before
    intro other survey
    simp only [answer]
    split
    · by_cases same : other = actor
      · subst other
        rw [update_self]
        exact nofun
      rw [update_of_ne same]
      exact id
    exact id
  | generateId kind => exact holds.keep holds.sound rfl fun _ _ => id
  | adapterDelete adapter job =>
    obtain ⟨database, same⟩ := answer_delete lifecycle store actor input adapter job
    rw [same]
    exact holds.keep holds.sound rfl fun _ _ => id
  | clock | resolveScopes _ _ | getPolicy _ | getHold _ _ | findJobByIdempotency _ _
  | getJob _ _ | listRunnable _ | adapterExport _ _ | putExport _ _ | record _ _ => exact holds

def Recorded (store : LifecycleStore) (known : Nat → Survey) : Prop :=
  ∀ actor survey, known actor = some survey → store.surveyed actor = some survey

variable {actor : Nat}

variable (lifecycle) in
theorem answer_learns (input : LifecycleInput) (op : LifecycleOp) (holds : Governed store)
  (recorded : ∀ survey, known = some survey → store.surveyed actor = some survey) :
  ∃ later, lifecycle.contract.learns known op (lifecycle.answer actor input store op).1 later ∧
    ∀ survey, later = some survey →
    (lifecycle.answer actor input store op).2.surveyed actor = some survey := by
  have forget : ∀ survey : String × List LegalHold, none = some survey →
    (lifecycle.answer actor input store op).2.surveyed actor = some survey :=
    nofun
  cases op with
  | listHolds tenantId =>
    exact ⟨_, rfl, fun survey same => by simpa only [answer, update_self] using same⟩
  | resolveScopes tenantId scope => exact ⟨known, ⟨rfl, rfl⟩, recorded⟩
  | compareAndSet expected job =>
    by_cases claim : expected = .queued
    · subst claim
      exact ⟨none, rfl, forget⟩
    refine ⟨known, ?_, ?_⟩
    · cases expected with
      | queued => exact absurd rfl claim
      | running | succeeded | partialFailed | failed => rfl
    simpa only [answer, if_neg claim] using recorded
  | addHold hold =>
    cases refused : (store.repository.addHold hold).1 with
    | error error => exact ⟨none, by simp only [answer, refused, contract], forget⟩
    | ok value => exact ⟨known, by simp only [answer, refused, contract], recorded⟩
  | getHold tenantId holdId =>
    cases refused : store.repository.getHold tenantId holdId with
    | error error => exact ⟨none, by simp only [answer, refused, contract], forget⟩
    | ok value => exact ⟨known, by simp only [answer, refused, contract], recorded⟩
  | updateHold hold =>
    cases refused : (store.repository.updateHold hold).1 with
    | error error => exact ⟨none, by simp only [answer, refused, contract], forget⟩
    | ok value => exact ⟨known, by simp only [answer, refused, contract], recorded⟩
  | addJob job =>
    cases refused : (store.repository.addJob job).1 with
    | error error => exact ⟨none, by simp only [answer, refused, contract], forget⟩
    | ok value => exact ⟨known, by simp only [answer, refused, contract], recorded⟩
  | getJob tenantId jobId =>
    cases refused : store.repository.getJob tenantId jobId with
    | error error => exact ⟨none, by simp only [answer, refused, contract], forget⟩
    | ok job =>
      have sound := holds.sound _ job (getJob_stored refused)
      refine ⟨known, ?_, recorded⟩
      simp only [answer, refused, contract]
      exact ⟨sound, trivial⟩
  | listRunnable limit =>
    refine ⟨known, ⟨fun job listed => ?_, rfl⟩, recorded⟩
    obtain ⟨key, found⟩ := listRunnable_stored listed
    exact holds.sound key job found
  | adapterDelete adapter job =>
    obtain ⟨database, same⟩ := answer_delete lifecycle store actor input adapter job
    cases refused : (lifecycle.answer actor input store (.adapterDelete adapter job)).1 with
    | error error => exact ⟨none, rfl, forget⟩
    | ok count => exact ⟨known, rfl, by rw [same]; exact recorded⟩
  | clock | generateId _ | getPolicy _ | findJobByIdempotency _ _ | adapterExport _ _
  | putExport _ _ | record _ _ => exact ⟨known, rfl, recorded⟩

theorem answer_surveyed_other {actor other : Nat} (distinct : other ≠ actor)
  (input : LifecycleInput) (op : LifecycleOp) :
  (lifecycle.answer actor input store op).2.surveyed other = store.surveyed other := by
  cases op with
  | listHolds tenantId => exact update_of_ne distinct _ _
  | compareAndSet expected job =>
    simp only [answer]
    split
    · exact update_of_ne distinct _ _
    rfl
  | adapterDelete adapter job =>
    obtain ⟨database, same⟩ := answer_delete lifecycle store actor input adapter job
    rw [same]
  | _ => rfl

theorem Recorded.update {later : LifecycleStore} {known : Nat → Survey}
  {learned : Survey} (recorded : Recorded store known)
  (others : ∀ other, other ≠ actor → later.surveyed other = store.surveyed other)
  (own : ∀ survey, learned = some survey → later.surveyed actor = some survey) :
  Recorded later (update known actor learned) := by
  intro other survey knows
  by_cases same : other = actor
  · subst other
    rw [update_self] at knows
    exact own survey knows
  rw [update_of_ne same] at knows
  rw [others other same]
  exact recorded other survey knows

variable (lifecycle) in
theorem component_adheres : Pool.Adheres lifecycle.component (fun _ => lifecycle.contract)
  (fun store known => Governed store ∧ Recorded store known) (fun _ _ _ _ => True) := by
  rintro store known actor op input ⟨holds, recorded⟩ _ allowed
  have others : ∀ other, other ≠ actor →
    (lifecycle.answer actor input store op).2.surveyed other = store.surveyed other :=
    fun other distinct => answer_surveyed_other distinct input op
  have kept := answer_governed actor input op holds allowed
  have elsewhere : ∀ last : LifecycleStore, Governed last →
      Governed { last with database := input.elsewhere last.database } :=
    fun last governed => governed.keep governed.sound rfl fun _ _ => id
  have lost : ∀ (last : LifecycleStore) (survey : String × List LegalHold),
    none = some survey → last.surveyed actor = some survey :=
    nofun
  simp only [component, respond]
  cases struck : input.outage with
  | none =>
    obtain ⟨later, learned, own⟩ := answer_learns lifecycle input op holds (recorded actor)
    exact ⟨later, learned, elsewhere _ kept, recorded.update others own⟩
  | some type =>
    refine ⟨none, by cases op <;> rfl, ?_⟩
    cases input.applied with
    | true => exact ⟨elsewhere _ kept, recorded.update others (lost _)⟩
    | false => exact ⟨elsewhere _ holds, recorded.update (fun _ _ => rfl) (lost _)⟩

variable (lifecycle) in
theorem pool_ready (requests : Nat → List LifecycleRequest) :
  (lifecycle.pool requests).Ready (fun _ => lifecycle.contract)
    (fun store known => Governed store ∧ Recorded store known)
    (fun _ _ _ => True) (fun _ _ _ => True) (fun _ => none) := by
  refine ⟨⟨⟨?_, ?_, ?_, ?_⟩, ?_⟩, fun actor => actor_harmless (requests actor) none⟩
  · intro _ _ impossible; cases impossible
  · intro _ _ impossible; cases impossible
  · intro _ _ _ impossible; cases impossible
  · intro _ _ _ impossible; cases impossible
  intro _ _ impossible; cases impossible

section

def person : LifecycleScope := { kind := .user, subjectId := "user-1" }

end

end DataLifecycle

end AgentHarness.Lifecycle
