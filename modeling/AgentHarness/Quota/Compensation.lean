import AgentHarness.Quota.Admitting

/-!
The compensation of an admission: releasing the reservations it was given, one after another.
-/

namespace AgentHarness.Quota

open Collections Interaction Program InMemoryQuotaRepository Dict List

namespace QuotaService

def actives (reservations : List ResourceReservation) : List ResourceReservation :=
  reservations.filter fun reservation => decide (reservation.state = .active)

structure Stored (session : QuotaSession) (handles : List ResourceReservation) : Prop where
  stored : ∀ handle ∈ handles,
    session.repository.reservations.get? (handle.tenantId, handle.reservationId) = some handle
  distinct : (handles.map fun handle => (handle.tenantId, handle.reservationId)).Nodup

structure Released (service : QuotaService) (start later : QuotaSession)
    (handles : List ResourceReservation) : Prop where
  sound : service.Sound later
  reserved : ∀ key, (balance later.repository.counters key).1 =
    (balance start.repository.counters key).1 - service.heldBy (actives handles) key
  committed : ∀ key, (balance later.repository.counters key).2 =
    (balance start.repository.counters key).2
  kept : ∀ stored, (∀ handle ∈ handles, stored ≠ (handle.tenantId, handle.reservationId)) →
    later.repository.reservations.get? stored = start.repository.reservations.get? stored
  closed : ∀ handle ∈ handles, ∀ reservation,
    later.repository.reservations.get? (handle.tenantId, handle.reservationId) =
      some reservation → reservation.state ≠ .active

variable {service : QuotaService} {start session later : QuotaSession}
  {handle : ResourceReservation} {rest : List ResourceReservation}

theorem actives_cons (handle : ResourceReservation) (rest : List ResourceReservation) :
  actives (handle :: rest) =
    if handle.state = .active then handle :: actives rest else actives rest := by
  unfold actives
  rw [filter_cons]
  simp

theorem release_inactive {repository : InMemoryQuotaRepository} (windowKey : String)
  (stored : repository.reservations.get? (handle.tenantId, handle.reservationId) = some handle)
  (inactive : handle.state ≠ .active) :
  repository.release handle.tenantId handle.reservationId .released windowKey =
    (.ok handle, repository) := by
  simp [InMemoryQuotaRepository.release, stored, if_pos inactive]

theorem release_active {repository : InMemoryQuotaRepository} {windowKey : String}
  {counters : Dict CounterKey QuotaCounter}
  (stored : repository.reservations.get? (handle.tenantId, handle.reservationId) = some handle)
  (active : handle.state = .active)
  (settled : settle handle.tenantId handle windowKey 0 handle.constraints repository.counters =
    (none, counters)) :
  repository.release handle.tenantId handle.reservationId .released windowKey =
    (.ok (closing handle .released handle.expiresAt),
      { repository with
        counters
        reservations := repository.reservations.set (handle.tenantId, handle.reservationId)
          (closing handle .released handle.expiresAt) }) := by
  have closes : ¬ (ReservationState.released ≠ .released ∧ ReservationState.released ≠ .expired) :=
    by decide
  have open' : ¬ handle.state ≠ .active := fun other => other active
  unfold InMemoryQuotaRepository.release
  rw [if_neg closes]
  dsimp only
  rw [stored]
  dsimp only
  rw [if_neg open', settled]

theorem runs_release_one (sound : service.Sound session)
  (stored : session.repository.reservations.get? (handle.tenantId, handle.reservationId) =
    some handle) :
  ∃ closed later, service.runs (service.release handle) session = (.ok closed, later) ∧
    Released service session later [handle] := by
  have windowed : ∀ reservation,
    session.repository.reservations.get? (handle.tenantId, handle.reservationId) =
      some reservation →
    service.windowKey handle.resource handle.createdAt =
      service.windowKey reservation.resource reservation.createdAt := by
    intro reservation present
    cases stored.symm.trans present
    rfl
  have ran := service.runs_release session handle false
  have chosen : (if false = true then ReservationState.expired else .released) = .released := rfl
  rw [chosen] at ran
  by_cases active : handle.state = .active
  · have balanced := release_balanced .released sound.balanced windowed
    have finished := settle_finished 0 sound.balanced stored rfl
    cases settled : settle handle.tenantId handle
      (service.windowKey handle.resource handle.createdAt) 0 handle.constraints
      session.repository.counters with
    | mk failed counters =>
      rw [settled] at finished
      cases finished
      have released := release_active stored active settled
      have settles : ∀ key, balance counters key = balance session.repository.counters key +
            if handle.AccountedIn service.windowKey key then (-handle.amount, 0) else 0 := by
        intro key
        have now := settle_balance session.repository.counters key
          (sound.balanced.unrepeated _ handle stored) (congrArg Prod.fst settled)
        rw [settled] at now
        exact now
      rw [released] at ran balanced
      refine ⟨_, _, ran, ⟨⟨balanced, ?_⟩, ?_, ?_, ?_, ?_⟩⟩
      · intro tenantId id present
        apply sound.reservationIds tenantId id
        have keyed : ((session.repository.reservations.set (handle.tenantId, handle.reservationId)
          (closing handle .released handle.expiresAt)).get? (tenantId, id)).isSome := present
        rw [get?_set] at keyed
        split at keyed
        case isTrue same =>
          rw [same, stored]
          rfl
        · exact keyed
      · intro key
        have now := congrArg Prod.fst (settles key)
        rw [actives_cons, if_pos active, heldBy_cons]
        refine now.trans ?_
        split <;> simp [actives, sub_eq_add_neg]
      · intro key
        have now := congrArg Prod.snd (settles key)
        rw [Prod.snd_add] at now
        refine now.trans ?_
        split <;> simp
      · intro other elsewhere
        exact get?_set_other _ _ (elsewhere handle (mem_singleton_self _))
      intro other member reservation present
      rw [mem_singleton.mp member] at present
      have closed : (session.repository.reservations.set (handle.tenantId, handle.reservationId)
        (closing handle .released handle.expiresAt)).get?
          (handle.tenantId, handle.reservationId) = some reservation := present
      rw [get?_set_self] at closed
      cases closed
      rintro ⟨⟩
  rw [release_inactive _ stored active] at ran
  refine ⟨_, _, ran, ⟨sound, ?_, fun _ => rfl, fun _ _ => rfl, ?_⟩⟩
  · intro key
    rw [actives_cons, if_neg active]
    exact (sub_zero _).symm
  intro other member reservation present
  rw [mem_singleton.mp member] at present
  cases stored.symm.trans present
  exact active

theorem Released.next {between : QuotaSession} (first : Released service start between [handle])
  (second : Released service between later rest)
  (apart : ∀ other ∈ rest, (handle.tenantId, handle.reservationId) ≠
    (other.tenantId, other.reservationId)) :
  Released service start later (handle :: rest) where
  sound := second.sound
  reserved key := by
    have one := first.reserved key
    have others := second.reserved key
    rw [others, one, actives_cons, actives_cons]
    split <;> simp [actives, sub_sub]
  committed key := (second.committed key).trans (first.committed key)
  kept stored elsewhere := by
    have others := second.kept stored fun other member => elsewhere other (mem_cons_of_mem _ member)
    have one := first.kept stored fun other member => by
      rw [mem_singleton.mp member]
      exact elsewhere handle mem_cons_self
    exact others.trans one
  closed other member reservation stored := by
    cases mem_cons.mp member with
    | inl here =>
      subst other
      rw [second.kept _ apart] at stored
      exact first.closed handle (mem_singleton_self _) reservation stored
    | inr later => exact second.closed other later reservation stored

theorem Stored.remains (stored : Stored session (handle :: rest))
  (released : Released service session later [handle]) : Stored later rest where
  stored other member := by
    have apart : (other.tenantId, other.reservationId) ≠
      (handle.tenantId, handle.reservationId) := by
      intro same
      apply (nodup_cons.mp stored.distinct).1
      exact mem_map.mpr ⟨other, member, same⟩
    rw [released.kept]
    · exact stored.stored other (mem_cons_of_mem _ member)
    intro single here
    rw [mem_singleton.mp here]
    exact apart
  distinct := (nodup_cons.mp stored.distinct).2

theorem runs_releases (handles : List ResourceReservation) (sound : service.Sound session)
  (stored : Stored session handles) :
  ∃ later, service.runs (each handles fun handle => do
      let _ ← service.release handle
      return ()) session = (.ok (), later) ∧ Released service session later handles := by
  induction handles generalizing session with
  | nil =>
    refine ⟨session, rfl, sound, ?_, fun _ => rfl, fun _ _ => rfl, fun _ member => nomatch member⟩
    intro key
    simp [actives]
  | cons handle rest ih =>
    have here := stored.stored handle mem_cons_self
    obtain ⟨closed, between, ran, released⟩ := runs_release_one sound here
    obtain ⟨later, others, releasedRest⟩ := ih released.sound (stored.remains released)
    refine ⟨later, ?_, released.next releasedRest ?_⟩
    · have done : service.runs (do
          let _ ← service.release handle
          return ()) session = (.ok (), between) := by
        rw [bind_eq, runs_bind, ran]
        rfl
      rw [each, runs_bind, done]
      exact others
    intro other member same
    apply (nodup_cons.mp stored.distinct).1
    exact mem_map.mpr ⟨other, member, same.symm⟩

theorem Released.since {between : QuotaSession} {handles : List ResourceReservation}
  (released : Released service between later handles)
  (same : between.repository = start.repository) : Released service start later handles where
  sound := released.sound
  reserved := same ▸ released.reserved
  committed := same ▸ released.committed
  kept := same ▸ released.kept
  closed := released.closed

theorem Stored.within {handles : List ResourceReservation} (stored : Stored session handles)
  (same : later.repository = session.repository) : Stored later handles where
  stored := same ▸ stored.stored
  distinct := stored.distinct

theorem runs_releaseAndRaise (handles : List ResourceReservation) (error : QuotaError)
  (sound : service.Sound session) (stored : Stored session handles) :
  ∃ later, service.runs (service.releaseAndRaise handles error) session =
    (.error error, later) ∧ Released service session later handles := by
  obtain ⟨later, ran, released⟩ := runs_releases handles sound stored
  refine ⟨later, ?_, released⟩
  rw [releaseAndRaise, runs_bind, ran]
  rfl

end QuotaService

end AgentHarness.Quota
