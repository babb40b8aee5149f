import AgentHarness.Quota.Reserving

/-!
How far an admission is.
-/

namespace AgentHarness.Quota

open Collections Interaction InMemoryQuotaRepository Dict List QuotaSession Option

namespace QuotaService

section

variable {service : QuotaService} {repository other : InMemoryQuotaRepository}
  {reservation : ResourceReservation} {windowKey : String} (constraints : List QuotaConstraint)

theorem refusal_congr (counters : ∀ scopeKey,
    other.counters.get? (counterKey reservation.tenantId reservation.resource windowKey scopeKey) =
    repository.counters.get?
    (counterKey reservation.tenantId reservation.resource windowKey scopeKey)) :
  refusal other.counters reservation windowKey constraints =
    refusal repository.counters reservation windowKey constraints := by
  induction constraints with
  | nil => rfl
  | cons constraint rest ih =>
    have same : counterOr other.counters (counterKey reservation.tenantId reservation.resource
          windowKey constraint.scopeKey) constraint.limit =
        counterOr repository.counters (counterKey reservation.tenantId reservation.resource
          windowKey constraint.scopeKey) constraint.limit := by
      unfold counterOr
      rw [counters]
    rw [refusal, refusal, same, ih]

theorem answer_congr
  (index : other.idempotency.get? (reservation.tenantId, reservation.idempotencyKey) =
    repository.idempotency.get? (reservation.tenantId, reservation.idempotencyKey))
  (stored : ∀ id,
    repository.idempotency.get? (reservation.tenantId, reservation.idempotencyKey) = some id →
    other.reservations.get? (reservation.tenantId, id) =
    repository.reservations.get? (reservation.tenantId, id))
  (counters : ∀ scopeKey,
    other.counters.get? (counterKey reservation.tenantId reservation.resource windowKey scopeKey) =
    repository.counters.get?
    (counterKey reservation.tenantId reservation.resource windowKey scopeKey)) :
  (other.reserve reservation windowKey).1 = (repository.reserve reservation windowKey).1 := by
  cases indexed : repository.idempotency.get?
    (reservation.tenantId, reservation.idempotencyKey) with
  | some id =>
    have same := stored id indexed
    simp only [InMemoryQuotaRepository.reserve, index, indexed, same]
    cases repository.reservations.get? (reservation.tenantId, id) with
    | none => rfl
    | some existing =>
      dsimp only
      split <;> rfl
  | none =>
    have same := refusal_congr reservation.constraints counters
    simp only [InMemoryQuotaRepository.reserve, index, indexed, same]
    cases refusal repository.counters reservation windowKey reservation.constraints with
    | some error | none => rfl

theorem hold_other {key : CounterKey}
  (counters : Dict CounterKey QuotaCounter) (other : reservation.resource ≠ key.resource) :
  (hold reservation windowKey constraints counters).get? key = counters.get? key := by
  induction constraints generalizing counters with
  | nil => rfl
  | cons constraint rest ih =>
    rw [hold, ih, get?_set_other]
    rintro rfl
    exact other rfl

end

section

variable (service : QuotaService)

def heldBy (reservations : List ResourceReservation) (key : CounterKey) : Int :=
  (reservations.map fun reservation =>
    if reservation.AccountedIn service.windowKey key then reservation.amount else 0).sum

@[simp] theorem heldBy_nil (key : CounterKey) : service.heldBy [] key = 0 := rfl

@[simp] theorem heldBy_cons (reservation : ResourceReservation)
  (rest : List ResourceReservation) (key : CounterKey) :
  service.heldBy (reservation :: rest) key =
    (if reservation.AccountedIn service.windowKey key then reservation.amount else 0) +
      service.heldBy rest key := rfl

theorem heldBy_append (first second : List ResourceReservation) (key : CounterKey) :
  service.heldBy (first ++ second) key = service.heldBy first key + service.heldBy second key := by
  unfold heldBy
  rw [map_append, sum_append]

end

structure Progress (service : QuotaService) (start later : QuotaSession) (calls : Nat)
    (made : List ResourceReservation) (served : List ReserveRequest) : Prop where
  begun : service.Sound start
  sound : service.Sound later
  readings : later.readings = start.readings
  ticks : later.ticks = start.ticks + calls
  generated : later.store.generated = start.store.generated + calls
  policies : later.repository.policies = start.repository.policies
  kept : ∀ stored reservation, start.repository.reservations.get? stored = some reservation →
    later.repository.reservations.get? stored = some reservation
  only : ∀ stored reservation, later.repository.reservations.get? stored = some reservation →
    start.repository.reservations.get? stored = some reservation ∨
      reservation ∈ made ∧ stored = (reservation.tenantId, reservation.reservationId)
  new : ∀ reservation ∈ made, reservation.state = .active ∧
    start.repository.reservations.get? (reservation.tenantId, reservation.reservationId) = none ∧
    later.repository.reservations.get? (reservation.tenantId, reservation.reservationId) =
      some reservation
  distinct : (made.map fun reservation => (reservation.tenantId, reservation.reservationId)).Nodup
  reserved : ∀ key, (balance later.repository.counters key).1 =
    (balance start.repository.counters key).1 + service.heldBy made key
  committed : ∀ key, (balance later.repository.counters key).2 =
    (balance start.repository.counters key).2
  index : ∀ tenantId key,
    (∀ request ∈ served, (request.tenantId, request.idempotencyKey) ≠ (tenantId, key)) →
      later.repository.idempotency.get? (tenantId, key) =
        start.repository.idempotency.get? (tenantId, key)
  counters : ∀ key, (∀ request ∈ served, request.resource ≠ key.resource) →
    later.repository.counters.get? key = start.repository.counters.get? key
  found : ∀ request ∈ served, (∀ existing,
      start.repository.getReservation request.tenantId request.idempotencyKey = some existing →
        later.repository.getReservation request.tenantId request.idempotencyKey = some existing) ∧
    (start.repository.getReservation request.tenantId request.idempotencyKey = none →
      ∃ reservation ∈ made, reservation.resource = request.resource ∧
        reservation.amount = request.amount ∧
        later.repository.getReservation request.tenantId request.idempotencyKey = some reservation)

section

variable {service : QuotaService} {start later : QuotaSession} {calls : Nat}
  {made : List ResourceReservation} {served : List ReserveRequest} {request : ReserveRequest}

theorem progress_start (sound : service.Sound start) : Progress service start start 0 [] [] where
  begun := sound
  sound
  readings := rfl
  ticks := rfl
  generated := rfl
  policies := rfl
  kept _ _ stored := stored
  only _ _ stored := .inl stored
  new _ member := nomatch member
  distinct := nodup_nil
  reserved _ := (Int.add_zero _).symm
  committed _ := rfl
  index _ _ _ := rfl
  counters _ _ := rfl
  found _ member := nomatch member

structure Apart (served : List ReserveRequest) (request : ReserveRequest) : Prop where
  keys : ∀ other ∈ served,
    (other.tenantId, other.idempotencyKey) ≠ (request.tenantId, request.idempotencyKey)
  resources : ∀ other ∈ served, other.resource ≠ request.resource

section

variable (progress : Progress service start later calls made served)

include progress

theorem Progress.getReservation (apart : Apart served request) :
  later.repository.getReservation request.tenantId request.idempotencyKey =
    start.repository.getReservation request.tenantId request.idempotencyKey := by
  unfold InMemoryQuotaRepository.getReservation
  rw [progress.index _ _ apart.keys]
  cases indexed : start.repository.idempotency.get?
    (request.tenantId, request.idempotencyKey) with
  | none => rfl
  | some id =>
    have present := progress.begun.balanced.replayable _ _ id indexed
    obtain ⟨existing, stored⟩ := isSome_iff_exists.mp present
    exact (progress.kept _ existing stored).trans stored.symm

theorem Progress.answer (apart : Apart served request) :
  (service.runs (service.reserve request) later).1 =
    (service.runs (service.reserve request) (start.skip calls)).1 := by
  by_cases long : 1 ≤ request.amount
  · have built : service.drawn later request = service.drawn (start.skip calls) request := by
      unfold drawn constraintsFor listPolicies skip
      rw [progress.generated, progress.readings, progress.ticks, progress.policies]
    rw [service.runs_reserve later long, service.runs_reserve (start.skip calls) long, built]
    cases checked : (service.drawn (start.skip calls) request).validated with
    | error error => rfl
    | ok reservation =>
      obtain ⟨rfl, _⟩ := ResourceReservation.validated_ok checked
      rw [progress.readings, progress.ticks]
      apply answer_congr
      · exact progress.index _ _ apart.keys
      · intro id indexed
        have present := progress.begun.balanced.replayable _ _ id indexed
        obtain ⟨existing, stored⟩ := isSome_iff_exists.mp present
        exact (progress.kept _ existing stored).trans stored.symm
      intro scopeKey
      exact progress.counters _ apart.resources
  rw [service.runs_reserve_short later (by omega),
    service.runs_reserve_short (start.skip calls) (by omega)]

theorem Progress.finds (apart : Apart served request) {existing : ResourceReservation}
  (stored : later.repository.getReservation request.tenantId request.idempotencyKey =
    some existing) : Progress service start later calls made (served ++ [request]) where
  begun := progress.begun
  sound := progress.sound
  readings := progress.readings
  ticks := progress.ticks
  generated := progress.generated
  policies := progress.policies
  kept := progress.kept
  only := progress.only
  new := progress.new
  distinct := progress.distinct
  reserved := progress.reserved
  committed := progress.committed
  index tenantId key apart :=
    progress.index tenantId key fun other member => apart other (mem_append_left _ member)
  counters key apart :=
    progress.counters key fun other member => apart other (mem_append_left _ member)
  found other member := by
    cases mem_append.mp member with
    | inl before => exact progress.found other before
    | inr last =>
      rw [mem_singleton.mp last]
      have before := progress.getReservation apart
      rw [stored] at before
      constructor
      · intro known also
        rw [also] at before
        rw [stored]
        exact before
      intro missing
      rw [missing] at before
      cases before

theorem Progress.skips : Progress service start (later.skip 1) (calls + 1) made served where
  begun := progress.begun
  sound := progress.sound.skip 1
  readings := progress.readings
  ticks := by
    have before := progress.ticks
    dsimp only [skip]
    omega
  generated := by
    have before := progress.generated
    dsimp only [skip]
    omega
  policies := progress.policies
  kept := progress.kept
  only := progress.only
  new := progress.new
  distinct := progress.distinct
  reserved := progress.reserved
  committed := progress.committed
  index := progress.index
  counters := progress.counters
  found := progress.found

theorem Progress.makes (apart : Apart served request)
  (missing : later.repository.getReservation request.tenantId request.idempotencyKey = none)
  (sound : service.Sound ((later.skip 1).withRepository (admitting later.repository
    (service.drawn later request)
    (service.windowKey request.resource (later.readings later.ticks))))) :
  Progress service start
    ((later.skip 1).withRepository (admitting later.repository (service.drawn later request)
    (service.windowKey request.resource (later.readings later.ticks))))
    (calls + 1) (made ++ [service.drawn later request]) (served ++ [request]) := by
  have fresh := progress.sound.fresh request.tenantId
  have set : ∀ stored, ((later.skip 1).withRepository (admitting later.repository
    (service.drawn later request) (service.windowKey request.resource
      (later.readings later.ticks)))).repository.reservations.get? stored =
    if stored = (request.tenantId, service.idGenerator "quota" later.store.generated) then
      some (service.drawn later request)
    else later.repository.reservations.get? stored := fun _ => get?_set _ _ _ _
  have holds : ∀ key, balance ((later.skip 1).withRepository (admitting later.repository
    (service.drawn later request) (service.windowKey request.resource
      (later.readings later.ticks)))).repository.counters key =
    balance later.repository.counters key +
      if (service.drawn later request).AccountedIn service.windowKey key then
        (request.amount, 0) else 0 :=
    fun key => hold_balance _ key (drawn_scopeKeys later request)
  have earlier : ∀ stored reservation,
    later.repository.reservations.get? stored = some reservation →
      stored ≠ (request.tenantId, service.idGenerator "quota" later.store.generated) := by
    intro stored reservation present same
    rw [same, fresh] at present
    cases present
  constructor
  · exact progress.begun
  · exact sound
  · exact progress.readings
  · exact progress.skips.ticks
  · exact progress.skips.generated
  · exact progress.policies
  · intro stored reservation present
    have before := progress.kept stored reservation present
    rw [set, if_neg (earlier stored reservation before)]
    exact before
  · intro stored reservation present
    rw [set] at present
    split at present
    case isTrue same =>
      cases present
      exact .inr ⟨mem_append_right _ (mem_singleton_self _), same⟩
    · exact (progress.only stored reservation present).imp_right fun before =>
        ⟨mem_append_left _ before.1, before.2⟩
  · intro reservation member
    cases mem_append.mp member with
    | inl before =>
      obtain ⟨active, absent, stored⟩ := progress.new reservation before
      refine ⟨active, absent, ?_⟩
      rw [set, if_neg (earlier _ reservation stored)]
      exact stored
    | inr last =>
      rw [mem_singleton.mp last]
      refine ⟨rfl, ?_, ?_⟩
      · cases present : start.repository.reservations.get?
          (request.tenantId, service.idGenerator "quota" later.store.generated) with
        | none => exact present
        | some known => exact absurd rfl (earlier _ known (progress.kept _ known present))
      rw [set]
      exact if_pos rfl
  · rw [map_append, nodup_append]
    refine ⟨progress.distinct, nodup_singleton _, ?_⟩
    intro first member second last same
    obtain ⟨reservation, before, rfl⟩ := mem_map.mp member
    rw [mem_singleton.mp last] at same
    exact earlier _ reservation (progress.new reservation before).2.2 same
  · intro key
    rw [holds, Prod.fst_add, progress.reserved, heldBy_append, heldBy_cons, heldBy_nil]
    have amount : (service.drawn later request).amount = request.amount := rfl
    rw [amount]
    split <;> simp [add_assoc]
  · intro key
    rw [holds, Prod.snd_add, progress.committed]
    split <;> simp
  · intro tenantId key others
    have elsewhere : (tenantId, key) ≠ (request.tenantId, request.idempotencyKey) :=
      Ne.symm (others request (mem_append_right _ (mem_singleton_self _)))
    have before := progress.index tenantId key fun other member =>
      others other (mem_append_left _ member)
    exact (get?_set_other _ _ elsewhere).trans before
  · intro key others
    have elsewhere : request.resource ≠ key.resource :=
      others request (mem_append_right _ (mem_singleton_self _))
    have before := progress.counters key fun other member => others other (mem_append_left _ member)
    exact (hold_other _ _ elsewhere).trans before
  intro other member
  have index : ∀ tenantId key, ((later.skip 1).withRepository (admitting later.repository
    (service.drawn later request) (service.windowKey request.resource
      (later.readings later.ticks)))).repository.idempotency.get? (tenantId, key) =
    if (tenantId, key) = (request.tenantId, request.idempotencyKey) then
      some (service.idGenerator "quota" later.store.generated)
    else later.repository.idempotency.get? (tenantId, key) := fun _ _ => get?_set _ _ _ _
  cases mem_append.mp member with
  | inl before =>
    have keeps : ∀ reservation,
      later.repository.getReservation other.tenantId other.idempotencyKey = some reservation →
        ((later.skip 1).withRepository (admitting later.repository
          (service.drawn later request) (service.windowKey request.resource
            (later.readings later.ticks)))).repository.getReservation other.tenantId
              other.idempotencyKey = some reservation := by
      intro reservation present
      unfold InMemoryQuotaRepository.getReservation at present ⊢
      rw [index, if_neg (apart.keys other before)]
      cases indexed : later.repository.idempotency.get?
        (other.tenantId, other.idempotencyKey) with
      | none =>
        rw [indexed] at present
        cases present
      | some id =>
        rw [indexed] at present
        dsimp only at present ⊢
        rw [set, if_neg (earlier _ reservation present)]
        exact present
    obtain ⟨first, second⟩ := progress.found other before
    refine ⟨fun existing stored => keeps existing (first existing stored), ?_⟩
    intro absent
    obtain ⟨reservation, created, resource, amount, stored⟩ := second absent
    exact ⟨reservation, mem_append_left _ created, resource, amount, keeps reservation stored⟩
  | inr last =>
    rw [mem_singleton.mp last]
    have before := progress.getReservation apart
    rw [missing] at before
    constructor
    · intro existing stored
      rw [stored] at before
      cases before
    intro _
    refine ⟨service.drawn later request, mem_append_right _ (mem_singleton_self _), rfl, rfl, ?_⟩
    unfold InMemoryQuotaRepository.getReservation
    rw [index, if_pos rfl]
    dsimp only
    rw [set]
    exact if_pos rfl

end

end

end QuotaService

end AgentHarness.Quota
