import AgentHarness.Quota.Postgres

/-!
The two quota repositories against each other.

They agree on every history in which no counter has another limit than the constraint that is
checked against it, no active reservation is released at another time than its expiry, and no call
asks for what only one of the two refuses.
-/

namespace AgentHarness.Quota

open Collections InMemoryQuotaRepository Dict List Option
open PostgresQuotaRepository (lockedCounter lockEach addEach settleEach sortedConstraints flushes)

section

variable {reservation : ResourceReservation} {windowKey tenantId : String}
  {counters other : Dict CounterKey QuotaCounter} {constraint : QuotaConstraint}
  {constraints : List QuotaConstraint} {key : CounterKey}

abbrev keyOf (reservation : ResourceReservation) (windowKey : String)
  (constraint : QuotaConstraint) : CounterKey :=
  counterKey reservation.tenantId reservation.resource windowKey constraint.scopeKey

theorem keyOf_inj {first second : QuotaConstraint}
  (same : keyOf reservation windowKey first = keyOf reservation windowKey second) :
  first.scopeKey = second.scopeKey := congrArg CounterKey.scopeKey same

def Ascending (constraints : List QuotaConstraint) : Prop :=
  constraints.Pairwise fun first second => first.scopeKey < second.scopeKey

instance (constraints : List QuotaConstraint) : Decidable (Ascending constraints) :=
  inferInstanceAs (Decidable (List.Pairwise _ _))

theorem sortedConstraints_ascending (ascending : Ascending reservation.constraints) :
  sortedConstraints reservation = reservation.constraints :=
  List.Pairwise.insertionSort_eq (List.Pairwise.imp (fun less => String.lt_asymm less) ascending)

theorem keys_apart {rest : List QuotaConstraint}
  (ascending : Ascending (constraint :: rest)) {later : QuotaConstraint} (member : later ∈ rest) :
  keyOf reservation windowKey later ≠ keyOf reservation windowKey constraint := by
  intro same
  have less := rel_of_pairwise_cons ascending member
  rw [keyOf_inj same] at less
  exact String.lt_irrefl _ less

theorem hold_untouched
  (apart : ∀ constraint ∈ constraints, key ≠ keyOf reservation windowKey constraint) :
  (hold reservation windowKey constraints counters).get? key = counters.get? key := by
  induction constraints generalizing counters with
  | nil => rfl
  | cons constraint rest ih =>
    obtain ⟨here, there⟩ := forall_mem_cons.mp apart
    rw [hold, ih there, get?_set_other _ _ here]

theorem hold_touched (ascending : Ascending constraints) (member : constraint ∈ constraints) :
  (hold reservation windowKey constraints counters).get? (keyOf reservation windowKey constraint) =
    some
      { counterOr counters (keyOf reservation windowKey constraint) constraint.limit with
        reserved := (counterOr counters (keyOf reservation windowKey constraint)
          constraint.limit).reserved + reservation.amount
        limit := some constraint.limit } := by
  induction constraints generalizing counters with
  | nil => cases member
  | cons first rest ih =>
    rw [hold]
    cases mem_cons.mp member with
    | inl same =>
      subst same
      rw [hold_untouched fun later member => (keys_apart ascending member).symm, get?_set_self]
    | inr later =>
      have apart : keyOf reservation windowKey constraint ≠ keyOf reservation windowKey first :=
        keys_apart ascending later
      rw [ih ascending.tail later]
      unfold counterOr
      rw [get?_set_other _ _ apart]

def SameCounters (counters other : Dict CounterKey QuotaCounter) : Prop :=
  ∀ key, other.get? key = counters.get? key

abbrev Storable (key : CounterKey) (constraint : QuotaConstraint) : Prop :=
  key.fits = true ∧ fitsBigInteger constraint.limit = true

theorem lockedCounter_eq (storable : Storable key constraint) :
    lockedCounter counters key constraint.limit = .ok (counterOr counters key constraint.limit,
        match counters.get? key with
        | some _ => counters
        | none => counters.set key { reserved := 0, committed := 0, limit := some constraint.limit }) := by
  have fits : ¬ (key.fits = false ∨ fitsBigInteger constraint.limit = false) := by
    simp [storable.1, storable.2]
  unfold lockedCounter counterOr
  rw [if_neg fits]
  cases counters.get? key with
  | none | some row => rfl

theorem lockEach_eq (ascending : Ascending constraints) (storable : ∀ constraint ∈ constraints,
    Storable (keyOf reservation windowKey constraint) constraint)
  (same : ∀ constraint ∈ constraints, other.get? (keyOf reservation windowKey constraint) =
    counters.get? (keyOf reservation windowKey constraint)) :
  (∃ error, refusal counters reservation windowKey constraints = some error ∧
    lockEach reservation windowKey constraints other = .error (.quota error)) ∨
    ∃ locked, refusal counters reservation windowKey constraints = none ∧
    lockEach reservation windowKey constraints other = .ok locked ∧
    (∀ key, (∀ constraint ∈ constraints, key ≠ keyOf reservation windowKey constraint) →
    locked.get? key = other.get? key) ∧
    ∀ constraint ∈ constraints, locked.get? (keyOf reservation windowKey constraint) =
    some (counterOr counters (keyOf reservation windowKey constraint) constraint.limit) := by
  induction constraints generalizing other with
  | nil => exact .inr ⟨other, rfl, rfl, fun _ _ => rfl, fun _ member => nomatch member⟩
  | cons first rest ih =>
    obtain ⟨storesHere, storesThere⟩ := forall_mem_cons.mp storable
    obtain ⟨sameHere, sameThere⟩ := forall_mem_cons.mp same
    have read : counterOr other (keyOf reservation windowKey first) first.limit =
      counterOr counters (keyOf reservation windowKey first) first.limit := by
      unfold counterOr
      rw [sameHere]
    rw [refusal, lockEach, lockedCounter_eq storesHere, read]
    dsimp only
    split
    · exact .inl ⟨_, rfl, rfl⟩
    have later : ∀ key, key ≠ keyOf reservation windowKey first →
        (match other.get? (keyOf reservation windowKey first) with
          | some _ => other
          | none => other.set (keyOf reservation windowKey first)
              { reserved := 0, committed := 0, limit := some first.limit }).get? key =
          other.get? key := by
      intro key apart
      split
      · rfl
      exact get?_set_other _ _ apart
    have here : (match other.get? (keyOf reservation windowKey first) with
          | some _ => other
          | none => other.set (keyOf reservation windowKey first)
              { reserved := 0, committed := 0, limit := some first.limit }).get?
            (keyOf reservation windowKey first) =
          some (counterOr counters (keyOf reservation windowKey first) first.limit) := by
      rw [← read]
      unfold counterOr
      cases found : other.get? (keyOf reservation windowKey first) with
      | some row => exact found
      | none => exact get?_set_self _ _ _
    have step := ih ascending.tail storesThere fun constraint member =>
      (later _ (keys_apart ascending member)).trans (sameThere constraint member)
    rcases step with refused | ⟨locked, room, ran, others, own⟩
    · exact .inl refused
    refine .inr ⟨locked, room, ran, ?_, ?_⟩
    · intro key apart
      obtain ⟨one, rest⟩ := forall_mem_cons.mp apart
      exact (others key rest).trans (later key one)
    refine forall_mem_cons.mpr ⟨?_, own⟩
    rw [others _ fun constraint member => (keys_apart ascending member).symm]
    exact here

theorem addEach_untouched
  (apart : ∀ constraint ∈ constraints, key ≠ keyOf reservation windowKey constraint) :
  (addEach reservation windowKey constraints counters).get? key = counters.get? key := by
  induction constraints generalizing counters with
  | nil => rfl
  | cons constraint rest ih =>
    obtain ⟨here, there⟩ := forall_mem_cons.mp apart
    rw [addEach]
    split
    · exact ih there
    rw [ih there, get?_set_other _ _ here]

theorem addEach_touched (ascending : Ascending constraints)
  (member : constraint ∈ constraints) {counter : QuotaCounter}
  (found : counters.get? (keyOf reservation windowKey constraint) = some counter) :
  (addEach reservation windowKey constraints counters).get?
    (keyOf reservation windowKey constraint) =
    some { counter with reserved := counter.reserved + reservation.amount } := by
  induction constraints generalizing counters with
  | nil => cases member
  | cons first rest ih =>
    rw [addEach]
    cases mem_cons.mp member with
    | inl same =>
      subst same
      rw [found]
      rw [addEach_untouched fun later member => (keys_apart ascending member).symm, get?_set_self]
    | inr later =>
      have apart : keyOf reservation windowKey constraint ≠ keyOf reservation windowKey first :=
        keys_apart ascending later
      split
      · exact ih ascending.tail later found
      exact ih ascending.tail later ((get?_set_other _ _ apart).trans found)

theorem reserve_counters (ascending : Ascending constraints) (storable : ∀ constraint ∈ constraints,
    Storable (keyOf reservation windowKey constraint) constraint)
  (limits : ∀ constraint ∈ constraints, ∀ counter,
    counters.get? (keyOf reservation windowKey constraint) = some counter →
    counter.limit = some constraint.limit)
  (same : SameCounters counters other)
  (room : refusal counters reservation windowKey constraints = none) :
  ∃ locked, lockEach reservation windowKey constraints other = .ok locked ∧
    SameCounters (hold reservation windowKey constraints counters)
    (addEach reservation windowKey constraints locked) := by
  rcases lockEach_eq ascending storable fun constraint _ => same _ with
    ⟨error, refused, _⟩ | ⟨locked, _, ran, others, own⟩
  · rw [room] at refused
    cases refused
  refine ⟨locked, ran, ?_⟩
  intro key
  by_cases apart : ∀ constraint ∈ constraints, key ≠ keyOf reservation windowKey constraint
  · rw [addEach_untouched apart, others key apart, hold_untouched apart, same]
  push Not at apart
  obtain ⟨constraint, member, rfl⟩ := apart
  rw [addEach_touched ascending member (own constraint member), hold_touched ascending member]
  congr 2
  unfold counterOr
  cases found : counters.get? (keyOf reservation windowKey constraint) with
  | none => rfl
  | some counter =>
    rw [getD_some]
    exact limits constraint member counter found

theorem settle_counters (committed : Int) (storable : ∀ constraint ∈ constraints, Storable
    (counterKey tenantId reservation.resource windowKey constraint.scopeKey) constraint)
  (present : ∀ constraint ∈ constraints, (counters.get?
    (counterKey tenantId reservation.resource windowKey constraint.scopeKey)).isSome)
  (same : SameCounters counters other) :
  ∃ settled later, settle tenantId reservation windowKey committed constraints counters =
    (none, settled) ∧
    settleEach tenantId reservation windowKey committed constraints other = .ok later ∧
    SameCounters settled later := by
  induction constraints generalizing counters other with
  | nil => exact ⟨counters, other, rfl, rfl, same⟩
  | cons first rest ih =>
    obtain ⟨storesHere, storesThere⟩ := forall_mem_cons.mp storable
    obtain ⟨presentHere, presentThere⟩ := forall_mem_cons.mp present
    obtain ⟨counter, found⟩ := isSome_iff_exists.mp presentHere
    have also := (same _).trans found
    rw [settle, settleEach, lockedCounter_eq storesHere, found, also]
    have read : counterOr other (counterKey tenantId reservation.resource windowKey
      first.scopeKey) first.limit = counter := by
      unfold counterOr
      rw [also, getD_some]
    rw [read]
    refine ih storesThere ?_ ?_
    · intro constraint member
      rw [get?_set]
      split
      · rfl
      exact presentThere constraint member
    intro key
    rw [get?_set, get?_set, same]

end

/-- What both repositories do alike, and where only the one over Postgres refuses. -/
def Alike (repository : InMemoryQuotaRepository) (physical : Physical) (call : RepositoryCall) :
  Prop :=
  call.sendable = true ∧
    match call with
    | .replacePolicy policy expectedRevision =>
      (repository.replacePolicy policy expectedRevision).1.toOption.isSome → policy.fits = true
    | .reserve reservation windowKey =>
      repository.idempotency.get? (reservation.tenantId, reservation.idempotencyKey) = none →
        Ascending reservation.constraints ∧
        (∀ constraint ∈ reservation.constraints,
          Storable (keyOf reservation windowKey constraint) constraint) ∧
        (refusal repository.counters reservation windowKey reservation.constraints = none →
          (∀ constraint ∈ reservation.constraints,
            ∀ counter ∈ repository.counters.get? (keyOf reservation windowKey constraint),
              counter.limit = some constraint.limit) ∧
          repository.reservations.get? (reservation.tenantId, reservation.reservationId) = none ∧
          reservation.fits = true ∧
          flushes (hold reservation windowKey reservation.constraints repository.counters) = true)
    | .commit tenantId reservationId amount windowKey ledger =>
      ∀ reservation ∈ repository.reservations.get? (tenantId, reservationId),
        reservation.state = .active → 0 ≤ amount →
          (∀ constraint ∈ reservation.constraints, Storable (counterKey tenantId
            reservation.resource windowKey constraint.scopeKey) constraint ∧
              (repository.counters.get? (counterKey tenantId reservation.resource windowKey
                constraint.scopeKey)).isSome) ∧
          ledger.tenantId = tenantId ∧
          repository.ledger.get? (tenantId, ledger.entryId) = none ∧ ledger.fits = true ∧
          flushes (settle tenantId reservation windowKey amount reservation.constraints
            repository.counters).2 = true
    | .release tenantId reservationId state windowKey =>
      (state = .released ∨ state = .expired) ∧
        ∀ reservation ∈ repository.reservations.get? (tenantId, reservationId),
          reservation.state = .active →
            physical.now = reservation.expiresAt ∧
            (∀ constraint ∈ reservation.constraints, Storable (counterKey tenantId
              reservation.resource windowKey constraint.scopeKey) constraint ∧
                (repository.counters.get? (counterKey tenantId reservation.resource windowKey
                  constraint.scopeKey)).isSome) ∧
            flushes (settle tenantId reservation windowKey 0 reservation.constraints
              repository.counters).2 = true
    | .addLedger entry => entry.fits = true
    | .listExpiredActive now _ =>
      (repository.reservations.values.filter fun reservation =>
        decide (reservation.state = .active ∧ reservation.expiresAt ≤ now)).Pairwise
          fun first second => first.expiresAt < second.expiresAt
    | _ => True

instance (repository : InMemoryQuotaRepository) (physical : Physical) (call : RepositoryCall) :
  Decidable (Alike repository physical call) := by
  cases call <;> (unfold Alike; infer_instance)

/-- Every call of a history meets the condition in the state that it finds in memory. -/
def AlikeAlong (repository : InMemoryQuotaRepository) : List (Physical × RepositoryCall) → Prop
  | [] => True
  | (physical, call) :: rest =>
    Alike repository physical call ∧ AlikeAlong (repository.serve call).2 rest

instance decidableAlikeAlong (repository : InMemoryQuotaRepository) :
    (calls : List (Physical × RepositoryCall)) → Decidable (AlikeAlong repository calls)
  | [] => isTrue trivial
  | (physical, call) :: rest =>
    have := decidableAlikeAlong (repository.serve call).2 rest
    inferInstanceAs (Decidable (Alike repository physical call ∧ _))

def InMemoryQuotaRepository.serveAll (repository : InMemoryQuotaRepository) :
    List RepositoryCall → List (Except QuotaError RepositoryAnswer) × InMemoryQuotaRepository
  | [] => ([], repository)
  | call :: rest =>
    ((repository.serve call).1 :: ((repository.serve call).2.serveAll rest).1,
      ((repository.serve call).2.serveAll rest).2)

def PostgresQuotaRepository.serveAll (repository : PostgresQuotaRepository) :
    List (Physical × RepositoryCall) →
      List (Except PostgresError RepositoryAnswer) × PostgresQuotaRepository
  | [] => ([], repository)
  | (physical, call) :: rest =>
    ((repository.serve physical call).1 :: ((repository.serve physical call).2.serveAll rest).1,
      ((repository.serve physical call).2.serveAll rest).2)

def SameAnswer : RepositoryAnswer → RepositoryAnswer → Prop
  | .policies listed, .policies other => other.Perm listed
  | .counters listed, .counters other => other.Perm listed
  | .reservations listed, .reservations other => other.Perm listed
  | .entries listed, .entries other => other.Perm listed
  | .policy stored, .policy other => other = stored
  | .reservation stored, .reservation other => other = stored
  | .found stored, .found other => other = stored
  | .expired listed, .expired other => other = listed
  | .done, .done => True
  | _, _ => False

def SameOutcome : Except QuotaError RepositoryAnswer → Except PostgresError RepositoryAnswer → Prop
  | .ok answer, .ok other => SameAnswer answer other
  | .error error, .error other => other = .quota error
  | _, _ => False

/-- The two repositories hold the same, and the index in memory finds what the unique constraint
finds. -/
structure Agrees (memory : InMemoryQuotaRepository) (postgres : PostgresQuotaRepository) :
    Prop where
  policies : postgres.policies = memory.policies
  reservations : postgres.reservations = memory.reservations
  ledger : postgres.ledger = memory.ledger
  counters : SameCounters memory.counters postgres.counters
  indexed : ∀ tenantId key id, memory.idempotency.get? (tenantId, key) = some id →
    ∃ reservation, memory.reservations.get? (tenantId, id) = some reservation ∧
      reservation.idempotencyKey = key
  filed : ∀ tenantId id reservation, memory.reservations.get? (tenantId, id) = some reservation →
      reservation.tenantId = tenantId ∧
        memory.idempotency.get? (tenantId, reservation.idempotencyKey) = some id ∧
        Ascending reservation.constraints

section

variable {memory : InMemoryQuotaRepository} {postgres : PostgresQuotaRepository}
  {reservation : ResourceReservation} {windowKey tenantId : String}

theorem agrees_empty : Agrees {} {} where
  policies := rfl
  reservations := rfl
  ledger := rfl
  counters _ := rfl
  indexed _ _ _ indexed := nomatch indexed
  filed _ _ _ stored := nomatch stored

theorem Agrees.getReservation (agrees : Agrees memory postgres) (tenantId key : String) :
  postgres.getReservation tenantId key = memory.getReservation tenantId key := by
  have matched : ∀ row ∈ memory.reservations.values,
    row.tenantId = tenantId ∧ row.idempotencyKey = key →
      memory.getReservation tenantId key = some row := by
    rintro row member ⟨rfl, rfl⟩
    obtain ⟨⟨tenant, id⟩, stored⟩ := mem_values.mp member
    obtain ⟨rfl, indexed, _⟩ := agrees.filed tenant id row stored
    unfold InMemoryQuotaRepository.getReservation
    rw [indexed]
    exact stored
  unfold PostgresQuotaRepository.getReservation
  rw [agrees.reservations]
  cases found : memory.reservations.values.find? fun row =>
      decide (row.tenantId = tenantId ∧ row.idempotencyKey = key) with
  | some row =>
    have holds := find?_some found
    exact (matched row (mem_of_find?_eq_some found) (of_decide_eq_true holds)).symm
  | none =>
    have absent := find?_eq_none.mp found
    unfold InMemoryQuotaRepository.getReservation
    cases indexed : memory.idempotency.get? (tenantId, key) with
    | none => rfl
    | some id =>
      obtain ⟨row, stored, keyed⟩ := agrees.indexed tenantId key id indexed
      have tenant := (agrees.filed tenantId id row stored).1
      exact absurd (decide_eq_true ⟨tenant, keyed⟩)
        (absent row (mem_values.mpr ⟨_, stored⟩))

variable {counters other : Dict CounterKey QuotaCounter} {id : String} {physical : Physical}

theorem SameCounters.flushes (same : SameCounters counters other) : flushes other = flushes counters := by
  have both : ∀ {first second : Dict CounterKey QuotaCounter}, SameCounters first second →
    PostgresQuotaRepository.flushes first = true →
      PostgresQuotaRepository.flushes second = true := by
    intro first second same fits
    refine all_eq_true.mpr fun counter member => ?_
    obtain ⟨key, found⟩ := mem_values.mp member
    rw [same] at found
    exact all_eq_true.mp fits counter (mem_values.mpr ⟨key, found⟩)
  rw [Bool.eq_iff_iff]
  exact ⟨both fun key => (same key).symm, both same⟩

def storedRevision (policies : Dict (String × String) QuotaPolicy) (policy : QuotaPolicy) : Int :=
  ((policies.get? (policy.tenantId, policy.policyId)).map QuotaPolicy.revision).getD 0

theorem memory_replacePolicy (policy : QuotaPolicy) (expectedRevision : Int) :
  memory.replacePolicy policy expectedRevision =
    if storedRevision memory.policies policy ≠ expectedRevision then
      (.error (.conflict ("quota policy revision changed: expected=" ++
        toString expectedRevision ++ " actual=" ++
          toString (storedRevision memory.policies policy))), memory)
    else
      (.ok policy, { memory with
        policies := memory.policies.set (policy.tenantId, policy.policyId) policy }) := by
  unfold InMemoryQuotaRepository.replacePolicy storedRevision
  dsimp only
  cases memory.policies.get? (policy.tenantId, policy.policyId) with
  | none | some current => rfl

theorem postgres_replacePolicy (policy : QuotaPolicy) (expectedRevision : Int) :
  postgres.replacePolicy policy expectedRevision =
    if storedRevision postgres.policies policy ≠ expectedRevision then
      (.error (.quota (.conflict ("quota policy revision changed: expected=" ++
        toString expectedRevision ++ " actual=" ++
          toString (storedRevision postgres.policies policy)))), postgres)
    else if policy.fits = false then (.error .data, postgres)
    else
      (.ok policy, { postgres with
        policies := postgres.policies.set (policy.tenantId, policy.policyId) policy }) := by
  unfold PostgresQuotaRepository.replacePolicy storedRevision
  dsimp only
  cases postgres.policies.get? (policy.tenantId, policy.policyId) with
  | none | some row => rfl

section

variable (agrees : Agrees memory postgres)

include agrees

theorem Agrees.replacePolicy {policy : QuotaPolicy} {expectedRevision : Int}
  (fits : (memory.replacePolicy policy expectedRevision).1.toOption.isSome → policy.fits = true) :
  SameOutcome ((memory.replacePolicy policy expectedRevision).1.map .policy)
    ((postgres.replacePolicy policy expectedRevision).1.map .policy) ∧
    Agrees (memory.replacePolicy policy expectedRevision).2
    (postgres.replacePolicy policy expectedRevision).2 := by
  rw [memory_replacePolicy] at fits ⊢
  rw [postgres_replacePolicy, agrees.policies]
  by_cases stale : storedRevision memory.policies policy ≠ expectedRevision
  · rw [if_pos stale, if_pos stale]
    exact ⟨rfl, agrees⟩
  rw [if_neg stale] at fits
  rw [if_neg stale, if_neg stale, if_neg (by simp [fits rfl])]
  exact ⟨rfl, { agrees with policies := rfl }⟩

theorem Agrees.closes (closed : ResourceReservation)
  (ledger : Dict (String × String) UsageLedgerEntry)
  (stored : memory.reservations.get? (tenantId, id) = some reservation)
  (tenant : closed.tenantId = reservation.tenantId)
  (keyed : closed.idempotencyKey = reservation.idempotencyKey)
  (constraints : closed.constraints = reservation.constraints)
  (same : SameCounters counters other) :
  Agrees
    { memory with
      counters, ledger, reservations := memory.reservations.set (tenantId, id) closed }
    { postgres with
      counters := other, ledger
      reservations := postgres.reservations.set (tenantId, id) closed } where
  policies := agrees.policies
  reservations := congrArg (fun table => Dict.set table (tenantId, id) closed) agrees.reservations
  ledger := rfl
  counters := same
  indexed otherTenant key otherId indexed := by
    obtain ⟨found, filed, named⟩ := agrees.indexed otherTenant key otherId indexed
    rw [get?_set]
    split
    case isTrue same =>
      rw [same, stored] at filed
      cases filed
      exact ⟨closed, rfl, keyed.trans named⟩
    · exact ⟨found, filed, named⟩
  filed otherTenant otherId found present := by
    rw [get?_set] at present
    split at present
    case isTrue same =>
      cases present
      cases same
      obtain ⟨owner, indexed, ascending⟩ := agrees.filed tenantId id reservation stored
      exact ⟨tenant.trans owner, by rw [keyed]; exact indexed, by rw [constraints]; exact ascending⟩
    · exact agrees.filed otherTenant otherId found present

theorem Agrees.makes
  (fresh : memory.reservations.get? (reservation.tenantId, reservation.reservationId) = none)
  (unindexed : memory.idempotency.get? (reservation.tenantId, reservation.idempotencyKey) = none)
  (ascending : Ascending reservation.constraints) (same : SameCounters counters other) :
  Agrees
    { memory with
      counters
      reservations := memory.reservations.set
        (reservation.tenantId, reservation.reservationId) reservation
      idempotency := memory.idempotency.set
        (reservation.tenantId, reservation.idempotencyKey) reservation.reservationId }
    { postgres with
      counters := other
      reservations := postgres.reservations.set
        (reservation.tenantId, reservation.reservationId) reservation } where
  policies := agrees.policies
  reservations := congrArg (fun table =>
    Dict.set table (reservation.tenantId, reservation.reservationId) reservation)
      agrees.reservations
  ledger := agrees.ledger
  counters := same
  indexed tenantId key id indexed := by
    rw [get?_set] at indexed
    split at indexed
    case isTrue here =>
      cases indexed
      obtain ⟨rfl, rfl⟩ := Prod.mk.inj here
      exact ⟨reservation, get?_set_self _ _ _, rfl⟩
    · obtain ⟨found, filed, named⟩ := agrees.indexed tenantId key id indexed
      refine ⟨found, ?_, named⟩
      rw [get?_set_other _ _ fun taken => ?_]
      · exact filed
      rw [taken, fresh] at filed
      cases filed
  filed tenantId id found present := by
    rw [get?_set] at present
    split at present
    case isTrue here =>
      cases present
      obtain ⟨rfl, rfl⟩ := Prod.mk.inj here
      exact ⟨rfl, get?_set_self _ _ _, ascending⟩
    · obtain ⟨owner, indexed, sorted⟩ := agrees.filed tenantId id found present
      refine ⟨owner, ?_, sorted⟩
      rw [get?_set_other _ _ fun taken => ?_]
      · exact indexed
      rw [taken, unindexed] at indexed
      cases indexed

theorem Agrees.reserve (alike : Alike memory physical (.reserve reservation windowKey)) :
  SameOutcome ((memory.reserve reservation windowKey).1.map .reservation)
    ((postgres.reserve reservation windowKey).1.map .reservation) ∧
    Agrees (memory.reserve reservation windowKey).2
    (postgres.reserve reservation windowKey).2 := by
  have found := agrees.getReservation reservation.tenantId reservation.idempotencyKey
  unfold InMemoryQuotaRepository.getReservation at found
  unfold InMemoryQuotaRepository.reserve PostgresQuotaRepository.reserve
  dsimp only at found ⊢
  cases indexed : memory.idempotency.get?
    (reservation.tenantId, reservation.idempotencyKey) with
  | some id =>
    obtain ⟨existing, stored, _⟩ := agrees.indexed _ _ id indexed
    rw [indexed] at found
    dsimp only at found ⊢
    rw [found, stored]
    dsimp only
    split
    · exact ⟨rfl, agrees⟩
    exact ⟨rfl, agrees⟩
  | none =>
    obtain ⟨ascending, storable, admits⟩ := alike.2 indexed
    rw [indexed] at found
    dsimp only at found ⊢
    rw [found, sortedConstraints_ascending ascending]
    dsimp only
    cases room : refusal memory.counters reservation windowKey reservation.constraints with
    | some error =>
      rcases lockEach_eq ascending storable fun constraint _ => agrees.counters _ with
        ⟨_, refused, stops⟩ | ⟨_, admitted, _⟩
      · cases room.symm.trans refused
        rw [stops]
        exact ⟨rfl, agrees⟩
      rw [room] at admitted
      cases admitted
    | none =>
      obtain ⟨limits, fresh, fits, writes⟩ := admits room
      obtain ⟨locked, locks, same⟩ :=
        reserve_counters ascending storable limits agrees.counters room
      rw [locks]
      dsimp only
      rw [if_neg (by simp [fits, same.flushes, writes]), agrees.reservations, fresh]
      refine ⟨rfl, ?_⟩
      have made := agrees.makes fresh indexed ascending same
      rw [agrees.reservations] at made
      exact made

theorem Agrees.commit {amount : Int} {entry : UsageLedgerEntry}
  (alike : Alike memory physical (.commit tenantId id amount windowKey entry)) :
  SameOutcome ((memory.commit tenantId id amount windowKey entry).1.map .reservation)
    ((postgres.commit tenantId id amount windowKey entry).1.map .reservation) ∧
    Agrees (memory.commit tenantId id amount windowKey entry).2
    (postgres.commit tenantId id amount windowKey entry).2 := by
  unfold InMemoryQuotaRepository.commit PostgresQuotaRepository.commit
  dsimp only
  rw [agrees.reservations]
  cases stored : memory.reservations.get? (tenantId, id) with
  | none => exact ⟨rfl, agrees⟩
  | some reservation =>
    dsimp only
    by_cases committed : reservation.state = .committed
    · rw [if_pos committed, if_pos committed]
      exact ⟨rfl, agrees⟩
    by_cases inactive : reservation.state ≠ .active
    · rw [if_neg committed, if_neg committed, if_pos inactive, if_pos inactive]
      exact ⟨rfl, agrees⟩
    by_cases negative : amount < 0
    · rw [if_neg committed, if_neg committed, if_neg inactive, if_neg inactive,
        if_pos negative, if_pos negative]
      exact ⟨rfl, agrees⟩
    rw [if_neg committed, if_neg committed, if_neg inactive, if_neg inactive,
      if_neg negative, if_neg negative]
    obtain ⟨counted, named, fresh, fits, writes⟩ := alike.2 reservation stored
      (Decidable.not_not.mp inactive) (by omega)
    obtain ⟨settled, later, settles, locks, same⟩ := settle_counters amount
      (fun constraint member => (counted constraint member).1)
      (fun constraint member => (counted constraint member).2) agrees.counters
    rw [settles] at writes ⊢
    rw [sortedConstraints_ascending (agrees.filed _ _ _ stored).2.2, locks]
    dsimp only
    rw [if_neg (by simp [fits, same.flushes, writes]), named, agrees.ledger, fresh]
    refine ⟨rfl, ?_⟩
    have closes := agrees.closes
      { reservation with state := .committed, completedAt := some entry.occurredAt }
      (memory.ledger.set (tenantId, entry.entryId) entry) stored rfl rfl rfl same
    rw [agrees.reservations] at closes
    exact closes

theorem Agrees.release {state : ReservationState}
  (alike : Alike memory physical (.release tenantId id state windowKey)) :
  SameOutcome ((memory.release tenantId id state windowKey).1.map .reservation)
    ((postgres.release physical tenantId id state windowKey).1.map .reservation) ∧
    Agrees (memory.release tenantId id state windowKey).2
    (postgres.release physical tenantId id state windowKey).2 := by
  obtain ⟨_, terminal, alike⟩ := alike
  unfold InMemoryQuotaRepository.release PostgresQuotaRepository.release
  dsimp only
  rw [if_neg (by rcases terminal with rfl | rfl <;> simp), agrees.reservations]
  cases stored : memory.reservations.get? (tenantId, id) with
  | none => exact ⟨rfl, agrees⟩
  | some reservation =>
    dsimp only
    by_cases inactive : reservation.state ≠ .active
    · rw [if_pos inactive, if_pos inactive]
      exact ⟨rfl, agrees⟩
    rw [if_neg inactive, if_neg inactive]
    obtain ⟨now, counted, writes⟩ := alike reservation stored (Decidable.not_not.mp inactive)
    obtain ⟨settled, later, settles, locks, same⟩ := settle_counters 0
      (fun constraint member => (counted constraint member).1)
      (fun constraint member => (counted constraint member).2) agrees.counters
    rw [settles] at writes ⊢
    rw [sortedConstraints_ascending (agrees.filed _ _ _ stored).2.2, locks]
    dsimp only
    rw [if_neg (by simp [same.flushes, writes]), now]
    refine ⟨rfl, ?_⟩
    have closes := agrees.closes
      { reservation with state, completedAt := some reservation.expiresAt }
      memory.ledger stored rfl rfl rfl same
    rw [agrees.reservations, ← agrees.ledger] at closes
    rw [← agrees.ledger]
    exact closes

end

theorem SameCounters.listed (same : SameCounters counters other) : other.entries.Perm counters.entries := by
  have nodup : ∀ dict : Dict CounterKey QuotaCounter, dict.entries.Nodup :=
    fun dict => List.Nodup.of_map Prod.fst dict.distinct
  refine (perm_ext_iff_of_nodup (nodup other) (nodup counters)).mpr fun entry => ?_
  rw [← get?_eq_some, ← get?_eq_some, same]

theorem sorted_unique {rows arranged : List ResourceReservation}
  (ascending : rows.Pairwise fun first second => first.expiresAt < second.expiresAt)
  (perm : arranged.Perm rows) :
  arranged.insertionSort (fun left right => left.expiresAt ≤ right.expiresAt) = rows := by
  have sorts := (perm_insertionSort
    (fun left right : ResourceReservation => left.expiresAt ≤ right.expiresAt) arranged).trans perm
  have sorted := pairwise_insertionSort
    (fun left right : ResourceReservation => left.expiresAt ≤ right.expiresAt) arranged
  have apart : (rows.map ResourceReservation.expiresAt).Nodup :=
    pairwise_map.mpr (ascending.imp fun less => Int.ne_of_lt less)
  refine sorts.eq_of_pairwise (fun first second member also before after => ?_) sorted
    (ascending.imp fun less => Int.le_of_lt less)
  exact inj_on_of_nodup_map apart (sorts.subset member) also (Int.le_antisymm before after)

theorem serve_agrees (agrees : Agrees memory postgres) {call : RepositoryCall}
  (alike : Alike memory physical call) :
  SameOutcome (memory.serve call).1 (postgres.serve physical call).1 ∧
    Agrees (memory.serve call).2 (postgres.serve physical call).2 := by
  unfold PostgresQuotaRepository.serve
  rw [if_pos alike.1]
  cases call with
  | listPolicies tenantId =>
    refine ⟨?_, agrees⟩
    refine (physical.perm _).trans (List.Perm.of_eq ?_)
    rw [agrees.policies]
    rfl
  | replacePolicy policy expectedRevision => exact agrees.replacePolicy alike.2
  | reserve reservation windowKey => exact agrees.reserve alike
  | getReservation tenantId key => exact ⟨agrees.getReservation tenantId key, agrees⟩
  | commit tenantId reservationId amount windowKey entry => exact agrees.commit alike
  | release tenantId reservationId state windowKey => exact agrees.release alike
  | addLedger entry =>
    have fits : ¬ entry.fits = false := by simp [show entry.fits = true from alike.2]
    simp only [PostgresQuotaRepository.execute, PostgresQuotaRepository.addLedger, if_neg fits,
      agrees.ledger]
    exact ⟨trivial, { agrees with ledger := rfl }⟩
  | listCounters tenantId => exact ⟨(physical.perm _).trans (agrees.counters.listed.filter _), agrees⟩
  | listActiveReservations tenantId =>
    refine ⟨?_, agrees⟩
    refine (physical.perm _).trans (List.Perm.of_eq ?_)
    rw [agrees.reservations]
    rfl
  | listLedger tenantId =>
    refine ⟨?_, agrees⟩
    refine (physical.perm _).trans (List.Perm.of_eq ?_)
    rw [agrees.ledger]
    rfl
  | listExpiredActive now limit =>
    refine ⟨?_, agrees⟩
    have same := sorted_unique alike.2 (physical.perm _)
    change List.take limit _ = List.take limit _
    rw [agrees.reservations, same]

end

theorem serveAll_agrees {memory : InMemoryQuotaRepository}
  {postgres : PostgresQuotaRepository} (agrees : Agrees memory postgres)
  {calls : List (Physical × RepositoryCall)} (alike : AlikeAlong memory calls) :
  List.Forall₂ SameOutcome (memory.serveAll (calls.map Prod.snd)).1 (postgres.serveAll calls).1 ∧
    Agrees (memory.serveAll (calls.map Prod.snd)).2 (postgres.serveAll calls).2 := by
  induction calls generalizing memory postgres with
  | nil => exact ⟨.nil, agrees⟩
  | cons first rest ih =>
    obtain ⟨physical, call⟩ := first
    obtain ⟨here, there⟩ := alike
    obtain ⟨same, after⟩ := serve_agrees agrees here
    obtain ⟨others, final⟩ := ih after there
    exact ⟨.cons same others, final⟩

def BackendsAgree (calls : List (Physical × RepositoryCall)) : Prop :=
  List.Forall₂ SameOutcome
      (InMemoryQuotaRepository.serveAll {} (calls.map Prod.snd)).1
      (PostgresQuotaRepository.serveAll {} calls).1 ∧
    (PostgresQuotaRepository.serveAll {} calls).2.policies =
      (InMemoryQuotaRepository.serveAll {} (calls.map Prod.snd)).2.policies ∧
    (PostgresQuotaRepository.serveAll {} calls).2.reservations =
      (InMemoryQuotaRepository.serveAll {} (calls.map Prod.snd)).2.reservations ∧
    (PostgresQuotaRepository.serveAll {} calls).2.ledger =
      (InMemoryQuotaRepository.serveAll {} (calls.map Prod.snd)).2.ledger ∧
    ∀ key, (PostgresQuotaRepository.serveAll {} calls).2.counters.get? key =
      (InMemoryQuotaRepository.serveAll {} (calls.map Prod.snd)).2.counters.get? key

/-- A history that meets the condition at every call is served alike. -/
theorem backends_agree (calls : List (Physical × RepositoryCall)) (alike : AlikeAlong {} calls) :
  BackendsAgree calls := by
  obtain ⟨outcomes, agrees⟩ := serveAll_agrees agrees_empty alike
  exact ⟨outcomes, agrees.policies, agrees.reservations, agrees.ledger, agrees.counters⟩

def heldReservation (id : String) (amount limit : Int) : ResourceReservation where
  tenantId := "t"
  reservationId := id
  idempotencyKey := id
  resource := .concurrentRuns
  amount
  constraints := [{ scopeKey := "agent=*|environment=*", limit }]
  subjectId := "run"
  state := .active
  createdAt := 0
  expiresAt := 60

def usage : UsageLedgerEntry where
  tenantId := "t"
  entryId := "ledger:first"
  reservationId := some "first"
  resource := .concurrentRuns
  amount := some 1
  subjectId := "run"
  occurredAt := 5

def alikeHistory : List (Physical × RepositoryCall) :=
  [ ({}, .reserve (heldReservation "first" 2 5) "lifetime")
  , ({}, .reserve (heldReservation "first" 2 5) "lifetime")
  , ({}, .reserve (heldReservation "second" 2 5) "lifetime")
  , ({}, .reserve (heldReservation "third" 2 5) "lifetime")
  , ({}, .commit "t" "first" 1 "lifetime" usage)
  , ({ now := 60 }, .release "t" "second" .expired "lifetime")
  , ({}, .addLedger usage)
  , ({}, .listCounters "t")
  , ({}, .listExpiredActive 60 10) ]

theorem backends_agree_alike : AlikeAlong {} alikeHistory ∧ BackendsAgree alikeHistory := by
  have alike : AlikeAlong {} alikeHistory := by decide +kernel
  exact ⟨alike, backends_agree alikeHistory alike⟩

def raisedLimit : List (Physical × RepositoryCall) :=
  [ ({}, .reserve (heldReservation "first" 2 5) "lifetime")
  , ({}, .reserve (heldReservation "second" 2 10) "lifetime") ]

def earlyRelease : List (Physical × RepositoryCall) :=
  [ ({}, .reserve (heldReservation "first" 2 5) "lifetime")
  , ({ now := 30 }, .release "t" "first" .released "lifetime") ]

/-- Only in memory does a counter follow the limit, and only over Postgres does a release say when
it was. -/
theorem backends_differ : ¬ BackendsAgree raisedLimit ∧ ¬ BackendsAgree earlyRelease := by
  constructor
  · rintro ⟨_, _, _, _, counters⟩
    have limits := congrArg (Option.map QuotaCounter.limit)
      (counters (keyOf (heldReservation "first" 2 5) "lifetime"
        { scopeKey := "agent=*|environment=*", limit := 5 }))
    revert limits
    decide +kernel
  rintro ⟨_, _, reservations, _⟩
  have completed := congrArg (fun table =>
    (Dict.get? table ("t", "first")).map ResourceReservation.completedAt) reservations
  revert completed
  decide +kernel

end AgentHarness.Quota
