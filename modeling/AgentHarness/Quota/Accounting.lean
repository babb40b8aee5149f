import Mathlib.Algebra.Group.Prod
import AgentHarness.Quota.Repository

/-!
What the counters of the repository mean.

A counter stands for the active reservations of its window and for the amounts
the ledger records for reservations of that window.  `Balanced` says so for all
counters at once; every repository call keeps it.
-/

namespace AgentHarness.Quota

open Collections Dict List Option

def Touches (tenantId : String) (resource : QuotaResource) (windowKey : String)
  (scopeKeys : List String) (key : CounterKey) : Prop :=
  key.tenantId = tenantId ∧ key.resource = resource ∧ key.windowKey = windowKey ∧
    key.scopeKey ∈ scopeKeys

instance (tenantId : String) (resource : QuotaResource) (windowKey : String)
  (scopeKeys : List String) (key : CounterKey) :
  Decidable (Touches tenantId resource windowKey scopeKeys key) :=
  inferInstanceAs (Decidable (_ ∧ _ ∧ _ ∧ _))

variable {windowKey scopeKey : String} {resource : QuotaResource} {tenantId : String}

theorem touches_cons {rest : List String} {key : CounterKey} :
  Touches tenantId resource windowKey (scopeKey :: rest) key ↔
    key = counterKey tenantId resource windowKey scopeKey ∨
    Touches tenantId resource windowKey rest key := by
  obtain ⟨keyTenant, keyScope, keyResource, keyWindow⟩ := key
  simp only [Touches, counterKey, CounterKey.mk.injEq, mem_cons]
  tauto

theorem touches_counterKey {scopeKeys : List String} : Touches tenantId resource windowKey scopeKeys
    (counterKey tenantId resource windowKey scopeKey) ↔ scopeKey ∈ scopeKeys := by
  simp [Touches, counterKey]

def balance (counters : Dict CounterKey QuotaCounter) (key : CounterKey) : Int × Int :=
  match counters.get? key with
  | none => (0, 0)
  | some counter => (counter.reserved, counter.committed)

theorem balance_set (counters : Dict CounterKey QuotaCounter) (key other : CounterKey)
  (counter : QuotaCounter) :
  balance (counters.set key counter) other =
    if other = key then (counter.reserved, counter.committed) else balance counters other := by
  by_cases same : other = key
  · subst other
    simp [balance]
  simp [balance, get?_set_other counters counter same, same]

namespace InMemoryQuotaRepository

theorem counterOr_balance (counters : Dict CounterKey QuotaCounter) (key : CounterKey)
  (limit : Int) :
  ((counterOr counters key limit).reserved, (counterOr counters key limit).committed) =
    balance counters key := by
  cases found : counters.get? key <;> simp [counterOr, balance, found]

variable {constraints : List QuotaConstraint} {reservation : ResourceReservation}
  {windowKey tenantId : String} {counters : Dict CounterKey QuotaCounter} {committed : Int}

theorem hold_balance (counters : Dict CounterKey QuotaCounter) (key : CounterKey)
  (distinct : (constraints.map QuotaConstraint.scopeKey).Nodup) :
  balance (hold reservation windowKey constraints counters) key = balance counters key +
      if Touches reservation.tenantId reservation.resource windowKey
          (constraints.map QuotaConstraint.scopeKey) key then (reservation.amount, 0)
      else 0 := by
  induction constraints generalizing counters with
  | nil => simp [hold, Touches]
  | cons constraint rest ih =>
    obtain ⟨absent, tail⟩ := nodup_cons.mp distinct
    rw [hold, ih _ tail, balance_set, map_cons]
    simp only [touches_cons]
    by_cases here : key = counterKey reservation.tenantId reservation.resource windowKey
      constraint.scopeKey
    · subst key
      have before := counterOr_balance counters
        (counterKey reservation.tenantId reservation.resource windowKey constraint.scopeKey)
        constraint.limit
      simp [touches_counterKey, absent, ← before, add_zero]
    simp [here]

variable {key : CounterKey}

theorem hold_opened (opened : (counters.get? key).isSome ∨
    Touches reservation.tenantId reservation.resource windowKey
    (constraints.map QuotaConstraint.scopeKey) key) :
  ((hold reservation windowKey constraints counters).get? key).isSome := by
  induction constraints generalizing counters with
  | nil => exact opened.resolve_right fun touched => not_mem_nil touched.2.2.2
  | cons constraint rest ih =>
    refine ih ?_
    rw [get?_set]
    rw [map_cons, touches_cons] at opened
    split
    · exact .inl rfl
    rename_i elsewhere
    exact opened.imp_right fun touched => touched.resolve_left elsewhere

theorem refusal_none (admitted : refusal counters reservation windowKey constraints = none)
  (constraint : QuotaConstraint) (member : constraint ∈ constraints) :
  (balance counters (counterKey reservation.tenantId reservation.resource windowKey
    constraint.scopeKey)).1 +
    (balance counters (counterKey reservation.tenantId reservation.resource windowKey
    constraint.scopeKey)).2 + reservation.amount ≤ constraint.limit := by
  induction constraints with
  | nil => cases member
  | cons first rest ih =>
    simp only [refusal] at admitted
    split at admitted
    · cases admitted
    rename_i room
    rcases mem_cons.mp member with rfl | later
    · rw [← counterOr_balance counters _ constraint.limit]
      exact Int.not_lt.mp room
    exact ih admitted later

theorem settle_done (opened : ∀ key, Touches tenantId reservation.resource windowKey
    (constraints.map QuotaConstraint.scopeKey) key → (counters.get? key).isSome) :
  (settle tenantId reservation windowKey committed constraints counters).1 = none := by
  induction constraints generalizing counters with
  | nil => rfl
  | cons constraint rest ih =>
    simp only [map_cons, touches_cons] at opened
    have present := opened _ (.inl rfl)
    rw [settle]
    cases found : counters.get? (counterKey tenantId reservation.resource windowKey
      constraint.scopeKey) with
    | none => simp [found] at present
    | some current =>
      refine ih fun key touched => ?_
      rw [get?_set]
      split
      · rfl
      exact opened key (.inr touched)

theorem settle_balance (counters : Dict CounterKey QuotaCounter) (key : CounterKey)
  (distinct : (constraints.map QuotaConstraint.scopeKey).Nodup)
  (finished : (settle tenantId reservation windowKey committed constraints counters).1 = none) :
  balance (settle tenantId reservation windowKey committed constraints counters).2 key =
    balance counters key +
      if Touches tenantId reservation.resource windowKey
          (constraints.map QuotaConstraint.scopeKey) key then (-reservation.amount, committed)
      else 0 := by
  induction constraints generalizing counters with
  | nil => simp [settle, Touches]
  | cons constraint rest ih =>
    obtain ⟨absent, tail⟩ := nodup_cons.mp distinct
    rw [settle] at finished ⊢
    cases found : counters.get? (counterKey tenantId reservation.resource windowKey
      constraint.scopeKey) with
    | none => simp [found] at finished
    | some current =>
      simp only [found] at finished ⊢
      rw [ih _ tail finished, balance_set, map_cons]
      simp only [touches_cons]
      by_cases here : key = counterKey tenantId reservation.resource windowKey
        constraint.scopeKey
      · subst key
        have before : balance counters (counterKey tenantId reservation.resource windowKey
          constraint.scopeKey) = (current.reserved, current.committed) := by
          simp [balance, found]
        simp [touches_counterKey, absent, before, add_zero, sub_eq_add_neg]
      simp [here]

theorem settle_opened (opened : (counters.get? key).isSome) :
  ((settle tenantId reservation windowKey committed constraints counters).2.get? key).isSome := by
  induction constraints generalizing counters with
  | nil => exact opened
  | cons constraint rest ih =>
    rw [settle]
    cases found : counters.get? (counterKey tenantId reservation.resource windowKey
      constraint.scopeKey) with
    | none => exact opened
    | some current =>
      refine ih ?_
      rw [get?_set]
      split
      · rfl
      exact opened

end InMemoryQuotaRepository

section

-- How the service names the window of an instant, for each resource.
variable (window : QuotaResource → Int → String)

def ResourceReservation.AccountedIn (reservation : ResourceReservation) (key : CounterKey) : Prop :=
  Touches reservation.tenantId reservation.resource
    (window reservation.resource reservation.createdAt) reservation.scopeKeys key

instance (reservation : ResourceReservation) (key : CounterKey) :
  Decidable (reservation.AccountedIn window key) :=
  inferInstanceAs (Decidable (Touches _ _ _ _ key))

def activeWeight (key : CounterKey) (_ : String × String) (reservation : ResourceReservation) :
  Int :=
  if reservation.state = .active ∧ reservation.AccountedIn window key then reservation.amount
  else 0

def entryWeight (reservations : Dict (String × String) ResourceReservation) (key : CounterKey)
  (stored : String × String) (entry : UsageLedgerEntry) : Int :=
  match entry.reservationId.bind (fun id => reservations.get? (stored.1, id)) with
  | none => 0
  | some reservation => if reservation.AccountedIn window key then entry.amount.getD 0 else 0

namespace InMemoryQuotaRepository

def activeAmount (repository : InMemoryQuotaRepository) (key : CounterKey) : Int :=
  repository.reservations.total (activeWeight window key)

def committedAmount (repository : InMemoryQuotaRepository) (key : CounterKey) : Int :=
  repository.ledger.total (entryWeight window repository.reservations key)

structure Balanced (repository : InMemoryQuotaRepository) : Prop where
  filed : ∀ tenantId id reservation,
    repository.reservations.get? (tenantId, id) = some reservation →
      reservation.tenantId = tenantId ∧ reservation.reservationId = id
  positive : ∀ stored reservation,
    repository.reservations.get? stored = some reservation → 1 ≤ reservation.amount
  unrepeated : ∀ stored reservation,
    repository.reservations.get? stored = some reservation → reservation.scopeKeys.Nodup
  opened : ∀ stored reservation key, repository.reservations.get? stored = some reservation →
      reservation.AccountedIn window key → (repository.counters.get? key).isSome
  replayable : ∀ tenantId idempotencyKey id,
    repository.idempotency.get? (tenantId, idempotencyKey) = some id →
      (repository.reservations.get? (tenantId, id)).isSome
  charged : ∀ tenantId entryId entry id,
    repository.ledger.get? (tenantId, entryId) = some entry → entry.reservationId = some id →
      (repository.reservations.get? (tenantId, id)).isSome ∧ 0 ≤ entry.amount.getD 0
  balanced : ∀ key, balance repository.counters key =
    (repository.activeAmount window key, repository.committedAmount window key)

theorem balanced_empty : Balanced window {} where
  filed := by intro _ _ _ impossible; cases impossible
  positive := by intro _ _ impossible; cases impossible
  unrepeated := by intro _ _ impossible; cases impossible
  opened := by intro _ _ _ impossible; cases impossible
  replayable := by intro _ _ _ impossible; cases impossible
  charged := by intro _ _ _ _ impossible; cases impossible
  balanced := fun _ => rfl

variable {window} {repository : InMemoryQuotaRepository}

theorem Balanced.nonneg (holds : repository.Balanced window) (key : CounterKey) :
  0 ≤ (balance repository.counters key).1 ∧ 0 ≤ (balance repository.counters key).2 := by
  rw [holds.balanced key]
  constructor
  · refine total_nonneg (fun stored reservation found => ?_)
    have positive := holds.positive stored reservation found
    unfold activeWeight
    split <;> omega
  refine total_nonneg fun stored entry found => ?_
  unfold entryWeight
  split
  · exact le_rfl
  rename_i reservation resolved
  obtain ⟨id, charged, _⟩ := bind_eq_some_iff.mp resolved
  split
  · exact (holds.charged stored.1 stored.2 entry id found charged).2
  exact le_rfl

theorem reserve_cases (repository : InMemoryQuotaRepository) (reservation : ResourceReservation)
  (windowKey : String) :
  (∃ error, repository.reserve reservation windowKey = (.error error, repository)) ∨
  (∃ existingId existing,
    repository.idempotency.get? (reservation.tenantId, reservation.idempotencyKey) =
      some existingId ∧
    repository.reservations.get? (reservation.tenantId, existingId) = some existing ∧
    repository.reserve reservation windowKey = (.ok existing, repository)) ∨
  (refusal repository.counters reservation windowKey reservation.constraints = none ∧
    repository.reserve reservation windowKey = (.ok reservation,
        { repository with
          counters := hold reservation windowKey reservation.constraints repository.counters
          reservations := repository.reservations.set
            (reservation.tenantId, reservation.reservationId) reservation
          idempotency := repository.idempotency.set
            (reservation.tenantId, reservation.idempotencyKey)
            reservation.reservationId })) := by
  cases replayed : repository.idempotency.get?
    (reservation.tenantId, reservation.idempotencyKey) with
  | some existingId =>
    cases found : repository.reservations.get? (reservation.tenantId, existingId) with
    | none => exact .inl ⟨_, by simp only [reserve, replayed, found]; rfl⟩
    | some existing =>
      by_cases same : existing.sameRequest reservation = true
      · exact .inr (.inl ⟨existingId, existing, rfl, found,
          by simp only [reserve, replayed, found, same, ↓reduceIte]⟩)
      exact .inl ⟨_, by simp only [reserve, replayed, found, same]; rfl⟩
  | none =>
    cases room : refusal repository.counters reservation windowKey reservation.constraints with
    | some error => exact .inl ⟨error, by simp only [reserve, replayed, room]⟩
    | none => exact .inr (.inr ⟨rfl, by simp only [reserve, replayed, room]⟩)

variable {reservation : ResourceReservation} {windowKey id tenantId : String}
  {entry : UsageLedgerEntry}

theorem reserve_within_limit (distinct : reservation.scopeKeys.Nodup)
  (room : refusal repository.counters reservation windowKey reservation.constraints = none)
  (constraint : QuotaConstraint) (member : constraint ∈ reservation.constraints) :
  (balance (hold reservation windowKey reservation.constraints repository.counters)
    (counterKey reservation.tenantId reservation.resource windowKey constraint.scopeKey)).1 +
    (balance (hold reservation windowKey reservation.constraints repository.counters)
    (counterKey reservation.tenantId reservation.resource windowKey
    constraint.scopeKey)).2 ≤ constraint.limit := by
  have before := refusal_none room constraint member
  rw [hold_balance _ _ distinct, if_pos (touches_counterKey.mpr (mem_map_of_mem member))]
  simp only [Prod.fst_add, Prod.snd_add, add_zero]
  omega

theorem entryWeight_congr {reservations later : Dict (String × String) ResourceReservation}
  {key : CounterKey} {stored : String × String} (same : ∀ id, entry.reservationId = some id →
    (later.get? (stored.1, id)).map (fun reservation =>
    decide (reservation.AccountedIn window key)) =
    (reservations.get? (stored.1, id)).map (fun reservation =>
    decide (reservation.AccountedIn window key))) :
  entryWeight window later key stored entry = entryWeight window reservations key stored entry := by
  cases charged : entry.reservationId with
  | none => simp only [entryWeight, charged, bind_none]
  | some id =>
    have agree := same id charged
    simp only [entryWeight, charged, bind_some]
    cases old : reservations.get? (stored.1, id) <;>
      cases new : later.get? (stored.1, id) <;>
      simp_all

theorem reserve_balanced (holds : repository.Balanced window) (fresh : repository.reservations.get?
    (reservation.tenantId, reservation.reservationId) = none)
  (active : reservation.state = .active) (positive : 1 ≤ reservation.amount)
  (distinct : reservation.scopeKeys.Nodup)
  (windowed : windowKey = window reservation.resource reservation.createdAt) :
  (repository.reserve reservation windowKey).2.Balanced window := by
  rcases reserve_cases repository reservation windowKey with
    ⟨_, refused⟩ | ⟨_, _, _, _, replayed⟩ | ⟨_, admitted⟩
  · rw [refused]
    exact holds
  · rw [replayed]
    exact holds
  rw [admitted]
  subst windowKey
  constructor
  · intro tenantId id other found
    rw [get?_set] at found
    split at found
    · rename_i same
      cases found
      exact ⟨(Prod.mk.inj same).1.symm, (Prod.mk.inj same).2.symm⟩
    exact holds.filed tenantId id other found
  · exact forall_set positive holds.positive
  · exact forall_set distinct holds.unrepeated
  · intro stored other key found accounted
    rw [get?_set] at found
    refine hold_opened ?_
    split at found
    · cases found
      exact .inr accounted
    exact .inl (holds.opened stored other key found accounted)
  · intro tenantId idempotencyKey id found
    rw [get?_set] at found ⊢
    split
    · rfl
    split at found
    · rename_i same _
      cases found
      simp_all
    exact holds.replayable tenantId idempotencyKey id found
  · intro tenantId entryId entry id found charged
    obtain ⟨present, nonneg⟩ := holds.charged tenantId entryId entry id found charged
    refine ⟨?_, nonneg⟩
    rw [get?_set]
    split
    · rfl
    exact present
  intro key
  have ledgerKept : repository.ledger.total (entryWeight window
    (repository.reservations.set (reservation.tenantId, reservation.reservationId)
      reservation) key) = repository.committedAmount window key := by
    refine total_congr fun stored entry found => entryWeight_congr (fun id charged => ?_)
    obtain ⟨present, _⟩ := holds.charged stored.1 stored.2 entry id found charged
    rw [get?_set_other]
    intro same
    rw [same, fresh] at present
    cases present
  rw [hold_balance _ _ distinct, holds.balanced key]
  simp only [activeAmount, committedAmount, total_set, fresh, elim_none,
    sub_zero, ledgerKept, activeWeight, active, true_and]
  change _ + (if reservation.AccountedIn window key then _ else _) = _
  split <;> simp

variable (state : ReservationState)

theorem closed_balanced {committed : Int} (completedAt : Option Int)
  (ledger : Dict (String × String) UsageLedgerEntry) (holds : repository.Balanced window)
  (found : repository.reservations.get? (tenantId, id) = some reservation)
  (active : reservation.state = .active) (closed : state ≠ .active)
  (windowed : windowKey = window reservation.resource reservation.createdAt)
  (finished : (settle tenantId reservation windowKey committed reservation.constraints
    repository.counters).1 = none) (charged : ∀ tenantId entryId entry id,
    ledger.get? (tenantId, entryId) = some entry → entry.reservationId = some id →
      (repository.reservations.get? (tenantId, id)).isSome ∧ 0 ≤ entry.amount.getD 0)
  (recorded : ∀ key, ledger.total (entryWeight window repository.reservations key) =
    repository.committedAmount window key +
      if reservation.AccountedIn window key then committed else 0) :
  Balanced window
    { repository with
      counters := (settle tenantId reservation windowKey committed reservation.constraints
        repository.counters).2
      reservations := repository.reservations.set (tenantId, id)
        { reservation with state, completedAt }
      ledger } := by
  obtain ⟨tenantEq, idEq⟩ := holds.filed tenantId id reservation found
  subst tenantId id windowKey
  constructor
  · intro tenantId id other stored
    rw [get?_set] at stored
    split at stored
    · rename_i same
      cases stored
      exact ⟨(Prod.mk.inj same).1.symm, (Prod.mk.inj same).2.symm⟩
    exact holds.filed tenantId id other stored
  · exact forall_set (holds.positive _ reservation found) holds.positive
  · exact forall_set (holds.unrepeated _ reservation found) holds.unrepeated
  · intro stored other key present accounted
    refine settle_opened ?_
    rw [get?_set] at present
    split at present
    · cases present
      exact holds.opened _ reservation key found accounted
    exact holds.opened stored other key present accounted
  · intro tenantId idempotencyKey id stored
    have present := holds.replayable tenantId idempotencyKey id stored
    rw [get?_set]
    split
    · rfl
    exact present
  · intro tenantId entryId entry id stored names
    obtain ⟨present, nonneg⟩ := charged tenantId entryId entry id stored names
    refine ⟨?_, nonneg⟩
    rw [get?_set]
    split
    · rfl
    exact present
  intro key
  rw [settle_balance _ _ (holds.unrepeated _ reservation found) finished, holds.balanced key]
  have ledgerKept : ledger.total (entryWeight window
      (repository.reservations.set (reservation.tenantId, reservation.reservationId)
        { reservation with state, completedAt }) key) =
      ledger.total (entryWeight window repository.reservations key) := by
    refine total_congr fun stored entry _ => entryWeight_congr (fun other _ => ?_)
    rw [get?_set]
    split
    · rename_i same
      rw [same, found]
      rfl
    rfl
  simp only [activeAmount, committedAmount, total_set, found, elim_some,
    ledgerKept, recorded key, activeWeight, active, closed, true_and, false_and, ↓reduceIte,
    add_zero]
  change _ + (if reservation.AccountedIn window key then _ else _) = _
  split <;> simp [sub_eq_add_neg]

theorem settle_finished (committed : Int) (holds : repository.Balanced window)
  (found : repository.reservations.get? (tenantId, id) = some reservation)
  (windowed : windowKey = window reservation.resource reservation.createdAt) :
  (settle tenantId reservation windowKey committed reservation.constraints
    repository.counters).1 = none := by
  obtain ⟨tenantEq, _⟩ := holds.filed tenantId id reservation found
  refine settle_done fun key touched => holds.opened _ reservation key found ?_
  rw [ResourceReservation.AccountedIn, tenantEq, ← windowed]
  exact touched

theorem entryWeight_fresh {entryId : String} {amount : Int}
  (fresh : repository.ledger.get? (tenantId, entryId) = none)
  (found : repository.reservations.get? (tenantId, id) = some reservation)
  (names : entry.reservationId = some id) (charges : entry.amount = some amount)
  (key : CounterKey) : (repository.ledger.set (tenantId, entryId) entry).total
      (entryWeight window repository.reservations key) =
    repository.committedAmount window key +
      if reservation.AccountedIn window key then amount else 0 := by
  simp [total_set, fresh, sub_zero, committedAmount, entryWeight, names, found, charges]

abbrev closing (reservation : ResourceReservation) (state : ReservationState)
  (completedAt : Int) : ResourceReservation :=
  { reservation with state, completedAt := some completedAt }

theorem commit_cases {tenantId id windowKey : String} (amount : Int) (entry : UsageLedgerEntry)
  (holds : repository.Balanced window)
  (windowed : ∀ reservation, repository.reservations.get? (tenantId, id) = some reservation →
    windowKey = window reservation.resource reservation.createdAt) :
  (∃ error, repository.commit tenantId id amount windowKey entry = (.error error, repository)) ∨
  (∃ reservation, repository.reservations.get? (tenantId, id) = some reservation ∧
    repository.commit tenantId id amount windowKey entry = (.ok reservation, repository)) ∨
  (∃ reservation counters, repository.reservations.get? (tenantId, id) = some reservation ∧
    reservation.state = .active ∧ 0 ≤ amount ∧
    settle tenantId reservation windowKey amount reservation.constraints
      repository.counters = (none, counters) ∧
    repository.commit tenantId id amount windowKey entry =
      (.ok (closing reservation .committed entry.occurredAt),
        { repository with
          counters
          reservations := repository.reservations.set (tenantId, id)
            (closing reservation .committed entry.occurredAt)
          ledger := repository.ledger.set (tenantId, entry.entryId) entry })) := by
  cases found : repository.reservations.get? (tenantId, id) with
  | none => exact .inl ⟨_, by simp only [commit, found]; rfl⟩
  | some reservation =>
    have finished := settle_finished amount holds found
      (windowed reservation found)
    cases settled : settle tenantId reservation windowKey amount reservation.constraints
      repository.counters with
    | mk failed counters =>
      rw [settled] at finished
      change failed = none at finished
      subst failed
      simp only [commit, found, settled]
      split_ifs with repeated inactive negative
      · exact .inr (.inl ⟨reservation, rfl, rfl⟩)
      · exact .inl ⟨_, rfl⟩
      · exact .inl ⟨_, rfl⟩
      exact .inr (.inr ⟨reservation, counters, rfl, Decidable.not_not.mp inactive,
        Int.not_lt.mp negative, settled, rfl⟩)

section

variable (holds : repository.Balanced window)

include holds

theorem commit_balanced {amount : Int}
  (windowed : ∀ reservation, repository.reservations.get? (tenantId, id) = some reservation →
    windowKey = window reservation.resource reservation.createdAt)
  (fresh : repository.ledger.get? (tenantId, entry.entryId) = none)
  (names : entry.reservationId = some id) (charges : entry.amount = some amount) :
  (repository.commit tenantId id amount windowKey entry).2.Balanced window := by
  rcases commit_cases amount entry holds windowed with
    ⟨_, refused⟩ | ⟨_, _, repeated⟩ |
    ⟨reservation, counters, found, active, nonneg, settled, committed⟩
  · rw [refused]
    exact holds
  · rw [repeated]
    exact holds
  rw [committed]
  have finished := congrArg Prod.fst settled
  have closes := closed_balanced .committed (some entry.occurredAt)
    (repository.ledger.set (tenantId, entry.entryId) entry)
    holds found active (by decide) (windowed reservation found) finished ?_
    (entryWeight_fresh fresh found names charges)
  · rw [settled] at closes
    exact closes
  intro otherTenant entryId other otherId stored charged
  rw [get?_set] at stored
  split at stored
  · rename_i same
    cases stored
    cases names.symm.trans charged
    rw [(Prod.mk.inj same).1, found]
    exact ⟨rfl, by rw [charges]; exact nonneg⟩
  exact holds.charged otherTenant entryId other otherId stored charged

theorem release_cases
  (windowed : ∀ reservation, repository.reservations.get? (tenantId, id) = some reservation →
    windowKey = window reservation.resource reservation.createdAt) :
  (∃ error, repository.release tenantId id state windowKey = (.error error, repository)) ∨
  (∃ reservation, repository.reservations.get? (tenantId, id) = some reservation ∧
    repository.release tenantId id state windowKey = (.ok reservation, repository)) ∨
  (∃ reservation counters, repository.reservations.get? (tenantId, id) = some reservation ∧
    reservation.state = .active ∧ state ≠ .active ∧
    settle tenantId reservation windowKey 0 reservation.constraints
      repository.counters = (none, counters) ∧
    repository.release tenantId id state windowKey =
      (.ok (closing reservation state reservation.expiresAt),
        { repository with
          counters
          reservations := repository.reservations.set (tenantId, id)
            (closing reservation state reservation.expiresAt) })) := by
  by_cases closes : state ≠ .released ∧ state ≠ .expired
  · exact .inl ⟨_, by simp only [release, if_pos closes]; rfl⟩
  cases found : repository.reservations.get? (tenantId, id) with
  | none => exact .inl ⟨_, by simp only [release, if_neg closes, found]; rfl⟩
  | some reservation =>
    have finished := settle_finished 0 holds found
      (windowed reservation found)
    have closed : state ≠ .active := by
      rintro rfl
      exact closes (by decide)
    cases settled : settle tenantId reservation windowKey 0 reservation.constraints
      repository.counters with
    | mk failed counters =>
      rw [settled] at finished
      change failed = none at finished
      subst failed
      simp only [release, if_neg closes, found, settled]
      split_ifs with inactive
      · exact .inr (.inl ⟨reservation, rfl, rfl⟩)
      exact .inr (.inr ⟨reservation, counters, rfl,
        Decidable.not_not.mp inactive, closed, settled, rfl⟩)

theorem release_balanced
  (windowed : ∀ reservation, repository.reservations.get? (tenantId, id) = some reservation →
    windowKey = window reservation.resource reservation.createdAt) :
  (repository.release tenantId id state windowKey).2.Balanced window := by
  rcases release_cases state holds windowed with
    ⟨_, refused⟩ | ⟨_, _, repeated⟩ |
    ⟨reservation, counters, found, active, closed, settled, released⟩
  · rw [refused]
    exact holds
  · rw [repeated]
    exact holds
  rw [released]
  have closes := closed_balanced state (some reservation.expiresAt) repository.ledger
    holds found active closed (windowed reservation found) (congrArg Prod.fst settled)
    holds.charged fun key => by split <;> exact (add_zero _).symm
  rw [settled] at closes
  exact closes

theorem addLedger_balanced (uncharged : entry.reservationId = none) :
  (repository.addLedger entry).Balanced window := by
  unfold addLedger Dict.setDefault
  split
  · rename_i fresh
    refine { holds with charged := ?_, balanced := fun key => ?_ }
    · intro tenantId entryId other id stored charged
      rw [get?_set] at stored
      split at stored
      · cases stored
        rw [uncharged] at charged
        cases charged
      exact holds.charged tenantId entryId other id stored charged
    rw [holds.balanced key]
    simp [committedAmount, activeAmount, total_set, fresh, entryWeight, uncharged]
  exact holds

end

theorem replacePolicy_cases (repository : InMemoryQuotaRepository) (policy : QuotaPolicy)
  (expectedRevision : Int) :
  (∃ error, repository.replacePolicy policy expectedRevision = (.error error, repository)) ∨
    repository.replacePolicy policy expectedRevision =
      (.ok policy, { repository with
        policies := repository.policies.set (policy.tenantId, policy.policyId) policy }) := by
  dsimp only [replacePolicy]
  split_ifs
  · exact .inl ⟨_, rfl⟩
  exact .inr rfl

theorem mem_listActiveReservations
  (listed : reservation ∈ repository.listActiveReservations tenantId) :
  ∃ id, repository.reservations.get? (tenantId, id) = some reservation := by
  obtain ⟨⟨⟨tenant, id⟩, stored⟩, member, rfl⟩ := mem_map.mp listed
  obtain ⟨present, matched⟩ := mem_filter.mp member
  obtain ⟨sameTenant, _⟩ := of_decide_eq_true matched
  dsimp only at sameTenant
  subst tenant
  exact ⟨id, get?_eq_some.mpr present⟩

theorem mem_listExpiredActive {now : Int} {limit : Nat}
  (listed : reservation ∈ repository.listExpiredActive now limit) :
  ∃ stored, repository.reservations.get? stored = some reservation :=
  mem_values.mp (mem_of_mem_filter (mem_of_mem_take listed))

theorem getReservation_stored {idempotencyKey : String}
  (found : repository.getReservation tenantId idempotencyKey = some reservation) :
  ∃ id, repository.reservations.get? (tenantId, id) = some reservation := by
  unfold getReservation at found
  split at found
  · exact ⟨_, found⟩
  cases found

end InMemoryQuotaRepository

end

end AgentHarness.Quota
