import AgentHarness.Quota.Repository
import Mathlib.Data.List.Sort

/-!
The quota repository over Postgres.

Each method is one transaction, which is committed or leaves nothing behind.  Rows hold their
record as a payload, and the columns that a statement compares repeat fields of the record.
-/

namespace AgentHarness.Quota

open Collections

inductive PostgresError where
  | quota (error : QuotaError)
  | integrity
  | data

structure PostgresQuotaRepository where
  policies : Dict (String × String) QuotaPolicy := Dict.empty
  reservations : Dict (String × String) ResourceReservation := Dict.empty
  counters : Dict CounterKey QuotaCounter := Dict.empty
  ledger : Dict (String × String) UsageLedgerEntry := Dict.empty

/-- What a statement takes from outside: the time, and the order of rows that no clause orders. -/
structure Physical where
  now : Int := 0
  arrange : {Row : Type} → List Row → List Row := id
  perm : ∀ {Row : Type} (rows : List Row), (arrange rows).Perm rows := by exact List.Perm.refl

/-- A value of type `String(width)`. -/
def fitsText (width : Nat) (text : String) : Bool :=
  text.length ≤ width && !text.toList.contains (Char.ofNat 0)

/-- A value of type `BigInteger`. -/
def fitsBigInteger (value : Int) : Bool := -(2 ^ 63) ≤ value && value < 2 ^ 63

/-- A value of type `Integer`. -/
def fitsInteger (value : Int) : Bool := -(2 ^ 31) ≤ value && value < 2 ^ 31

def QuotaPolicy.fits (policy : QuotaPolicy) : Bool :=
  fitsText 128 policy.tenantId && fitsText 128 policy.policyId &&
    fitsText 384 policy.scope.key && fitsInteger policy.revision

def CounterKey.fits (key : CounterKey) : Bool :=
  fitsText 128 key.tenantId && fitsText 384 key.scopeKey && fitsText 64 key.resource.value &&
    fitsText 32 key.windowKey

def QuotaCounter.fits (counter : QuotaCounter) : Bool :=
  fitsBigInteger counter.reserved && fitsBigInteger counter.committed &&
    counter.limit.all fitsBigInteger

def ResourceReservation.fits (reservation : ResourceReservation) : Bool :=
  fitsText 128 reservation.tenantId && fitsText 128 reservation.reservationId &&
    fitsText 256 reservation.idempotencyKey && fitsBigInteger reservation.amount

def UsageLedgerEntry.fits (entry : UsageLedgerEntry) : Bool :=
  fitsText 128 entry.tenantId && fitsText 128 entry.entryId &&
    entry.reservationId.all (fitsText 128) && entry.amount.all fitsBigInteger

namespace PostgresQuotaRepository

variable (repository : PostgresQuotaRepository) (physical : Physical)

def listPolicies (tenantId : String) : List QuotaPolicy :=
  physical.arrange ((repository.policies.entries.filter
    fun entry => entry.1.1 = tenantId).map Prod.snd)

def replacePolicy (policy : QuotaPolicy) (expectedRevision : Int) :
  Except PostgresError QuotaPolicy × PostgresQuotaRepository :=
  let key := (policy.tenantId, policy.policyId)
  let actual := match repository.policies.get? key with
    | some row => row.revision
    | none => 0
  if actual ≠ expectedRevision then
    (.error (.quota (.conflict ("quota policy revision changed: expected=" ++
      toString expectedRevision ++ " actual=" ++ toString actual))), repository)
  else if policy.fits = false then (.error .data, repository)
  else (.ok policy, { repository with policies := repository.policies.set key policy })

def getReservation (tenantId idempotencyKey : String) : Option ResourceReservation :=
  repository.reservations.values.find? fun row =>
    decide (row.tenantId = tenantId ∧ row.idempotencyKey = idempotencyKey)

/-- `on_conflict_do_nothing`, and the row that is there then. -/
def lockedCounter (counters : Dict CounterKey QuotaCounter) (key : CounterKey) (limit : Int) :
  Except PostgresError (QuotaCounter × Dict CounterKey QuotaCounter) :=
  if key.fits = false ∨ fitsBigInteger limit = false then .error .data
  else
    match counters.get? key with
    | some row => .ok (row, counters)
    | none =>
      let row : QuotaCounter := { reserved := 0, committed := 0, limit := some limit }
      .ok (row, counters.set key row)

/-- The loop of `reserve` that locks the counters and checks them. -/
def lockEach (reservation : ResourceReservation) (windowKey : String) :
    List QuotaConstraint → Dict CounterKey QuotaCounter →
      Except PostgresError (Dict CounterKey QuotaCounter)
  | [], counters => .ok counters
  | constraint :: rest, counters =>
    match lockedCounter counters (counterKey reservation.tenantId reservation.resource windowKey
        constraint.scopeKey) constraint.limit with
    | .error error => .error error
    | .ok (counter, locked) =>
      let used := counter.reserved + counter.committed
      if used + reservation.amount > constraint.limit then
        .error (.quota
          (.quotaExceeded reservation.resource constraint.limit reservation.amount used))
      else lockEach reservation windowKey rest locked

/-- The loop of `reserve` that adds to the counters; it leaves their limits alone. -/
def addEach (reservation : ResourceReservation) (windowKey : String) :
    List QuotaConstraint → Dict CounterKey QuotaCounter → Dict CounterKey QuotaCounter
  | [], counters => counters
  | constraint :: rest, counters =>
    let key := counterKey reservation.tenantId reservation.resource windowKey
      constraint.scopeKey
    match counters.get? key with
    | none => addEach reservation windowKey rest counters
    | some counter =>
      addEach reservation windowKey rest (counters.set key
        { counter with reserved := counter.reserved + reservation.amount })

/-- `sorted(reservation.constraints, key=lambda item: item.scope_key)`. -/
def sortedConstraints (reservation : ResourceReservation) : List QuotaConstraint :=
  reservation.constraints.insertionSort fun left right => left.scopeKey ≤ right.scopeKey

def flushes (counters : Dict CounterKey QuotaCounter) : Bool :=
  counters.values.all QuotaCounter.fits

def reserve (reservation : ResourceReservation) (windowKey : String) :
  Except PostgresError ResourceReservation × PostgresQuotaRepository :=
  match repository.getReservation reservation.tenantId reservation.idempotencyKey with
  | some existing =>
    if existing.sameRequest reservation then (.ok existing, repository)
    else
      (.error (.quota (.conflict "quota reservation idempotency key was reused")), repository)
  | none =>
    match lockEach reservation windowKey (sortedConstraints reservation) repository.counters with
    | .error error => (.error error, repository)
    | .ok locked =>
      let counters := addEach reservation windowKey (sortedConstraints reservation) locked
      if reservation.fits = false ∨ flushes counters = false then
        (.error .data, repository)
      else
        match repository.reservations.get?
            (reservation.tenantId, reservation.reservationId) with
        | some _ =>
          (.error (.quota (.conflict "quota reservation idempotency conflict")), repository)
        | none =>
          (.ok reservation,
            { repository with
              counters
              reservations := repository.reservations.set
                (reservation.tenantId, reservation.reservationId) reservation })

/-- The counter loop of `commit` and of `release`. -/
def settleEach (tenantId : String) (reservation : ResourceReservation) (windowKey : String)
    (committed : Int) :
    List QuotaConstraint → Dict CounterKey QuotaCounter →
      Except PostgresError (Dict CounterKey QuotaCounter)
  | [], counters => .ok counters
  | constraint :: rest, counters =>
    let key := counterKey tenantId reservation.resource windowKey constraint.scopeKey
    match lockedCounter counters key constraint.limit with
    | .error error => .error error
    | .ok (counter, locked) =>
      settleEach tenantId reservation windowKey committed rest (locked.set key
        { counter with
          reserved := counter.reserved - reservation.amount
          committed := counter.committed + committed })

def commit (tenantId reservationId : String) (amount : Int) (windowKey : String)
  (ledger : UsageLedgerEntry) :
  Except PostgresError ResourceReservation × PostgresQuotaRepository :=
  match repository.reservations.get? (tenantId, reservationId) with
  | none =>
    (.error (.quota (.notFound ("quota reservation not found: " ++ reservationId))), repository)
  | some reservation =>
    if reservation.state = .committed then (.ok reservation, repository)
    else if reservation.state ≠ .active then
      (.error (.quota (.conflict "quota reservation is not active")), repository)
    else if amount < 0 then
      (.error (.quota (.valueError "committed amount must not be negative")), repository)
    else
      match settleEach tenantId reservation windowKey amount (sortedConstraints reservation)
          repository.counters with
      | .error error => (.error error, repository)
      | .ok counters =>
        let committed : ResourceReservation :=
          { reservation with
            state := .committed, completedAt := some ledger.occurredAt }
        if ledger.fits = false ∨ flushes counters = false then (.error .data, repository)
        else
          match repository.ledger.get? (ledger.tenantId, ledger.entryId) with
          | some _ => (.error .integrity, repository)
          | none =>
            (.ok committed,
              { repository with
                counters
                reservations := repository.reservations.set (tenantId, reservationId)
                  committed
                ledger := repository.ledger.set (ledger.tenantId, ledger.entryId) ledger })

def release (tenantId reservationId : String) (state : ReservationState) (windowKey : String) :
  Except PostgresError ResourceReservation × PostgresQuotaRepository :=
  match repository.reservations.get? (tenantId, reservationId) with
  | none =>
    (.error (.quota (.notFound ("quota reservation not found: " ++ reservationId))), repository)
  | some reservation =>
    if reservation.state ≠ .active then (.ok reservation, repository)
    else
      match settleEach tenantId reservation windowKey 0 (sortedConstraints reservation)
          repository.counters with
      | .error error => (.error error, repository)
      | .ok counters =>
        let released : ResourceReservation :=
          { reservation with state, completedAt := some physical.now }
        if flushes counters = false then (.error .data, repository)
        else
          (.ok released,
            { repository with
              counters
              reservations := repository.reservations.set (tenantId, reservationId)
                released })

/-- `on_conflict_do_nothing`. -/
def addLedger (entry : UsageLedgerEntry) : Except PostgresError Unit × PostgresQuotaRepository :=
  if entry.fits = false then (.error .data, repository)
  else
    (.ok (),
      { repository with
        ledger := repository.ledger.setDefault (entry.tenantId, entry.entryId) entry })

def listCounters (tenantId : String) : List (CounterKey × QuotaCounter) :=
  physical.arrange (repository.counters.entries.filter fun row => row.1.tenantId = tenantId)

def listActiveReservations (tenantId : String) : List ResourceReservation :=
  physical.arrange ((repository.reservations.entries.filter (fun entry =>
    decide (entry.1.1 = tenantId ∧ entry.2.state = .active))).map Prod.snd)

/-- `order_by(expires_at).limit(limit)`. -/
def listExpiredActive (now : Int) (limit : Nat) : List ResourceReservation :=
  ((physical.arrange (repository.reservations.values.filter (fun reservation =>
    decide (reservation.state = .active ∧ reservation.expiresAt ≤ now)))).insertionSort
      fun left right => left.expiresAt ≤ right.expiresAt).take limit

def listLedger (tenantId : String) : List UsageLedgerEntry :=
  physical.arrange ((repository.ledger.entries.filter
    fun entry => entry.1.1 = tenantId).map Prod.snd)

end PostgresQuotaRepository

namespace InMemoryQuotaRepository

def listCounters (repository : InMemoryQuotaRepository) (tenantId : String) :
  List (CounterKey × QuotaCounter) :=
  repository.counters.entries.filter fun entry => entry.1.tenantId = tenantId

def listLedger (repository : InMemoryQuotaRepository) (tenantId : String) : List UsageLedgerEntry :=
  (repository.ledger.entries.filter fun entry => entry.1.1 = tenantId).map Prod.snd

end InMemoryQuotaRepository

inductive RepositoryCall where
  | listPolicies (tenantId : String)
  | replacePolicy (policy : QuotaPolicy) (expectedRevision : Int)
  | reserve (reservation : ResourceReservation) (windowKey : String)
  | getReservation (tenantId idempotencyKey : String)
  | commit (tenantId reservationId : String) (amount : Int) (windowKey : String)
      (ledger : UsageLedgerEntry)
  | release (tenantId reservationId : String) (state : ReservationState) (windowKey : String)
  | addLedger (entry : UsageLedgerEntry)
  | listCounters (tenantId : String)
  | listActiveReservations (tenantId : String)
  | listLedger (tenantId : String)
  | listExpiredActive (now : Int) (limit : Nat)

inductive RepositoryAnswer where
  | policies (listed : List QuotaPolicy)
  | policy (stored : QuotaPolicy)
  | reservation (stored : ResourceReservation)
  | found (stored : Option ResourceReservation)
  | counters (listed : List (CounterKey × QuotaCounter))
  | reservations (listed : List ResourceReservation)
  | entries (listed : List UsageLedgerEntry)
  | expired (listed : List ResourceReservation)
  | done

def InMemoryQuotaRepository.serve (repository : InMemoryQuotaRepository) :
    RepositoryCall → Except QuotaError RepositoryAnswer × InMemoryQuotaRepository
  | .listPolicies tenantId => (.ok (.policies (repository.listPolicies tenantId)), repository)
  | .replacePolicy policy expectedRevision =>
    ((repository.replacePolicy policy expectedRevision).1.map .policy,
      (repository.replacePolicy policy expectedRevision).2)
  | .reserve reservation windowKey =>
    ((repository.reserve reservation windowKey).1.map .reservation,
      (repository.reserve reservation windowKey).2)
  | .getReservation tenantId idempotencyKey =>
    (.ok (.found (repository.getReservation tenantId idempotencyKey)), repository)
  | .commit tenantId reservationId amount windowKey ledger =>
    ((repository.commit tenantId reservationId amount windowKey ledger).1.map .reservation,
      (repository.commit tenantId reservationId amount windowKey ledger).2)
  | .release tenantId reservationId state windowKey =>
    ((repository.release tenantId reservationId state windowKey).1.map .reservation,
      (repository.release tenantId reservationId state windowKey).2)
  | .addLedger entry => (.ok .done, repository.addLedger entry)
  | .listCounters tenantId => (.ok (.counters (repository.listCounters tenantId)), repository)
  | .listActiveReservations tenantId =>
    (.ok (.reservations (repository.listActiveReservations tenantId)), repository)
  | .listLedger tenantId => (.ok (.entries (repository.listLedger tenantId)), repository)
  | .listExpiredActive now limit =>
    (.ok (.expired (repository.listExpiredActive now limit)), repository)

def PostgresQuotaRepository.execute (repository : PostgresQuotaRepository) (physical : Physical) :
    RepositoryCall → Except PostgresError RepositoryAnswer × PostgresQuotaRepository
  | .listPolicies tenantId =>
    (.ok (.policies (repository.listPolicies physical tenantId)), repository)
  | .replacePolicy policy expectedRevision =>
    ((repository.replacePolicy policy expectedRevision).1.map .policy,
      (repository.replacePolicy policy expectedRevision).2)
  | .reserve reservation windowKey =>
    ((repository.reserve reservation windowKey).1.map .reservation,
      (repository.reserve reservation windowKey).2)
  | .getReservation tenantId idempotencyKey =>
    (.ok (.found (repository.getReservation tenantId idempotencyKey)), repository)
  | .commit tenantId reservationId amount windowKey ledger =>
    ((repository.commit tenantId reservationId amount windowKey ledger).1.map .reservation,
      (repository.commit tenantId reservationId amount windowKey ledger).2)
  | .release tenantId reservationId state windowKey =>
    ((repository.release physical tenantId reservationId state windowKey).1.map .reservation,
      (repository.release physical tenantId reservationId state windowKey).2)
  | .addLedger entry =>
    ((repository.addLedger entry).1.map fun _ => .done, (repository.addLedger entry).2)
  | .listCounters tenantId =>
    (.ok (.counters (repository.listCounters physical tenantId)), repository)
  | .listActiveReservations tenantId =>
    (.ok (.reservations (repository.listActiveReservations physical tenantId)), repository)
  | .listLedger tenantId => (.ok (.entries (repository.listLedger physical tenantId)), repository)
  | .listExpiredActive now limit =>
    (.ok (.expired (repository.listExpiredActive physical now limit)), repository)

def RepositoryCall.texts : RepositoryCall → List String
  | .listPolicies tenantId | .listCounters tenantId | .listActiveReservations tenantId
  | .listLedger tenantId => [tenantId]
  | .replacePolicy policy _ => [policy.tenantId, policy.policyId]
  | .reserve reservation _ => [reservation.tenantId, reservation.idempotencyKey]
  | .getReservation tenantId idempotencyKey => [tenantId, idempotencyKey]
  | .commit tenantId reservationId _ _ _ | .release tenantId reservationId _ _ =>
    [tenantId, reservationId]
  | .addLedger _ | .listExpiredActive _ _ => []

def RepositoryCall.sendable (call : RepositoryCall) : Bool :=
  call.texts.all fun text => !text.toList.contains (Char.ofNat 0)

def PostgresQuotaRepository.serve (repository : PostgresQuotaRepository) (physical : Physical)
  (call : RepositoryCall) : Except PostgresError RepositoryAnswer × PostgresQuotaRepository :=
  if call.sendable then repository.execute physical call else (.error .data, repository)

end AgentHarness.Quota
