import AgentHarness.Quota.Models

/-!
The in-memory quota repository.  Each function is one pass under the lock; it
returns the answer or the exception together with the repository it leaves.
-/

namespace AgentHarness.Quota

open Collections

structure InMemoryQuotaRepository where
  policies : Dict (String × String) QuotaPolicy := Dict.empty
  reservations : Dict (String × String) ResourceReservation := Dict.empty
  idempotency : Dict (String × String) String := Dict.empty
  counters : Dict CounterKey QuotaCounter := Dict.empty
  ledger : Dict (String × String) UsageLedgerEntry := Dict.empty

namespace ResourceReservation

def sameRequest (existing reservation : ResourceReservation) : Bool :=
  existing.resource = reservation.resource ∧ existing.amount = reservation.amount ∧
    existing.constraints = reservation.constraints ∧
    existing.subjectId = reservation.subjectId

end ResourceReservation

namespace InMemoryQuotaRepository

variable (repository : InMemoryQuotaRepository)

def listPolicies (tenantId : String) : List QuotaPolicy :=
  (repository.policies.entries.filter fun entry => entry.1.1 = tenantId).map Prod.snd

def replacePolicy (policy : QuotaPolicy) (expectedRevision : Int) :
  Except QuotaError QuotaPolicy × InMemoryQuotaRepository :=
  let key := (policy.tenantId, policy.policyId)
  let actual := match repository.policies.get? key with
    | some current => current.revision
    | none => 0
  if actual ≠ expectedRevision then
    (.error (.conflict ("quota policy revision changed: expected=" ++
      toString expectedRevision ++ " actual=" ++ toString actual)), repository)
  else
    (.ok policy, { repository with policies := repository.policies.set key policy })

def counterOr (counters : Dict CounterKey QuotaCounter) (key : CounterKey) (limit : Int) :
  QuotaCounter :=
  (counters.get? key).getD { reserved := 0, committed := 0, limit := some limit }

/-- The first loop of `reserve`: the refusal of the first constraint without room. -/
def refusal (counters : Dict CounterKey QuotaCounter) (reservation : ResourceReservation)
    (windowKey : String) : List QuotaConstraint → Option QuotaError
  | [] => none
  | constraint :: rest =>
    let key := counterKey reservation.tenantId reservation.resource windowKey
      constraint.scopeKey
    let current := counterOr counters key constraint.limit
    let used := current.reserved + current.committed
    if used + reservation.amount > constraint.limit then
      some (.quotaExceeded reservation.resource constraint.limit reservation.amount used)
    else
      refusal counters reservation windowKey rest

/-- The second loop of `reserve`. -/
def hold (reservation : ResourceReservation) (windowKey : String) :
    List QuotaConstraint → Dict CounterKey QuotaCounter → Dict CounterKey QuotaCounter
  | [], counters => counters
  | constraint :: rest, counters =>
    let key := counterKey reservation.tenantId reservation.resource windowKey
      constraint.scopeKey
    let current := counterOr counters key constraint.limit
    hold reservation windowKey rest (counters.set key
      { current with
        reserved := current.reserved + reservation.amount, limit := some constraint.limit })

def reserve (reservation : ResourceReservation) (windowKey : String) :
  Except QuotaError ResourceReservation × InMemoryQuotaRepository :=
  let idempotency := (reservation.tenantId, reservation.idempotencyKey)
  match repository.idempotency.get? idempotency with
  | some existingId =>
    match repository.reservations.get? (reservation.tenantId, existingId) with
    | none => (.error .keyError, repository)
    | some existing =>
      if existing.sameRequest reservation then (.ok existing, repository)
      else (.error (.conflict "quota reservation idempotency key was reused"), repository)
  | none =>
    match refusal repository.counters reservation windowKey reservation.constraints with
    | some error => (.error error, repository)
    | none =>
      (.ok reservation,
        { repository with
          counters := hold reservation windowKey reservation.constraints repository.counters
          reservations := repository.reservations.set
            (reservation.tenantId, reservation.reservationId) reservation
          idempotency := repository.idempotency.set idempotency
            reservation.reservationId })

def getReservation (tenantId idempotencyKey : String) : Option ResourceReservation :=
  match repository.idempotency.get? (tenantId, idempotencyKey) with
  | some reservationId => repository.reservations.get? (tenantId, reservationId)
  | none => none

/-- The counter loop of `commit` and of `release`: the hold is given back and
`committed` is added.  A missing counter stops it halfway. -/
def settle (tenantId : String) (reservation : ResourceReservation) (windowKey : String)
    (committed : Int) :
    List QuotaConstraint → Dict CounterKey QuotaCounter →
      Option QuotaError × Dict CounterKey QuotaCounter
  | [], counters => (none, counters)
  | constraint :: rest, counters =>
    let key := counterKey tenantId reservation.resource windowKey constraint.scopeKey
    match counters.get? key with
    | none => (some .keyError, counters)
    | some current =>
      settle tenantId reservation windowKey committed rest (counters.set key
        { current with
          reserved := current.reserved - reservation.amount
          committed := current.committed + committed })

def commit (tenantId reservationId : String) (amount : Int) (windowKey : String)
  (ledger : UsageLedgerEntry) : Except QuotaError ResourceReservation × InMemoryQuotaRepository :=
  let key := (tenantId, reservationId)
  match repository.reservations.get? key with
  | none => (.error (.notFound ("quota reservation not found: " ++ reservationId)), repository)
  | some reservation =>
    if reservation.state = .committed then (.ok reservation, repository)
    else if reservation.state ≠ .active then
      (.error (.conflict "quota reservation is not active"), repository)
    else if amount < 0 then
      (.error (.valueError "committed amount must not be negative"), repository)
    else
      match settle tenantId reservation windowKey amount reservation.constraints
          repository.counters with
      | (some error, counters) => (.error error, { repository with counters })
      | (none, counters) =>
        let committed : ResourceReservation :=
          { reservation with
            state := .committed, completedAt := some ledger.occurredAt }
        (.ok committed,
          { repository with
            counters, reservations := repository.reservations.set key committed
            ledger := repository.ledger.set (tenantId, ledger.entryId) ledger })

def release (repository : InMemoryQuotaRepository) (tenantId reservationId : String)
  (state : ReservationState) (windowKey : String) :
  Except QuotaError ResourceReservation × InMemoryQuotaRepository :=
  if state ≠ .released ∧ state ≠ .expired then
    (.error (.valueError "release state must be released or expired"), repository)
  else
    let key := (tenantId, reservationId)
    match repository.reservations.get? key with
    | none => (.error (.notFound ("quota reservation not found: " ++ reservationId)), repository)
    | some reservation =>
      if reservation.state ≠ .active then (.ok reservation, repository)
      else
        match settle tenantId reservation windowKey 0 reservation.constraints
            repository.counters with
        | (some error, counters) => (.error error, { repository with counters })
        | (none, counters) =>
          let released : ResourceReservation :=
            { reservation with
              state, completedAt := some reservation.expiresAt }
          (.ok released,
            { repository with
              counters, reservations := repository.reservations.set key released })

def addLedger (entry : UsageLedgerEntry) : InMemoryQuotaRepository :=
  { repository with
    ledger := repository.ledger.setDefault (entry.tenantId, entry.entryId) entry }

def listActiveReservations (tenantId : String) : List ResourceReservation :=
  (repository.reservations.entries.filter (fun entry =>
    decide (entry.1.1 = tenantId ∧ entry.2.state = .active))).map Prod.snd

def listExpiredActive (now : Int) (limit : Nat) : List ResourceReservation :=
  (repository.reservations.values.filter (fun reservation =>
    decide (reservation.state = .active ∧ reservation.expiresAt ≤ now))).take limit

end InMemoryQuotaRepository

end AgentHarness.Quota
