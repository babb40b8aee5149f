import AgentHarness.Interaction.Pool
import AgentHarness.Quota.Repository

/-!
The quota service over its repository.  A service call awaits the repository
several times, so it is a program; calls of several clients interleave at every
one of these points.
-/

namespace AgentHarness.Quota

open Collections Interaction

/-- `utcFormat pattern at` renders an instant in UTC; an id generator never
hands out one id twice. -/
structure QuotaService where
  utcFormat : String → Int → String
  idGenerator : String → Nat → String
  distinctIds : ∀ kind, Function.Injective (idGenerator kind)

inductive QuotaOp where
  | clock
  | generateId (kind : String)
  | listPolicies (tenantId : String)
  | replacePolicy (policy : QuotaPolicy) (expectedRevision : Int)
  | reserve (reservation : ResourceReservation) (windowKey : String)
  | getReservation (tenantId idempotencyKey : String)
  | commit (tenantId reservationId : String) (amount : Int) (windowKey : String)
      (ledger : UsageLedgerEntry)
  | release (tenantId reservationId : String) (state : ReservationState) (windowKey : String)
  | addLedger (entry : UsageLedgerEntry)
  | listActiveReservations (tenantId : String)
  | listExpiredActive (now : Int) (limit : Nat)

abbrev QuotaOp.Answer : QuotaOp → Type
  | .clock => Int
  | .generateId _ => String
  | .listPolicies _ => List QuotaPolicy
  | .replacePolicy _ _ => QuotaPolicy
  | .reserve _ _ | .commit _ _ _ _ _ | .release _ _ _ _ => ResourceReservation
  | .getReservation _ _ => Option ResourceReservation
  | .addLedger _ => Unit
  | .listActiveReservations _ | .listExpiredActive _ _ => List ResourceReservation

abbrev QuotaProgram := Program QuotaOp QuotaOp.Answer QuotaError

namespace QuotaRepository

open Program

abbrev clock : QuotaProgram Int := perform QuotaOp.clock fun answer => answer

abbrev generateId (kind : String) : QuotaProgram String :=
  perform (QuotaOp.generateId kind) fun answer => answer

abbrev listPolicies (tenantId : String) : QuotaProgram (List QuotaPolicy) :=
  perform (QuotaOp.listPolicies tenantId) fun answer => answer

abbrev replacePolicy (policy : QuotaPolicy) (expectedRevision : Int) : QuotaProgram QuotaPolicy :=
  perform (QuotaOp.replacePolicy policy expectedRevision) fun answer => answer

abbrev reserve (reservation : ResourceReservation) (windowKey : String) :
  QuotaProgram ResourceReservation :=
  perform (QuotaOp.reserve reservation windowKey) fun answer => answer

abbrev getReservation (tenantId idempotencyKey : String) :
  QuotaProgram (Option ResourceReservation) :=
  perform (QuotaOp.getReservation tenantId idempotencyKey) fun answer => answer

abbrev commit (tenantId reservationId : String) (amount : Int) (windowKey : String)
  (ledger : UsageLedgerEntry) : QuotaProgram ResourceReservation :=
  perform (QuotaOp.commit tenantId reservationId amount windowKey ledger) fun answer => answer

abbrev release (tenantId reservationId : String) (state : ReservationState)
  (windowKey : String) : QuotaProgram ResourceReservation :=
  perform (QuotaOp.release tenantId reservationId state windowKey) fun answer => answer

abbrev addLedger (entry : UsageLedgerEntry) : QuotaProgram Unit :=
  perform (QuotaOp.addLedger entry) fun answer => answer

abbrev listActiveReservations (tenantId : String) : QuotaProgram (List ResourceReservation) :=
  perform (QuotaOp.listActiveReservations tenantId) fun answer => answer

abbrev listExpiredActive (now : Int) (limit : Nat) : QuotaProgram (List ResourceReservation) :=
  perform (QuotaOp.listExpiredActive now limit) fun answer => answer

end QuotaRepository

structure QuotaStore where
  repository : InMemoryQuotaRepository := {}
  generated : Nat := 0

namespace QuotaService

variable (service : QuotaService)

def respond (now : Int) (store : QuotaStore) :
    (op : QuotaOp) → Except QuotaError op.Answer × QuotaStore
  | .clock => (.ok now, store)
  | .generateId kind =>
    (.ok (service.idGenerator kind store.generated),
      { store with generated := store.generated + 1 })
  | .listPolicies tenantId => (.ok (store.repository.listPolicies tenantId), store)
  | .replacePolicy policy expectedRevision =>
    let reply := store.repository.replacePolicy policy expectedRevision
    (reply.1, { store with repository := reply.2 })
  | .reserve reservation windowKey =>
    let reply := store.repository.reserve reservation windowKey
    (reply.1, { store with repository := reply.2 })
  | .getReservation tenantId idempotencyKey =>
    (.ok (store.repository.getReservation tenantId idempotencyKey), store)
  | .commit tenantId reservationId amount windowKey ledger =>
    let reply := store.repository.commit tenantId reservationId amount windowKey ledger
    (reply.1, { store with repository := reply.2 })
  | .release tenantId reservationId state windowKey =>
    let reply := store.repository.release tenantId reservationId state windowKey
    (reply.1, { store with repository := reply.2 })
  | .addLedger entry => (.ok (), { store with repository := store.repository.addLedger entry })
  | .listActiveReservations tenantId =>
    (.ok (store.repository.listActiveReservations tenantId), store)
  | .listExpiredActive now limit => (.ok (store.repository.listExpiredActive now limit), store)

def component : Component QuotaOp QuotaOp.Answer QuotaError Nat QuotaStore Int where
  respond _ now store op := service.respond now store op

def windowKey (resource : QuotaResource) (instant : Int) : String :=
  match resource with
  | .concurrentRuns | .concurrentSubagents | .activePreviews => "active"
  | .mcpRequests => service.utcFormat "%Y-%m-%dT%H:%M:%SZ" instant
  | _ => service.utcFormat "%Y-%m" instant

end QuotaService

def defaultLimits : Dict QuotaResource Int where
  entries :=
    [ (.concurrentRuns, 20)
    , (.concurrentSubagents, 50)
    , (.modelTokens, 10000000)
    , (.modelCostMicroUsd, 1000000000)
    , (.mcpRequests, 50)
    , (.artifactBytes, 5 * 1024 * 1024 * 1024)
    , (.snapshotBytes, 20 * 1024 * 1024 * 1024)
    , (.activePreviews, 10)
    , (.deploymentPromotions, 100) ]
  distinct := by decide

def builtinPolicy (tenantId : String) : QuotaPolicy where
  tenantId
  policyId := "tenant-default"
  revision := 0
  limits := defaultLimits
  positive := by decide

def QuotaScope.covers (scope : QuotaScope) (attribution : Attribution) : Bool :=
  decide ((scope.organizationId = none ∨ scope.organizationId = attribution.organizationId) ∧
    (scope.teamId = none ∨ scope.teamId.any (attribution.teamIds.contains ·) = true) ∧
    (scope.userId = none ∨ scope.userId = attribution.userId) ∧
    (scope.agentName = none ∨ scope.agentName = attribution.agentName) ∧
    (scope.environment = none ∨ scope.environment = attribution.environment) ∧
    (scope.apiKeyId = none ∨ scope.apiKeyId = attribution.apiKeyId))

/-- The loop of `_constraints`: one policy for each scope key, the newest revision. -/
def selectPolicies (resource : QuotaResource) (attribution : Attribution) :
    List QuotaPolicy → Dict String QuotaPolicy → Dict String QuotaPolicy
  | [], selected => selected
  | policy :: rest, selected =>
    if policy.scope.covers attribution = false ∨ policy.limits.get? resource = none then
      selectPolicies resource attribution rest selected
    else
      match selected.get? policy.scope.key with
      | none => selectPolicies resource attribution rest (selected.set policy.scope.key policy)
      | some current =>
        if policy.revision > current.revision then
          selectPolicies resource attribution rest (selected.set policy.scope.key policy)
        else
          selectPolicies resource attribution rest selected

def constraintsOf (resource : QuotaResource) (selected : Dict String QuotaPolicy) :
  List QuotaConstraint :=
  (selected.entries.mergeSort fun left right => decide (left.1 ≤ right.1)).filterMap
    (fun entry => (entry.2.limits.get? resource).map
      fun limit => { scopeKey := entry.1, limit })

structure ReserveRequest where
  tenantId : String
  resource : QuotaResource
  amount : Int
  (subjectId idempotencyKey : String)
  attribution : Attribution := {}
  ttlSeconds : Int := 3600

/-- `organization_id or tenant_id`. -/
def Attribution.organizationOr (attribution : Attribution) (tenantId : String) : Attribution :=
  { attribution with
    organizationId := match attribution.organizationId with
      | none => some tenantId
      | some organization => if organization = "" then some tenantId else some organization }

def orRaise {α : Type} : Except QuotaError α → QuotaProgram α
  | .ok value => .done value
  | .error error => .raised error

namespace QuotaService

open Program
open QuotaRepository (clock generateId listPolicies getReservation
  listActiveReservations listExpiredActive)

def constraints (tenantId : String) (resource : QuotaResource) (attribution : Attribution) :
  QuotaProgram (List QuotaConstraint) := do
  let stored ← listPolicies tenantId
  return constraintsOf resource
    (selectPolicies resource attribution (builtinPolicy tenantId :: stored) Dict.empty)

def reserve (service : QuotaService) (request : ReserveRequest) :
  QuotaProgram ResourceReservation :=
  if request.amount < 1 then
    raised (.valueError "quota reservation amount must be positive")
  else do
    let now ← clock
    let attribution := request.attribution.organizationOr request.tenantId
    let constraints ← constraints request.tenantId request.resource attribution
    let reservationId ← generateId "quota"
    let reservation ← orRaise
      { tenantId := request.tenantId, reservationId
        idempotencyKey := request.idempotencyKey, resource := request.resource
        amount := request.amount, constraints, attribution
        subjectId := request.subjectId, state := .active, createdAt := now
        expiresAt := now + request.ttlSeconds * 1000000 : ResourceReservation }.validated
    QuotaRepository.reserve reservation (service.windowKey request.resource now)

def commit (service : QuotaService) (reservation : ResourceReservation)
  (amount : Option Int := none) : QuotaProgram ResourceReservation := do
  let committedAmount := amount.getD reservation.amount
  let now ← clock
  let entryId ← generateId "usage"
  let ledger ← orRaise
    { tenantId := reservation.tenantId, entryId
      reservationId := some reservation.reservationId, resource := reservation.resource
      amount := some committedAmount, attribution := reservation.attribution
      subjectId := reservation.subjectId, occurredAt := now : UsageLedgerEntry }.validated
  QuotaRepository.commit reservation.tenantId reservation.reservationId committedAmount
    (service.windowKey reservation.resource reservation.createdAt) ledger

def release (service : QuotaService) (reservation : ResourceReservation)
  (expired : Bool := false) : QuotaProgram ResourceReservation :=
  QuotaRepository.release reservation.tenantId reservation.reservationId
    (if expired then .expired else .released)
    (service.windowKey reservation.resource reservation.createdAt)

variable (service : QuotaService)

def consume (request : ReserveRequest) : QuotaProgram ResourceReservation := do
  let reservation ← service.reserve request
  service.commit reservation

def replacePolicy (tenantId policyId : String) (expectedRevision : Int) (scope : QuotaScope)
  (limits : Dict QuotaResource Int) : QuotaProgram QuotaPolicy :=
  if positive : positiveLimits limits = true then
    QuotaRepository.replacePolicy
      { tenantId, policyId, revision := expectedRevision + 1, scope
        limits, positive } expectedRevision
  else
    raised (.valueError "quota limits must be positive")

def releaseAll (reservations : List ResourceReservation) (expired : Bool) : QuotaProgram Nat := do
  each reservations (fun reservation => do
    let _ ← service.release reservation expired
    return ())
  return reservations.length

def releaseSubject (tenantId subjectId : String) : QuotaProgram Nat := do
  let reservations ← listActiveReservations tenantId
  service.releaseAll
    (reservations.filter fun reservation => reservation.subjectId = subjectId) false

def releaseIdempotency (tenantId idempotencyKey : String) :
  QuotaProgram (Option ResourceReservation) := do
  match ← getReservation tenantId idempotencyKey with
  | none => return none
  | some reservation =>
    if reservation.state ≠ .active then return some reservation
    else return some (← service.release reservation)

def reapExpired (tenantId : String) : QuotaProgram Nat := do
  let now ← clock
  let reservations ← listActiveReservations tenantId
  service.releaseAll
    (reservations.filter fun reservation => decide (reservation.expiresAt ≤ now)) true

def reapExpiredAll (limit : Nat := 200) : QuotaProgram Nat := do
  let now ← clock
  let reservations ← listExpiredActive now limit
  service.releaseAll reservations true

end QuotaService

end AgentHarness.Quota
