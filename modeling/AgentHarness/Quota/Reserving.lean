import AgentHarness.Interaction.Serial
import AgentHarness.Quota.Conservation

/-!
The admission of a Run: several reservations, one after another, with compensation when one of
them fails.
-/

namespace AgentHarness.Quota

open Collections Interaction Program Dict List

/-- `Decimal(str(value))` of a finite amount: so many units of ten to the minus `places`. -/
structure UsdAmount where
  units : Int
  places : Nat

/-- `micro_usd`; more digits than the decimal context has raise `InvalidOperation`. -/
def microUsd (value : UsdAmount) : Except QuotaError Int :=
  let amount := -((-(value.units * 1000000)) / (10 ^ value.places : Int))
  if amount.natAbs < 10 ^ 28 then .ok amount else .error (.valueError "InvalidOperation")

structure AdmissionRequest where
  (tenantId runId agentName : String)
  environment : Option String := none
  maxBudgetUsd : Option UsdAmount := none
  maxModelTokens : Option Int := none
  ttlSeconds : Int
  userId : Option String := none
  teamIds : List String := []
  apiKeyId : Option String := none

namespace AdmissionRequest

variable (request : AdmissionRequest)

def attribution : Attribution where
  organizationId := some request.tenantId
  teamIds := request.teamIds
  userId := request.userId
  agentName := some request.agentName
  environment := request.environment
  apiKeyId := request.apiKeyId

/-- `f"run:{run_id}:{purpose}"`. -/
def idempotencyKey (purpose : String) : String := "run:" ++ request.runId ++ (":" ++ purpose)

def reservation (resource : QuotaResource) (amount : Int) (purpose : String) : ReserveRequest where
  tenantId := request.tenantId
  resource
  amount
  subjectId := request.runId
  idempotencyKey := request.idempotencyKey purpose
  attribution := request.attribution
  ttlSeconds := request.ttlSeconds

def requested : List (Except QuotaError ReserveRequest) :=
  [.ok (request.reservation .concurrentRuns 1 "concurrency")] ++
    (request.maxBudgetUsd.map fun budget =>
      (microUsd budget).map fun amount =>
        request.reservation .modelCostMicroUsd amount "cost").toList ++
    (request.maxModelTokens.map fun tokens =>
      .ok (request.reservation .modelTokens tokens "tokens")).toList

end AdmissionRequest

namespace QuotaService

/-- `try`: an exception is handed on as a value. -/
def tried {α : Type} (program : QuotaProgram α) : QuotaProgram (Except QuotaError α) :=
  (program.bind fun value => done (.ok value)).catching fun error => done (.error error)

variable (service : QuotaService)

def releaseAndRaise (reservations : List ResourceReservation) (error : QuotaError) :
  QuotaProgram (List ResourceReservation) :=
  (each reservations fun reservation => do
    let _ ← service.release reservation
    return ()).bind fun _ => raised error

/-- The `try` block of `admit_run` from one reservation on. -/
def admitEach (service : QuotaService) (admitted : List ResourceReservation) :
    List (Except QuotaError ReserveRequest) → QuotaProgram (List ResourceReservation)
  | [] => done admitted
  | asked :: rest => do
      match ← tried ((orRaise asked).bind service.reserve) with
      | .ok reservation => service.admitEach (admitted ++ [reservation]) rest
      | .error error => service.releaseAndRaise admitted error

def admitRun (request : AdmissionRequest) : QuotaProgram (List ResourceReservation) :=
  service.admitEach [] request.requested

/-- The loop of `ensure_run_admitted`. -/
def ensureEach (service : QuotaService) (admitted created : List ResourceReservation) :
    List ReserveRequest → QuotaProgram (List ResourceReservation)
  | [] => done admitted
  | asked :: rest => do
      match ← QuotaRepository.getReservation asked.tenantId asked.idempotencyKey with
      | some existing => service.ensureEach (admitted ++ [existing]) created rest
      | none =>
        match ← tried (service.reserve asked) with
        | .ok reservation =>
          service.ensureEach (admitted ++ [reservation]) (created ++ [reservation]) rest
        | .error error => service.releaseAndRaise created error

/-- The amounts are computed before the `try` block. -/
def ensureRunAdmitted (request : AdmissionRequest) : QuotaProgram (List ResourceReservation) := do
  let requested ← orRaise (request.requested.mapM id)
  service.ensureEach [] [] requested

end QuotaService

structure QuotaSession where
  store : QuotaStore
  readings : Nat → Int
  ticks : Nat := 0

namespace QuotaSession

variable (session : QuotaSession)

def tick : QuotaOp → Nat
  | .clock => session.ticks + 1
  | _ => session.ticks

def component (service : QuotaService) :
  Component QuotaOp QuotaOp.Answer QuotaError Unit QuotaSession Unit where
  respond _ _ session op :=
    ((service.respond (session.readings session.ticks) session.store op).1,
      { session with
        store := (service.respond (session.readings session.ticks) session.store op).2
        ticks := session.tick op })

abbrev repository (session : QuotaSession) : InMemoryQuotaRepository := session.store.repository

def skip (calls : Nat) : QuotaSession :=
  { session with
    store := { session.store with generated := session.store.generated + calls }
    ticks := session.ticks + calls }

def withRepository (repository : InMemoryQuotaRepository) : QuotaSession :=
  { session with store := { session.store with repository } }

end QuotaSession

namespace QuotaService

abbrev runs {α : Type} (service : QuotaService) (program : QuotaProgram α)
  (session : QuotaSession) : Except QuotaError α × QuotaSession :=
  program.alone (QuotaSession.component service) () () session

end QuotaService

open Collections Interaction Program InMemoryQuotaRepository

def constraintsFor (repository : InMemoryQuotaRepository) (request : ReserveRequest) :
  List QuotaConstraint :=
  constraintsOf request.resource
    (selectPolicies request.resource (request.attribution.organizationOr request.tenantId)
      (builtinPolicy request.tenantId :: repository.listPolicies request.tenantId) Dict.empty)

private structure Selects (resource : QuotaResource) (selected : Dict String QuotaPolicy) :
    Prop where
  found : ∃ scopeKey policy, selected.get? scopeKey = some policy
  limits : ∀ scopeKey policy, selected.get? scopeKey = some policy →
    policy.limits.get? resource ≠ none

theorem limits_set {resource : QuotaResource} {selected : Dict String QuotaPolicy}
  {policy : QuotaPolicy}
  (limits : ∀ scopeKey known, selected.get? scopeKey = some known →
    known.limits.get? resource ≠ none)
  (limited : policy.limits.get? resource ≠ none) :
  Selects resource (selected.set policy.scope.key policy) := by
  refine ⟨⟨policy.scope.key, policy, get?_set_self _ _ _⟩, ?_⟩
  exact forall_set limited limits

theorem selectPolicies_selects {resource : QuotaResource} {attribution : Attribution}
  (policies : List QuotaPolicy) {selected : Dict String QuotaPolicy}
  (selects : Selects resource selected) :
  Selects resource (selectPolicies resource attribution policies selected) := by
  induction policies generalizing selected with
  | nil => exact selects
  | cons policy rest ih =>
    rw [selectPolicies]
    split
    · exact ih selects
    case isFalse applies =>
      have limited : policy.limits.get? resource ≠ none := fun none => applies (.inr none)
      split
      · exact ih (limits_set selects.limits limited)
      split
      · exact ih (limits_set selects.limits limited)
      exact ih selects

theorem constraintsFor_ne_nil (repository : InMemoryQuotaRepository) (request : ReserveRequest) :
  constraintsFor repository request ≠ [] := by
  have limited : (builtinPolicy request.tenantId).limits.get? request.resource ≠ none := by
    change defaultLimits.get? request.resource ≠ none
    cases request.resource <;> decide
  have covers : (builtinPolicy request.tenantId).scope.covers
    (request.attribution.organizationOr request.tenantId) = true := by
    change QuotaScope.covers {} _ = true
    simp [QuotaScope.covers]
  have empty : ∀ (scopeKey : String) (known : QuotaPolicy),
    (Dict.empty : Dict String QuotaPolicy).get? scopeKey = some known →
      known.limits.get? request.resource ≠ none := fun _ _ found => nomatch found
  have selects : Selects request.resource (selectPolicies request.resource
    (request.attribution.organizationOr request.tenantId)
    (builtinPolicy request.tenantId :: repository.listPolicies request.tenantId) Dict.empty) := by
    rw [selectPolicies, if_neg (by simp [covers, limited])]
    exact selectPolicies_selects _ (limits_set empty limited)
  obtain ⟨scopeKey, policy, found⟩ := selects.found
  obtain ⟨limit, limits⟩ := Option.ne_none_iff_exists'.mp (selects.limits scopeKey policy found)
  have listed : { scopeKey, limit : QuotaConstraint } ∈ constraintsFor repository request := by
    rw [constraintsFor, constraintsOf, mem_filterMap]
    refine ⟨(scopeKey, policy), ?_, ?_⟩
    · rw [mem_mergeSort]
      exact get?_eq_some.mp found
    rw [limits]
    rfl
  exact ne_nil_of_mem listed

namespace QuotaService

variable (service : QuotaService)

section

variable {α β : Type} (session : QuotaSession)

theorem runs_bind (first : QuotaProgram α) (next : α → QuotaProgram β) :
    service.runs (first.bind next) session =
      match service.runs first session with
      | (.ok value, later) => service.runs (next value) later
      | (.error error, later) => (.error error, later) := by
  unfold runs
  rw [alone_bind]
  cases first.alone (QuotaSession.component service) () () session with
  | mk outcome later =>
    cases outcome with
    | ok value | error error => rfl

theorem runs_tried (program : QuotaProgram α) : service.runs (tried program) session =
  (.ok (service.runs program session).1, (service.runs program session).2) := by
  induction program generalizing session with
  | done value | raised error => rfl
  | call op next ih => exact ih _ _

theorem runs_clock : service.runs QuotaRepository.clock session =
  (.ok (session.readings session.ticks), { session with ticks := session.ticks + 1 }) := rfl

theorem runs_generateId (kind : String) : service.runs (QuotaRepository.generateId kind) session =
  (.ok (service.idGenerator kind session.store.generated),
    { session with
      store := { session.store with generated := session.store.generated + 1 } }) := rfl

theorem runs_orRaise (built : Except QuotaError α) :
  service.runs (orRaise built) session = (built, session) := by
  cases built with
  | ok value | error error => rfl

theorem runs_constraints (request : ReserveRequest) :
  service.runs (constraints request.tenantId request.resource
    (request.attribution.organizationOr request.tenantId)) session =
    (.ok (constraintsFor session.repository request), session) := rfl

theorem runs_repositoryReserve (reservation : ResourceReservation) (windowKey : String) :
  service.runs (QuotaRepository.reserve reservation windowKey) session =
    ((session.repository.reserve reservation windowKey).1,
    session.withRepository (session.repository.reserve reservation windowKey).2) := by
  unfold runs QuotaRepository.reserve
  rw [alone_perform]
  dsimp only [QuotaSession.component, respond]
  cases (session.repository.reserve reservation windowKey).1 with
  | ok value | error error => rfl

theorem runs_getReservation (tenantId idempotencyKey : String) :
  service.runs (QuotaRepository.getReservation tenantId idempotencyKey) session =
    (.ok (session.repository.getReservation tenantId idempotencyKey), session) := rfl

theorem runs_release (reservation : ResourceReservation) (expired : Bool) :
  service.runs (service.release reservation expired) session =
    ((session.repository.release reservation.tenantId reservation.reservationId
        (if expired then .expired else .released)
        (service.windowKey reservation.resource reservation.createdAt)).1,
      session.withRepository (session.repository.release reservation.tenantId
        reservation.reservationId (if expired then .expired else .released)
        (service.windowKey reservation.resource reservation.createdAt)).2) := by
  unfold runs release QuotaRepository.release
  rw [alone_perform]
  dsimp only [QuotaSession.component, respond]
  cases (session.repository.release reservation.tenantId reservation.reservationId
    (if expired then .expired else .released)
    (service.windowKey reservation.resource reservation.createdAt)).1 with
  | ok value | error error => rfl

theorem runs_reserving (built : Except QuotaError ResourceReservation) (windowKey : String) :
    service.runs
        ((orRaise built).bind fun reservation => QuotaRepository.reserve reservation windowKey)
        session =
      match built with
      | .error error => (.error error, session)
      | .ok reservation =>
        ((session.repository.reserve reservation windowKey).1,
          session.withRepository (session.repository.reserve reservation windowKey).2) := by
  cases built with
  | ok reservation => exact service.runs_repositoryReserve session reservation windowKey
  | error error => rfl

end

/-- The record that `reserve` builds. -/
def drawn (session : QuotaSession) (request : ReserveRequest) : ResourceReservation where
  tenantId := request.tenantId
  reservationId := service.idGenerator "quota" session.store.generated
  idempotencyKey := request.idempotencyKey
  resource := request.resource
  amount := request.amount
  constraints := constraintsFor session.repository request
  attribution := request.attribution.organizationOr request.tenantId
  subjectId := request.subjectId
  state := .active
  createdAt := session.readings session.ticks
  expiresAt := session.readings session.ticks + request.ttlSeconds * 1000000

theorem runs_reserve_short (session : QuotaSession) {request : ReserveRequest}
  (short : request.amount < 1) :
  service.runs (service.reserve request) session =
    (.error (.valueError "quota reservation amount must be positive"), session) := by
  rw [reserve, if_pos short]
  rfl

theorem runs_reserve (session : QuotaSession) {request : ReserveRequest}
    (long : 1 ≤ request.amount) :
    service.runs (service.reserve request) session =
      match (service.drawn session request).validated with
      | .error error => (.error error, session.skip 1)
      | .ok reservation =>
        ((session.repository.reserve reservation
            (service.windowKey request.resource (session.readings session.ticks))).1,
          (session.skip 1).withRepository (session.repository.reserve reservation
            (service.windowKey request.resource (session.readings session.ticks))).2) := by
  rw [reserve, if_neg (by omega), bind_eq, runs_bind, runs_clock]
  dsimp only
  rw [bind_eq, runs_bind, runs_constraints]
  dsimp only
  rw [bind_eq, runs_bind, runs_generateId]
  exact service.runs_reserving (session.skip 1) (service.drawn session request).validated _

structure Sound (session : QuotaSession) : Prop where
  balanced : session.repository.Balanced service.windowKey
  reservationIds : ∀ tenantId id, (session.repository.reservations.get? (tenantId, id)).isSome →
      ∃ drawn < session.store.generated, id = service.idGenerator "quota" drawn

variable {service} {session later : QuotaSession} {request : ReserveRequest}

theorem Sound.fresh (sound : service.Sound session) (tenantId : String) :
  session.repository.reservations.get?
    (tenantId, service.idGenerator "quota" session.store.generated) = none := by
  cases stored : session.repository.reservations.get?
    (tenantId, service.idGenerator "quota" session.store.generated) with
  | none => rfl
  | some reservation =>
    obtain ⟨earlier, before, same⟩ := sound.reservationIds tenantId _ (by rw [stored]; rfl)
    have equal := service.distinctIds "quota" same
    omega

theorem Sound.skip (sound : service.Sound session) (calls : Nat) :
  service.Sound (session.skip calls) := by
  refine ⟨sound.balanced, ?_⟩
  intro tenantId id stored
  obtain ⟨earlier, before, same⟩ := sound.reservationIds tenantId id stored
  exact ⟨earlier, Nat.lt_of_lt_of_le before (Nat.le_add_right _ _), same⟩

theorem drawn_scopeKeys (session : QuotaSession) (request : ReserveRequest) :
  (service.drawn session request).scopeKeys.Nodup := constraintsOf_distinct _ _

def admitting (repository : InMemoryQuotaRepository) (reservation : ResourceReservation)
  (windowKey : String) : InMemoryQuotaRepository :=
  { repository with
    counters := hold reservation windowKey reservation.constraints repository.counters
    reservations := repository.reservations.set
      (reservation.tenantId, reservation.reservationId) reservation
    idempotency := repository.idempotency.set
      (reservation.tenantId, reservation.idempotencyKey) reservation.reservationId }

section

variable {repository : InMemoryQuotaRepository} {reservation existing : ResourceReservation}
  {id : String} {error : QuotaError}

theorem reserve_replayed (windowKey : String)
  (indexed : repository.idempotency.get? (reservation.tenantId, reservation.idempotencyKey) =
    some id)
  (stored : repository.reservations.get? (reservation.tenantId, id) = some existing)
  (same : existing.sameRequest reservation = true) :
  repository.reserve reservation windowKey = (.ok existing, repository) := by
  simp [InMemoryQuotaRepository.reserve, indexed, stored, same]

theorem reserve_reused (windowKey : String)
  (indexed : repository.idempotency.get? (reservation.tenantId, reservation.idempotencyKey) =
    some id)
  (stored : repository.reservations.get? (reservation.tenantId, id) = some existing)
  (other : ¬ existing.sameRequest reservation = true) :
  repository.reserve reservation windowKey =
    (.error (.conflict "quota reservation idempotency key was reused"), repository) := by
  simp [InMemoryQuotaRepository.reserve, indexed, stored, if_neg other]

theorem reserve_refused {windowKey : String}
  (indexed : repository.idempotency.get? (reservation.tenantId, reservation.idempotencyKey) = none)
  (full : refusal repository.counters reservation windowKey reservation.constraints = some error) :
  repository.reserve reservation windowKey = (.error error, repository) := by
  simp [InMemoryQuotaRepository.reserve, indexed, full]

theorem reserve_admitted {windowKey : String}
  (indexed : repository.idempotency.get? (reservation.tenantId, reservation.idempotencyKey) = none)
  (room : refusal repository.counters reservation windowKey reservation.constraints = none) :
  repository.reserve reservation windowKey =
    (.ok reservation, admitting repository reservation windowKey) := by
  simp only [InMemoryQuotaRepository.reserve, indexed, room]
  rfl

end

theorem Sound.admits (sound : service.Sound session) (positive : 1 ≤ request.amount)
  (admitted : session.repository.reserve (service.drawn session request)
    (service.windowKey request.resource (session.readings session.ticks)) =
    (.ok (service.drawn session request), admitting session.repository
    (service.drawn session request)
    (service.windowKey request.resource (session.readings session.ticks)))) :
  service.Sound ((session.skip 1).withRepository (admitting session.repository
    (service.drawn session request)
    (service.windowKey request.resource (session.readings session.ticks)))) := by
  have balanced : (session.repository.reserve (service.drawn session request)
    (service.windowKey request.resource (session.readings session.ticks))).2.Balanced
      service.windowKey :=
    reserve_balanced sound.balanced (sound.fresh request.tenantId) rfl positive
      (drawn_scopeKeys session request) rfl
  rw [admitted] at balanced
  refine ⟨balanced, ?_⟩
  intro tenantId id stored
  have keyed : ((session.repository.reservations.set
    (request.tenantId, service.idGenerator "quota" session.store.generated)
    (service.drawn session request)).get? (tenantId, id)).isSome := stored
  rw [get?_set] at keyed
  split at keyed
  case isTrue same =>
    cases same
    exact ⟨session.store.generated, Nat.lt_succ_self _, rfl⟩
  · obtain ⟨earlier, before, same⟩ := sound.reservationIds tenantId id keyed
    exact ⟨earlier, Nat.lt_succ_of_lt before, same⟩

theorem Sound.reserve (sound : service.Sound session) (request : ReserveRequest) :
  (∃ error later, service.runs (service.reserve request) session = (.error error, later) ∧
    later.repository = session.repository ∧ service.Sound later) ∨
  (∃ existing, session.repository.getReservation request.tenantId request.idempotencyKey =
    some existing ∧ existing.resource = request.resource ∧
    existing.amount = request.amount ∧
    existing.constraints = constraintsFor session.repository request ∧
    service.runs (service.reserve request) session = (.ok existing, session.skip 1)) ∨
  (session.repository.getReservation request.tenantId request.idempotencyKey = none ∧
    service.runs (service.reserve request) session = (.ok (service.drawn session request),
    (session.skip 1).withRepository (admitting session.repository
    (service.drawn session request)
    (service.windowKey request.resource (session.readings session.ticks)))) ∧
    service.Sound ((session.skip 1).withRepository (admitting session.repository
    (service.drawn session request)
    (service.windowKey request.resource (session.readings session.ticks))))) := by
  by_cases long : 1 ≤ request.amount
  · have ran := service.runs_reserve session long
    cases built : (service.drawn session request).validated with
    | error error =>
      rw [built] at ran
      exact .inl ⟨error, _, ran, rfl, sound.skip 1⟩
    | ok reservation =>
      rw [built] at ran
      obtain ⟨rfl, positive⟩ := ResourceReservation.validated_ok built
      dsimp only at ran
      have indexes : (service.drawn session request).tenantId = request.tenantId ∧
        (service.drawn session request).idempotencyKey = request.idempotencyKey := ⟨rfl, rfl⟩
      cases indexed : session.repository.idempotency.get?
        (request.tenantId, request.idempotencyKey) with
      | some id =>
        have present := sound.balanced.replayable _ _ id indexed
        cases stored : session.repository.reservations.get? (request.tenantId, id) with
        | none =>
          rw [stored] at present
          cases present
        | some existing =>
          by_cases same : existing.sameRequest (service.drawn session request) = true
          · have replayed := reserve_replayed (service.windowKey request.resource
              (session.readings session.ticks)) indexed stored same
            rw [replayed] at ran
            obtain ⟨resource, amount, constraints, _⟩ := of_decide_eq_true same
            refine .inr (.inl ⟨existing, ?_, resource, amount, constraints, ran⟩)
            rw [getReservation, indexed]
            exact stored
          have reused := reserve_reused (service.windowKey request.resource
            (session.readings session.ticks)) indexed stored same
          rw [reused] at ran
          exact .inl ⟨_, _, ran, rfl, sound.skip 1⟩
      | none =>
        cases room : refusal session.repository.counters (service.drawn session request)
          (service.windowKey request.resource (session.readings session.ticks))
          (service.drawn session request).constraints with
        | some error =>
          rw [reserve_refused indexed room] at ran
          exact .inl ⟨error, _, ran, rfl, sound.skip 1⟩
        | none =>
          have admitted := reserve_admitted indexed room
          rw [admitted] at ran
          refine .inr (.inr ⟨?_, ran, ?_⟩)
          · rw [getReservation, indexed]
          exact sound.admits positive admitted
  exact .inl ⟨_, session, service.runs_reserve_short session (by omega), rfl, sound⟩

end QuotaService

end AgentHarness.Quota
