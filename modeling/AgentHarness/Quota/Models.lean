import AgentHarness.Collections.Dict

/-!
Quota resources, policies, reservations and counters.

Instants are integers (microseconds in UTC); text that only a management view
shows, such as alert thresholds, is left out.
-/

namespace AgentHarness.Quota

open Collections

inductive QuotaResource where
  | concurrentRuns
  | concurrentSubagents
  | modelTokens
  | modelCostMicroUsd
  | mcpRequests
  | artifactBytes
  | snapshotBytes
  | activePreviews
  | deploymentPromotions
  deriving DecidableEq

def QuotaResource.value : QuotaResource → String
  | .concurrentRuns => "concurrent_runs"
  | .concurrentSubagents => "concurrent_subagents"
  | .modelTokens => "model_tokens"
  | .modelCostMicroUsd => "model_cost_micro_usd"
  | .mcpRequests => "mcp_requests"
  | .artifactBytes => "artifact_bytes"
  | .snapshotBytes => "snapshot_bytes"
  | .activePreviews => "active_previews"
  | .deploymentPromotions => "deployment_promotions"

inductive ReservationState where
  | active
  | committed
  | released
  | expired
  deriving DecidableEq

inductive CostState where
  | known
  | unknown
  deriving DecidableEq

structure QuotaScope where
  organizationId : Option String := none
  teamId : Option String := none
  userId : Option String := none
  agentName : Option String := none
  environment : Option String := none
  apiKeyId : Option String := none
  deriving DecidableEq

/-- `value or '*'`: an absent and an empty identifier read alike. -/
def orStar (value : Option String) : String :=
  match value with
  | none => "*"
  | some text => if text = "" then "*" else text

def QuotaScope.key (scope : QuotaScope) : String :=
  if scope.organizationId = none ∧ scope.teamId = none ∧ scope.userId = none ∧
      scope.apiKeyId = none then
    "agent=" ++ orStar scope.agentName ++ "|environment=" ++ orStar scope.environment
  else
    "|".intercalate
      [ "organization=" ++ orStar scope.organizationId
      , "team=" ++ orStar scope.teamId
      , "user=" ++ orStar scope.userId
      , "agent=" ++ orStar scope.agentName
      , "environment=" ++ orStar scope.environment
      , "key=" ++ orStar scope.apiKeyId ]

/-- `positive_limits`, the validator of a stored policy and of a request for one. -/
def positiveLimits (limits : Dict QuotaResource Int) : Bool :=
  !limits.entries.isEmpty && limits.values.all fun limit => decide (1 ≤ limit)

structure QuotaPolicy where
  (tenantId policyId : String)
  revision : Int
  scope : QuotaScope := {}
  limits : Dict QuotaResource Int
  positive : positiveLimits limits = true

structure QuotaConstraint where
  scopeKey : String
  limit : Int
  deriving DecidableEq

structure Attribution where
  organizationId : Option String := none
  teamIds : List String := []
  userId : Option String := none
  agentName : Option String := none
  environment : Option String := none
  apiKeyId : Option String := none

structure ResourceReservation where
  (tenantId reservationId idempotencyKey : String)
  resource : QuotaResource
  amount : Int
  constraints : List QuotaConstraint
  attribution : Attribution := {}
  subjectId : String
  state : ReservationState
  (createdAt expiresAt : Int)
  completedAt : Option Int := none

def ResourceReservation.scopeKeys (reservation : ResourceReservation) : List String :=
  reservation.constraints.map QuotaConstraint.scopeKey

structure UsageLedgerEntry where
  (tenantId entryId : String)
  reservationId : Option String := none
  resource : QuotaResource
  amount : Option Int := none
  costState : CostState := .known
  attribution : Attribution := {}
  subjectId : String
  occurredAt : Int

structure QuotaCounter where
  (reserved committed : Int)
  limit : Option Int

structure CounterKey where
  (tenantId scopeKey : String)
  resource : QuotaResource
  windowKey : String
  deriving DecidableEq

def counterKey (tenantId : String) (resource : QuotaResource) (windowKey scopeKey : String) :
  CounterKey :=
  { tenantId, scopeKey, resource, windowKey }

inductive QuotaError where
  | quotaExceeded (resource : QuotaResource) (limit requested used : Int)
  | conflict (message : String)
  | notFound (message : String)
  | valueError (message : String)
  | validationError (field : String)
  | keyError

def ResourceReservation.validated (reservation : ResourceReservation) :
  Except QuotaError ResourceReservation :=
  if reservation.tenantId = "" then .error (.validationError "tenantId")
  else if reservation.reservationId = "" then .error (.validationError "reservationId")
  else if reservation.idempotencyKey = "" then .error (.validationError "idempotencyKey")
  else if reservation.amount < 1 then .error (.validationError "amount")
  else if reservation.subjectId = "" then .error (.validationError "subjectId")
  else .ok reservation

theorem ResourceReservation.validated_ok {reservation result : ResourceReservation}
  (passed : reservation.validated = .ok result) :
  result = reservation ∧ 1 ≤ reservation.amount := by
  unfold validated at passed
  repeat' split at passed
  all_goals cases passed
  rename_i positive _
  exact ⟨rfl, by omega⟩

/-- The field checks of the ledger record, `unknown_has_no_amount` included. -/
def UsageLedgerEntry.validated (entry : UsageLedgerEntry) : Except QuotaError UsageLedgerEntry :=
  if entry.tenantId = "" then .error (.validationError "tenantId")
  else if entry.entryId = "" then .error (.validationError "entryId")
  else if entry.amount.any (fun amount => decide (amount < 0)) then
    .error (.validationError "amount")
  else if entry.subjectId = "" then .error (.validationError "subjectId")
  else if entry.costState = .unknown ∧ entry.amount ≠ none then
    .error (.valueError "unknown cost must not contain an amount")
  else if entry.costState = .known ∧ entry.amount = none then
    .error (.valueError "known usage requires an amount")
  else .ok entry

theorem UsageLedgerEntry.validated_ok {entry result : UsageLedgerEntry}
  (passed : entry.validated = .ok result) :
  result = entry ∧ ∀ amount, entry.amount = some amount → 0 ≤ amount := by
  unfold validated at passed
  repeat' split at passed
  all_goals cases passed
  rename_i nonneg _ _ _
  refine ⟨rfl, fun amount stored => ?_⟩
  simp only [stored, Option.any_some, decide_eq_true_eq] at nonneg
  omega

end AgentHarness.Quota
