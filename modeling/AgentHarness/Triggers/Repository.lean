import AgentHarness.Auth.Repositories
import AgentHarness.Collections.Dict
import AgentHarness.Core.Manifest
import AgentHarness.Deployments.Models
import AgentHarness.Interaction.Pool

/-!
Triggers that invoke a deployed agent, as they are stored.

Instants are integers. The digest of a secret is a parameter of the service.
-/

namespace AgentHarness.Triggers

open Deployments (EnvironmentName)

inductive TriggerKind
  | webhook
  | a2a
  | schedule
  | chatops
  deriving DecidableEq

def TriggerKind.value : TriggerKind → String
  | .webhook => "webhook"
  | .a2a => "a2a"
  | .schedule => "schedule"
  | .chatops => "chatops"

structure TriggerSchedule where
  intervalSeconds : Nat
  timezone : String := "UTC"
  prompt : String
  deriving DecidableEq

structure TriggerChatOps where
  provider : String := "generic"
  allowedChannelIds : List String := []
  deriving DecidableEq

structure StoredAgentTrigger where
  (tenantId triggerId : String)
  kind : TriggerKind := .webhook
  (name agentName : String)
  environment : EnvironmentName
  enabled : Bool := true
  revision : Nat
  createdBy : String
  (createdAt updatedAt : Int)
  lastInvokedAt : Option Int := none
  schedule : Option TriggerSchedule := none
  chatops : Option TriggerChatOps := none
  nextFireAt : Option Int := none
  secretDigest : String
  deriving DecidableEq

inductive TriggerError
  | conflict (message : String)
  | notFound (message : String)
  | value (message : String)
  deriving DecidableEq

def sized (low high : Nat) (text : String) : Bool := low ≤ text.length && text.length ≤ high

def isDigest (text : String) : Bool :=
  text.length = 64 && text.toList.all fun char => ('a' ≤ char && char ≤ 'f') || char.isDigit

def TriggerSchedule.accepted (schedule : TriggerSchedule) : Bool :=
  60 ≤ schedule.intervalSeconds && schedule.intervalSeconds ≤ 31536000 &&
    sized 1 80 schedule.timezone && sized 1 200000 schedule.prompt

def TriggerChatOps.accepted (chatops : TriggerChatOps) : Bool :=
  ["slack", "teams", "email", "generic"].contains chatops.provider

def StoredAgentTrigger.kindConfiguration (trigger : StoredAgentTrigger) : Except String Unit :=
  if decide (trigger.kind = .schedule) ≠ trigger.schedule.isSome then
    .error "schedule triggers require exactly one schedule configuration"
  else if decide (trigger.kind = .chatops) ≠ trigger.chatops.isSome then
    .error "chatops triggers require exactly one chatops configuration"
  else .ok ()

/-- The field constraints of `AgentTrigger` and `StoredAgentTrigger`. -/
def StoredAgentTrigger.fieldsAccepted (trigger : StoredAgentTrigger) : Bool :=
  trigger.tenantId ≠ "" && trigger.triggerId ≠ "" && sized 1 120 trigger.name &&
    Core.isKebab trigger.agentName && 1 ≤ trigger.revision && trigger.createdBy ≠ "" &&
    trigger.schedule.all TriggerSchedule.accepted && trigger.chatops.all TriggerChatOps.accepted &&
    isDigest trigger.secretDigest

/-- `model_validate`. -/
def StoredAgentTrigger.validate (trigger : StoredAgentTrigger) : Except TriggerError Unit :=
  if trigger.fieldsAccepted = false then .error (.value "StoredAgentTrigger field")
  else
    match trigger.kindConfiguration with
    | .error message => .error (.value message)
    | .ok () => .ok ()

def StoredAgentTrigger.touched (trigger : StoredAgentTrigger) (invokedAt : Int) :
  StoredAgentTrigger :=
  { trigger with lastInvokedAt := some invokedAt, updatedAt := invokedAt }

def StoredAgentTrigger.SameBesidesTouch (trigger other : StoredAgentTrigger) : Prop :=
  trigger.touched 0 = other.touched 0

instance (trigger other : StoredAgentTrigger) : Decidable (trigger.SameBesidesTouch other) :=
  inferInstanceAs (Decidable (_ = _))

theorem StoredAgentTrigger.SameBesidesTouch.touched {trigger other : StoredAgentTrigger}
  (same : trigger.SameBesidesTouch other) (invokedAt : Int) :
  trigger.touched invokedAt = other.touched invokedAt := by
  have again : ∀ item : StoredAgentTrigger,
    (item.touched 0).touched invokedAt = item.touched invokedAt := fun _ => rfl
  rw [← again trigger, ← again other, same]

theorem StoredAgentTrigger.validate_touched (trigger : StoredAgentTrigger) (invokedAt : Int) :
  (trigger.touched invokedAt).validate = trigger.validate :=
  rfl

/-!
The Postgres repository of triggers, and the service calls that replace a trigger.

A row holds the trigger as its payload, and again, field by field, the columns that queries go
by. An `UPDATE` under a row lock or with its own condition is one step; an invocation reads a row
in one step and writes it in another.
-/

open Collections Interaction
open Deployments (EnvironmentName)

structure AgentTriggerRow where
  (triggerId tenantId agentName : String)
  environment : EnvironmentName
  kind : TriggerKind
  enabled : Bool
  nextFireAt : Option Int
  revision : Nat
  (createdAt updatedAt : Int)
  payload : StoredAgentTrigger
  deriving DecidableEq

def StoredAgentTrigger.row (trigger : StoredAgentTrigger) : AgentTriggerRow where
  triggerId := trigger.triggerId
  tenantId := trigger.tenantId
  agentName := trigger.agentName
  environment := trigger.environment
  kind := trigger.kind
  enabled := trigger.enabled
  nextFireAt := trigger.nextFireAt
  revision := trigger.revision
  createdAt := trigger.createdAt
  updatedAt := trigger.updatedAt
  payload := trigger

def AgentTriggerRow.trigger (row : AgentTriggerRow) : Except TriggerError StoredAgentTrigger :=
  match row.payload.validate with
  | .error error => .error error
  | .ok () =>
    if row.payload.row = row then .ok row.payload
    else .error (.value "Corrupt Agent Trigger persistence envelope")

/-- `[_trigger(row) for row in rows]`. -/
def triggers (rows : List AgentTriggerRow) : Except TriggerError (List StoredAgentTrigger) :=
  rows.mapM AgentTriggerRow.trigger

abbrev TriggerTable := Dict String AgentTriggerRow

namespace TriggerTable

def insert (table : TriggerTable) (trigger : StoredAgentTrigger) :
  Except TriggerError Unit × TriggerTable :=
  match table.get? trigger.triggerId with
  | some _ => (.error (.conflict ("Agent Trigger already exists: " ++ trigger.triggerId)), table)
  | none => (.ok (), table.set trigger.triggerId trigger.row)

/-- The columns and the payload that `replace` writes. -/
def replaced (row : AgentTriggerRow) (trigger : StoredAgentTrigger) : AgentTriggerRow :=
  { row with
    enabled := trigger.enabled, kind := trigger.kind, nextFireAt := trigger.nextFireAt
    revision := trigger.revision, updatedAt := trigger.updatedAt, payload := trigger }

def Selects (expectedRevision : Nat) (trigger : StoredAgentTrigger) (row : AgentTriggerRow) :
  Prop :=
  row.tenantId = trigger.tenantId ∧ row.revision = expectedRevision

instance (expectedRevision : Nat) (trigger : StoredAgentTrigger) (row : AgentTriggerRow) :
  Decidable (Selects expectedRevision trigger row) :=
  inferInstanceAs (Decidable (_ ∧ _))

variable (table : TriggerTable)

def updateWhere (expectedRevision : Nat) (trigger : StoredAgentTrigger) : Bool × TriggerTable :=
  match table.get? trigger.triggerId with
  | none => (false, table)
  | some row =>
    if Selects expectedRevision trigger row then
      (true, table.set trigger.triggerId (replaced row trigger))
    else (false, table)

def writeTouched (triggerId : String) (read : StoredAgentTrigger) (invokedAt : Int) :
  Except TriggerError Unit × TriggerTable :=
  match table.get? triggerId with
  | none => (.error (.value "UPDATE statement expected to update 1 row(s); 0 were matched"), table)
  | some row =>
    (.ok (), table.set triggerId
        { row with updatedAt := invokedAt, payload := read.touched invokedAt })

def advance (triggerId : String) (expectedNextFireAt nextFireAt : Int) :
  Except TriggerError Bool × TriggerTable :=
  match table.get? triggerId with
  | none => (.ok false, table)
  | some row =>
    match row.trigger with
    | .error error => (.error error, table)
    | .ok current =>
      if current.nextFireAt = some expectedNextFireAt then
        (.ok true, table.set triggerId
            { row with
              nextFireAt := some nextFireAt
              payload := { current with nextFireAt := some nextFireAt } })
      else (.ok false, table)

/-- `order_by(created_at.desc(), trigger_id.desc())`. -/
def newestFirst (left right : AgentTriggerRow) : Bool :=
  right.createdAt < left.createdAt ||
    (left.createdAt = right.createdAt && right.triggerId ≤ left.triggerId)

def selectAgent (tenantId agentName : String) : List AgentTriggerRow :=
  (table.values.filter fun row =>
    row.tenantId = tenantId && row.agentName = agentName).insertionSort
      fun left right => newestFirst left right

/-- `order_by(next_fire_at, trigger_id)`. -/
def dueFirst (left right : AgentTriggerRow) : Bool :=
  match left.nextFireAt, right.nextFireAt with
  | some leftAt, some rightAt =>
    leftAt < rightAt || (leftAt = rightAt && left.triggerId ≤ right.triggerId)
  | _, _ => true

def selectDue (now : Int) (limit : Nat) : List AgentTriggerRow := ((table.values.filter fun row =>
    row.enabled && row.kind = .schedule && row.nextFireAt.any (· ≤ now)).insertionSort
      fun left right => dueFirst left right).take limit

end TriggerTable

inductive TriggerOp
  | clock
  | generateSecret
  | insert (trigger : StoredAgentTrigger)
  | selectRow (triggerId : String)
  | updateWhere (expectedRevision : Nat) (trigger : StoredAgentTrigger)
  | writeTouched (triggerId : String) (read : StoredAgentTrigger) (invokedAt : Int)
  | advance (triggerId : String) (expectedNextFireAt nextFireAt : Int)
  | selectAgent (tenantId agentName : String)
  | selectDue (now : Int) (limit : Nat)
  | record (trigger : StoredAgentTrigger) (userId action : String)
      (details : List (String × String))

namespace TriggerOp

abbrev Answer : TriggerOp → Type
  | clock => Int
  | generateSecret => String
  | insert _ => Unit
  | selectRow _ => Option AgentTriggerRow
  | updateWhere _ _ => Bool
  | writeTouched _ _ _ => Unit
  | advance _ _ _ => Bool
  | selectAgent _ _ | selectDue _ _ => List AgentTriggerRow
  | record _ _ _ _ => Unit

end TriggerOp

abbrev TriggerProgram (α : Type) := Program TriggerOp TriggerOp.Answer TriggerError α

namespace TriggerOp

abbrev ask (op : TriggerOp) : TriggerProgram op.Answer := Program.perform op fun answer => answer

def ensure {α : Type} (outcome : Except TriggerError α) : TriggerProgram α :=
  match outcome with
  | .ok value => .done value
  | .error error => .raised error

def refuse (refused : Prop) [Decidable refused] (error : TriggerError) : TriggerProgram Unit :=
  if refused then .raised error else .done ()

end TriggerOp

def notFoundTrigger (triggerId : String) : TriggerError :=
  .notFound ("Agent Trigger not found: " ++ triggerId)

namespace PostgresAgentTriggerRepository

open Program TriggerOp

def add (trigger : StoredAgentTrigger) : TriggerProgram Unit := ask (.insert trigger)

variable (triggerId : String)

def getPublic : TriggerProgram StoredAgentTrigger := do
  match ← ask (.selectRow triggerId) with
  | none => raised (notFoundTrigger triggerId)
  | some row => ensure row.trigger

def get (tenantId triggerId : String) : TriggerProgram StoredAgentTrigger := do
  let trigger ← getPublic triggerId
  refuse (trigger.tenantId ≠ tenantId) (notFoundTrigger triggerId)
  done trigger

def listForAgent (tenantId agentName : String) : TriggerProgram (List StoredAgentTrigger) := do
  let rows ← ask (.selectAgent tenantId agentName)
  ensure (triggers rows)

def replace (expectedRevision : Nat) (trigger : StoredAgentTrigger) : TriggerProgram Unit := do
  let changed ← ask (.updateWhere expectedRevision trigger)
  if changed then done ()
  else
    let current ← get trigger.tenantId trigger.triggerId
    raised (.conflict ("Agent Trigger revision changed: expected=" ++ toString expectedRevision ++
      " actual=" ++ toString current.revision))

def touchInvoked (invokedAt : Int) : TriggerProgram StoredAgentTrigger := do
  match ← ask (.selectRow triggerId) with
  | none => raised (notFoundTrigger triggerId)
  | some row =>
    let current ← ensure row.trigger
    ask (.writeTouched triggerId current invokedAt)
    done (current.touched invokedAt)

def listDue (now : Int) (limit : Nat) : TriggerProgram (List StoredAgentTrigger) := do
  let rows ← ask (.selectDue now limit)
  ensure (triggers rows)

def advanceSchedule (expectedNextFireAt nextFireAt : Int) : TriggerProgram Bool :=
  ask (.advance triggerId expectedNextFireAt nextFireAt)

end PostgresAgentTriggerRepository

structure UpdateAgentTriggerRequest where
  expectedRevision : Nat
  name : String
  enabled : Bool

structure TriggerService where
  digest : String → String

namespace TriggerService

open Program TriggerOp

variable (service : TriggerService)

def owned (tenantId userId triggerId : String) : TriggerProgram StoredAgentTrigger := do
  let current ← PostgresAgentTriggerRepository.get tenantId triggerId
  refuse (current.createdBy ≠ userId) (notFoundTrigger triggerId)
  done current

def update (tenantId userId triggerId : String) (request : UpdateAgentTriggerRequest) :
  TriggerProgram StoredAgentTrigger := do
  let current ← owned tenantId userId triggerId
  let now ← ask .clock
  let updated : StoredAgentTrigger :=
    { current with
      name := Auth.strip request.name, enabled := request.enabled, revision := current.revision + 1
      updatedAt := now }
  PostgresAgentTriggerRepository.replace request.expectedRevision updated
  ask (.record updated userId "studio.trigger.update"
    [("enabled", if updated.enabled then "True" else "False")])
  done updated

def rotateSecret (tenantId userId triggerId : String) (expectedRevision : Nat) :
  TriggerProgram (StoredAgentTrigger × String) := do
  let current ← owned tenantId userId triggerId
  let secret ← ask .generateSecret
  let now ← ask .clock
  let updated : StoredAgentTrigger :=
    { current with
      secretDigest := service.digest secret, revision := current.revision + 1, updatedAt := now }
  PostgresAgentTriggerRepository.replace expectedRevision updated
  ask (.record updated userId "studio.trigger.rotate_secret" [])
  done (updated, secret)

end TriggerService

inductive TriggerRequest
  | add (trigger : StoredAgentTrigger)
  | get (tenantId triggerId : String)
  | listForAgent (tenantId agentName : String)
  | replace (expectedRevision : Nat) (trigger : StoredAgentTrigger)
  | touchInvoked (triggerId : String) (invokedAt : Int)
  | listDue (now : Int) (limit : Nat)
  | advanceSchedule (triggerId : String) (expectedNextFireAt nextFireAt : Int)
  | update (tenantId userId triggerId : String) (request : UpdateAgentTriggerRequest)
  | rotateSecret (tenantId userId triggerId : String) (expectedRevision : Nat)

def TriggerService.serve (service : TriggerService) : TriggerRequest → TriggerProgram Unit
  | .add trigger => PostgresAgentTriggerRepository.add trigger
  | .get tenantId triggerId => do
      let _ ← PostgresAgentTriggerRepository.get tenantId triggerId
  | .listForAgent tenantId agentName => do
      let _ ← PostgresAgentTriggerRepository.listForAgent tenantId agentName
  | .replace expectedRevision trigger =>
    PostgresAgentTriggerRepository.replace expectedRevision trigger
  | .touchInvoked triggerId invokedAt => do
      let _ ← PostgresAgentTriggerRepository.touchInvoked triggerId invokedAt
  | .listDue now limit => do
      let _ ← PostgresAgentTriggerRepository.listDue now limit
  | .advanceSchedule triggerId expectedNextFireAt nextFireAt => do
      let _ ← PostgresAgentTriggerRepository.advanceSchedule triggerId expectedNextFireAt nextFireAt
  | .update tenantId userId triggerId request => do
      let _ ← TriggerService.update tenantId userId triggerId request
  | .rotateSecret tenantId userId triggerId expectedRevision => do
      let _ ← service.rotateSecret tenantId userId triggerId expectedRevision

structure TriggerInput where
  now : Int := 0
  secret : String := ""

def respond (_ : Nat) (input : TriggerInput) (table : TriggerTable) :
    (op : TriggerOp) → Except TriggerError op.Answer × TriggerTable
  | .clock => (.ok input.now, table)
  | .generateSecret => (.ok input.secret, table)
  | .insert trigger => TriggerTable.insert table trigger
  | .selectRow triggerId => (.ok (table.get? triggerId), table)
  | .updateWhere expectedRevision trigger =>
    let reply := TriggerTable.updateWhere table expectedRevision trigger
    (.ok reply.1, reply.2)
  | .writeTouched triggerId read invokedAt =>
    TriggerTable.writeTouched table triggerId read invokedAt
  | .advance triggerId expectedNextFireAt nextFireAt =>
    TriggerTable.advance table triggerId expectedNextFireAt nextFireAt
  | .selectAgent tenantId agentName =>
    (.ok (TriggerTable.selectAgent table tenantId agentName), table)
  | .selectDue now limit => (.ok (TriggerTable.selectDue table now limit), table)
  | .record _ _ _ _ => (.ok (), table)

def component :
  Component TriggerOp TriggerOp.Answer TriggerError Nat TriggerTable TriggerInput where
  respond

abbrev TriggerPool := Pool TriggerOp TriggerOp.Answer TriggerError Nat TriggerTable Unit

def triggerPool (service : TriggerService) (table : TriggerTable)
  (requests : Nat → TriggerRequest) : TriggerPool where
  state := table
  thread actor := service.serve (requests actor)

end AgentHarness.Triggers
