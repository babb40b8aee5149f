import AgentHarness.Collections.Dict
import Mathlib.Data.List.MinMax
import Mathlib.Data.Prod.Lex
import Mathlib.Data.String.Basic

/-!
Credential connections, while any number of calls create, replace, revoke and use them.

A call reads in one step and writes in another. Who did what and when is left out, and so are
the limits on the texts and keys of a request.
-/

namespace AgentHarness.Governance

open Collections Dict Function List Bool

inductive CredentialResourceKind where
  | model
  | mcp
  deriving DecidableEq

inductive ConnectionScope where
  | personal
  | team
  | workload
  deriving DecidableEq

structure CreateCredentialConnectionRequest where
  (connectionId displayName : String)
  resourceKind : CredentialResourceKind
  resourceReference : String
  scope : ConnectionScope
  (principalId secretReference : String)
  requiredKeys : List String := []
  deriving DecidableEq

structure CredentialConnection extends CreateCredentialConnectionRequest where
  tenantId : String
  active : Bool := true
  revision : Nat := 1
  deriving DecidableEq

structure ReplaceCredentialConnectionRequest where
  expectedRevision : Nat
  (displayName secretReference : String)
  requiredKeys : List String := []

structure ExecutionIdentity where
  (tenantId userId : String)
  teamIds : List String := []

structure CredentialConnectionGrant where
  connectionId : String
  scope : ConnectionScope
  (principalId secretReference : String)
  requiredKeys : List String

inductive GovernanceError where
  | conflict (message : String)
  | notFound (message : String)
  | credentialLease (message : String)

abbrev Connections := Dict (String × String) CredentialConnection

namespace CredentialConnection

def key (connection : CredentialConnection) : String × String :=
  (connection.tenantId, connection.connectionId)

def slot (connection : CredentialConnection) :
  String × CredentialResourceKind × String × ConnectionScope × String :=
  (connection.tenantId, connection.resourceKind, connection.resourceReference, connection.scope,
    connection.principalId)

def grant (connection : CredentialConnection) : CredentialConnectionGrant := { connection with }

/-- `_connection_matches`. -/
def matchesIdentity (connection : CredentialConnection) (identity : ExecutionIdentity) : Bool :=
  if "trigger:".toList.isPrefixOf identity.userId.toList then
    connection.scope = .workload && connection.principalId = identity.userId
  else
    match connection.scope with
    | .personal => connection.principalId = identity.userId
    | .team => identity.teamIds.contains connection.principalId
    | .workload => false

end CredentialConnection

namespace GovernanceService

def listConnections (connections : Connections) (tenantId : String)
  (resourceKind : CredentialResourceKind) (resourceReference : String) :
  List CredentialConnection :=
  connections.values.filter (fun connection => connection.tenantId = tenantId &&
    connection.resourceKind = resourceKind && connection.resourceReference = resourceReference)

/-- The check of `create_connection`. -/
def taken (connections : Connections) (tenantId : String)
  (request : CreateCredentialConnectionRequest) : Bool :=
  (listConnections connections tenantId request.resourceKind request.resourceReference).any
    (fun item => item.active && item.scope = request.scope &&
      item.principalId = request.principalId)

def addConnection (connections : Connections) (value : CredentialConnection) :
  Except GovernanceError Connections :=
  match connections.get? value.key with
  | some _ => .error (.conflict ("credential connection already exists: " ++ value.connectionId))
  | none => .ok (connections.set value.key value)

def compareAndSet (connections : Connections) (expectedRevision : Nat)
  (value : CredentialConnection) : Option Connections :=
  match connections.get? value.key with
  | none => none
  | some stored =>
    if stored.revision = expectedRevision then some (connections.set value.key value) else none

/-- `replace_connection`, on the copy that it has read. -/
def replaceConnection (connections : Connections) (current : CredentialConnection)
  (request : ReplaceCredentialConnectionRequest) : Except GovernanceError Connections :=
  if current.revision ≠ request.expectedRevision then
    .error (.conflict "credential connection revision changed")
  else if current.active = false then
    .error (.conflict "revoked credential connections are immutable")
  else
    match compareAndSet connections current.revision
        { current with
          displayName := request.displayName, secretReference := request.secretReference
          requiredKeys := request.requiredKeys, revision := current.revision + 1 } with
    | none => .error (.conflict "credential connection changed while it was updated")
    | some connections => .ok connections

def revokeConnection (connections : Connections) (current : CredentialConnection)
  (expectedRevision : Nat) : Except GovernanceError Connections :=
  if current.revision ≠ expectedRevision then
    .error (.conflict "credential connection revision changed")
  else if current.active = false then .ok connections
  else
    match compareAndSet connections current.revision
        { current with active := false, revision := current.revision + 1 } with
    | none => .error (.conflict "credential connection changed while it was revoked")
    | some connections => .ok connections

def precedence (connection : CredentialConnection) : Nat ×ₗ String :=
  toLex (if connection.scope = .team then 1 else 2, connection.connectionId)

def authorize (connections : Connections) (identity : ExecutionIdentity)
  (resourceKind : CredentialResourceKind) (resourceReference : String) :
  Except GovernanceError (Option CredentialConnectionGrant) :=
  match listConnections connections identity.tenantId resourceKind resourceReference with
  | [] => .ok none
  | candidates =>
    match (candidates.filter (fun connection =>
        connection.active && connection.matchesIdentity identity)).argmax precedence with
    | none => .error (.credentialLease "managed credential connection is not authorized")
    | some selected => .ok (some selected.grant)

def validateConnection (connections : Connections) (connectionId : String)
  (identity : ExecutionIdentity) (resourceKind : CredentialResourceKind)
  (resourceReference : String) : Except GovernanceError CredentialConnectionGrant :=
  match connections.get? (identity.tenantId, connectionId) with
  | none => .error (.credentialLease "credential connection no longer exists")
  | some connection =>
    if connection.active = false ∨ connection.resourceKind ≠ resourceKind ∨
        connection.resourceReference ≠ resourceReference ∨
          connection.matchesIdentity identity = false then
      .error (.credentialLease "credential connection is no longer authorized")
    else .ok connection.grant

end GovernanceService

open GovernanceService

/-- The connections, and what each call has seen: a creation that its slot was free, another
write the connection that it is about. -/
structure GovernanceState where
  connections : Connections := Dict.empty
  checked : Nat → Option (String × CreateCredentialConnectionRequest) := fun _ => none
  read : Nat → Option CredentialConnection := fun _ => none

inductive GovernanceStep where
  | check (actor : Nat) (tenantId : String) (request : CreateCredentialConnectionRequest)
  | add (actor : Nat)
  | get (actor : Nat) (tenantId connectionId : String)
  | replace (actor : Nat) (request : ReplaceCredentialConnectionRequest)
  | revoke (actor : Nat) (expectedRevision : Nat)

namespace GovernanceState

def written (state : GovernanceState) (outcome : Except GovernanceError Connections) :
  GovernanceState :=
  { state with connections := outcome.toOption.getD state.connections }

def step (state : GovernanceState) : GovernanceStep → GovernanceState
  | .check actor tenantId request =>
    if taken state.connections tenantId request then state
    else { state with checked := update state.checked actor (some (tenantId, request)) }
  | .add actor =>
    match state.checked actor with
    | none => state
    | some (tenantId, request) =>
      { state.written (addConnection state.connections { request with tenantId }) with
        checked := update state.checked actor none }
  | .get actor tenantId connectionId =>
    { state with
      read := update state.read actor
        (state.connections.get? (tenantId, connectionId)) }
  | .replace actor request =>
    match state.read actor with
    | none => state
    | some current => state.written (replaceConnection state.connections current request)
  | .revoke actor expectedRevision =>
    match state.read actor with
    | none => state
    | some current => state.written (revokeConnection state.connections current expectedRevision)

def run (state : GovernanceState) (steps : List GovernanceStep) : GovernanceState :=
  steps.foldl step state

end GovernanceState

def Rewrites (before later : Connections) : Prop :=
  later = before ∨ ∃ stored value, before.get? value.key = some stored ∧
    later = before.set value.key value ∧ value.slot = stored.slot ∧
    (value.active = true → stored.active = true) ∧ value.revision = stored.revision + 1

section

variable {connections : Connections} {current : CredentialConnection}
  (seen : ∀ stored, connections.get? current.key = some stored →
    current.revision = stored.revision → current = stored)

include seen

theorem rewrites_compareAndSet (value : CredentialConnection)
    (error : GovernanceError) (sameKey : value.key = current.key)
    (sameSlot : value.slot = current.slot) (active : value.active = true → current.active = true)
    (next : value.revision = current.revision + 1) :
    Rewrites connections
      ((match compareAndSet connections current.revision value with
        | none => .error error
        | some connections => .ok connections :
          Except GovernanceError Connections).toOption.getD connections) := by
  unfold compareAndSet
  cases found : connections.get? value.key with
  | none => exact .inl rfl
  | some stored =>
    dsimp only
    by_cases same : stored.revision = current.revision
    · cases seen stored (sameKey ▸ found) same.symm
      rw [if_pos rfl]
      exact .inr ⟨current, value, found, rfl, sameSlot, active, next⟩
    rw [if_neg same]
    exact .inl rfl

theorem rewrites_replace (request : ReplaceCredentialConnectionRequest) : Rewrites connections
    ((replaceConnection connections current request).toOption.getD connections) := by
  unfold replaceConnection
  split
  · exact .inl rfl
  split
  · exact .inl rfl
  exact rewrites_compareAndSet seen _ _ rfl rfl id rfl

theorem rewrites_revoke (expectedRevision : Nat) : Rewrites connections
  ((revokeConnection connections current expectedRevision).toOption.getD connections) := by
  unfold revokeConnection
  split
  · exact .inl rfl
  split
  · exact .inl rfl
  exact rewrites_compareAndSet seen _ _ rfl rfl (fun none => nomatch none) rfl

end

namespace GovernanceState

structure Kept (state : GovernanceState) : Prop where
  keyed : ∀ key connection, state.connections.get? key = some connection → key = connection.key
  seen : ∀ actor copy, state.read actor = some copy → ∃ stored,
    state.connections.get? copy.key = some stored ∧ copy.revision ≤ stored.revision ∧
      (copy.revision = stored.revision → copy = stored)

section

variable {state : GovernanceState} (kept : state.Kept)

include kept

theorem Kept.write (value : CredentialConnection)
  (newer : ∀ stored, state.connections.get? value.key = some stored →
    stored.revision < value.revision) :
  ({ state with connections := state.connections.set value.key value } : GovernanceState).Kept := by
  refine ⟨forall_set rfl kept.keyed, fun actor copy read => ?_⟩
  · obtain ⟨known, present, older, same⟩ := kept.seen actor copy read
    by_cases here : copy.key = value.key
    · have least := newer known (here ▸ present)
      refine ⟨value, by rw [here, get?_set_self], by omega, fun equal => ?_⟩
      omega
    exact ⟨known, (get?_set_other _ _ here).trans present, older, same⟩

theorem Kept.rewrite {later : Connections} (rewrites : Rewrites state.connections later) :
  ({ state with connections := later } : GovernanceState).Kept := by
  rcases rewrites with rfl | ⟨stored, value, found, rfl, _, _, next⟩
  · exact kept
  exact kept.write value fun known present => by cases found.symm.trans present; omega

theorem Kept.same {actor : Nat} {copy : CredentialConnection} (read : state.read actor = some copy)
  (stored : CredentialConnection) (found : state.connections.get? copy.key = some stored)
  (same : copy.revision = stored.revision) : copy = stored := by
  obtain ⟨known, present, _, equal⟩ := kept.seen actor copy read
  cases present.symm.trans found
  exact equal same

end

inductive Moves (state later : GovernanceState) : GovernanceStep → Prop where
  | rewrite {step} (rewrites : Rewrites state.connections later.connections)
      (checked : later.checked = state.checked) : Moves state later step
  | check {actor tenantId request} (free : taken state.connections tenantId request = false)
      (connections : later.connections = state.connections)
      (checked : later.checked = update state.checked actor (some (tenantId, request))) :
      Moves state later (.check actor tenantId request)
  | add {actor tenantId request} (waiting : state.checked actor = some (tenantId, request))
      (absent : state.connections.get? (tenantId, request.connectionId) = none)
      (connections : later.connections =
        state.connections.set (tenantId, request.connectionId) { request with tenantId })
      (checked : later.checked = update state.checked actor none) :
      Moves state later (.add actor)
  | refuse {actor} (connections : later.connections = state.connections)
      (checked : later.checked = update state.checked actor none) :
      Moves state later (.add actor)

theorem Kept.step {state : GovernanceState} (kept : state.Kept) (step : GovernanceStep) :
  (state.step step).Kept ∧ Moves state (state.step step) step := by
  cases step with
  | check actor tenantId request =>
    dsimp only [GovernanceState.step]
    split
    · exact ⟨kept, .rewrite (.inl rfl) rfl⟩
    case isFalse free =>
      exact ⟨⟨kept.keyed, kept.seen⟩, .check (eq_false_of_not_eq_true free) rfl rfl⟩
  | add actor =>
    dsimp only [GovernanceState.step]
    cases waiting : state.checked actor with
    | none => exact ⟨kept, .rewrite (.inl rfl) rfl⟩
    | some asked =>
      obtain ⟨tenantId, request⟩ := asked
      dsimp only [written, addConnection, CredentialConnection.key]
      cases absent : state.connections.get? (tenantId, request.connectionId) with
      | some _ => exact ⟨⟨kept.keyed, kept.seen⟩, .refuse rfl rfl⟩
      | none =>
        have added := kept.write { request with tenantId } (fun _ found => nomatch absent.symm.trans found)
        exact ⟨⟨added.keyed, added.seen⟩, .add waiting absent rfl rfl⟩
  | get actor tenantId connectionId =>
    refine ⟨⟨kept.keyed, fun other copy read => ?_⟩, .rewrite (.inl rfl) rfl⟩
    dsimp only [GovernanceState.step] at read ⊢
    rw [update_apply] at read
    split at read
    · have own := kept.keyed _ copy read
      exact ⟨copy, own ▸ read, le_refl _, fun _ => rfl⟩
    exact kept.seen other copy read
  | replace actor request =>
    dsimp only [GovernanceState.step]
    cases read : state.read actor with
    | none => exact ⟨kept, .rewrite (.inl rfl) rfl⟩
    | some current =>
      have rewrites := rewrites_replace (kept.same read) request
      exact ⟨kept.rewrite rewrites, .rewrite rewrites rfl⟩
  | revoke actor expectedRevision =>
    dsimp only [GovernanceState.step]
    cases read : state.read actor with
    | none => exact ⟨kept, .rewrite (.inl rfl) rfl⟩
    | some current =>
      have rewrites := rewrites_revoke (kept.same read) expectedRevision
      exact ⟨kept.rewrite rewrites, .rewrite rewrites rfl⟩

theorem kept_run {state : GovernanceState} (kept : state.Kept) (steps : List GovernanceStep) :
  (state.run steps).Kept := by
  induction steps generalizing state with
  | nil => exact kept
  | cons step rest ih => exact ih (kept.step step).1

theorem kept_initial : ({} : GovernanceState).Kept := ⟨fun _ _ => nofun, fun _ _ => nofun⟩

def InTurn : GovernanceState → List GovernanceStep → Prop
  | _, [] => True
  | state, step :: rest =>
    (∀ actor tenantId request, step = .check actor tenantId request →
      ∀ other, state.checked other = none) ∧ InTurn (state.step step) rest

structure Single (state : GovernanceState) : Prop where
  unique : ∀ key key' connection connection', state.connections.get? key = some connection →
    state.connections.get? key' = some connection' → connection.active = true →
      connection'.active = true → connection.slot = connection'.slot → key = key'
  free : ∀ actor tenantId request, state.checked actor = some (tenantId, request) →
    (∀ key connection, state.connections.get? key = some connection → connection.active = true →
        connection.slot ≠ ({ request with tenantId } : CredentialConnection).slot) ∧
      ∀ other, other ≠ actor → state.checked other = none

theorem not_taken {connections : Connections} {tenantId : String}
  {request : CreateCredentialConnectionRequest} (free : taken connections tenantId request = false)
  {key : String × String} {connection : CredentialConnection}
  (found : connections.get? key = some connection) (active : connection.active = true) :
  connection.slot ≠ ({ request with tenantId } : CredentialConnection).slot := by
  intro same
  obtain ⟨tenant, kind, reference, scope, principal⟩ : _ ∧ _ ∧ _ ∧ _ ∧ _ := by
    simpa only [CredentialConnection.slot, Prod.mk.injEq] using same
  have listed : connection ∈
    listConnections connections tenantId request.resourceKind request.resourceReference :=
    mem_filter.mpr ⟨mem_values.mpr ⟨key, found⟩, by simp [tenant, kind, reference]⟩
  have clash := any_eq_false.mp free connection listed
  simp [active, scope, principal] at clash

theorem Single.step {state later : GovernanceState} {step : GovernanceStep}
  (single : state.Single) (moves : Moves state later step)
  (inTurn : ∀ actor tenantId request, step = .check actor tenantId request →
    ∀ other, state.checked other = none) : later.Single := by
  cases moves with
  | rewrite rewrites checked =>
    rcases rewrites with same | ⟨stored, value, found, written, slot, active, _⟩
    · exact ⟨same ▸ single.unique, by rw [checked, same]; exact single.free⟩
    -- an active connection of the later table was active in the slot before
    have before : ∀ key connection, later.connections.get? key = some connection →
      connection.active = true → ∃ old, state.connections.get? key = some old ∧
        old.active = true ∧ connection.slot = old.slot := by
      intro key connection present live
      rw [written, get?_set] at present
      split at present
      case isTrue same =>
        cases present
        exact ⟨stored, same ▸ found, active live, slot⟩
      · exact ⟨connection, present, live, rfl⟩
    constructor
    · intro key key' connection connection' present present' live live' same
      obtain ⟨old, found, live, slot⟩ := before key connection present live
      obtain ⟨old', found', live', slot'⟩ := before key' connection' present' live'
      exact single.unique key key' old old' found found' live live' (slot ▸ slot' ▸ same)
    intro actor tenantId request waiting
    rw [checked] at waiting ⊢
    refine ⟨fun key connection present live => ?_, (single.free _ _ _ waiting).2⟩
    obtain ⟨old, found, live, slot⟩ := before key connection present live
    rw [slot]
    exact (single.free _ _ _ waiting).1 key old found live
  | check free connections checked =>
    refine ⟨connections ▸ single.unique, fun actor tenantId request waiting => ?_⟩
    have alone := inTurn _ _ _ rfl
    rw [checked, update_apply] at waiting
    split at waiting
    case isTrue same =>
      cases waiting
      rw [connections, checked]
      refine ⟨fun key connection present live => not_taken free present live, fun other apart => ?_⟩
      rw [update_of_ne (same ▸ apart), alone other]
    · rw [alone] at waiting
      cases waiting
  | add waiting absent connections checked =>
    obtain ⟨free, alone⟩ := single.free _ _ _ waiting
    constructor
    · intro key key' connection connection' present present' live live' same
      rw [connections, get?_set] at present present'
      split at present <;> split at present'
      · exact ‹key = _›.trans ‹key' = _›.symm
      · cases present
        exact absurd same.symm (free key' connection' present' live')
      · cases present'
        exact absurd same (free key connection present live)
      exact single.unique _ _ _ _ present present' live live' same
    intro actor tenantId request other
    rw [checked, update_apply] at other
    split at other
    · cases other
    rw [alone actor ‹_›] at other
    cases other
  | refuse connections checked =>
    refine ⟨connections ▸ single.unique, fun actor tenantId request waiting => ?_⟩
    rw [checked, update_apply] at waiting
    split at waiting
    · cases waiting
    obtain ⟨free, alone⟩ := single.free _ _ _ waiting
    rw [connections, checked]
    refine ⟨free, fun other apart => ?_⟩
    rw [update_apply]
    split
    · rfl
    exact alone other apart

end GovernanceState

open GovernanceState

def mainOf (connectionId resourceReference : String) : CreateCredentialConnectionRequest where
  connectionId
  displayName := "Main"
  resourceKind := .mcp
  resourceReference
  scope := .team
  principalId := "team"
  secretReference := "secret"

def twoMains : List GovernanceStep :=
  [.check 0 "acme" (mainOf "first" "search"), .add 0, .check 0 "acme" (mainOf "second" "mail"),
    .add 0]

theorem inTurn : InTurn {} twoMains :=
  ⟨fun _ _ _ _ _ => rfl, fun _ _ _ => nofun, by rintro _ _ _ ⟨⟩ (_ | _) <;> rfl,
    fun _ _ _ => nofun, trivial⟩

/-- What may become of a connection: it is never active again, and keeps its slot. -/
structure Succeeds (old value : CredentialConnection) : Prop where
  versioned : Versioned CredentialConnection.revision old value
  slot : value.slot = old.slot
  active : value.active = true → old.active = true

theorem Succeeds.refl (connection : CredentialConnection) : Succeeds connection connection :=
  ⟨.inr rfl, rfl, id⟩

theorem evolves_run {state : GovernanceState} (kept : state.Kept) (steps : List GovernanceStep) :
  Evolves Succeeds state.connections (state.run steps).connections := by
  induction steps generalizing state with
  | nil => exact evolves_refl Succeeds.refl
  | cons step rest ih =>
    obtain ⟨later, moves⟩ := kept.step step
    refine Evolves.trans (fun first second => ⟨versioned_trans first.versioned second.versioned,
      second.slot.trans first.slot, first.active ∘ second.active⟩) ?_ (ih later)
    cases moves with
    | rewrite rewrites _ =>
      rcases rewrites with same | ⟨stored, value, found, set, slot, active, next⟩
      · rw [same]
        exact evolves_refl Succeeds.refl
      rw [set]
      refine evolves_set Succeeds.refl fun old present => ?_
      cases found.symm.trans present
      exact ⟨.inl (next ▸ Nat.lt_succ_self _), slot, active⟩
    | check _ same _ | refuse same _ =>
      rw [same]
      exact evolves_refl Succeeds.refl
    | add _ absent set _ =>
      rw [set]
      refine evolves_set Succeeds.refl fun old present => ?_
      rw [absent] at present
      cases present

/-- No connection is lost, whatever calls overlap: its revision rises with every change, its slot
stays, and a revoked one is not active again. -/
theorem connections_evolve (before after : List GovernanceStep) :
  Evolves Succeeds (({} : GovernanceState).run before).connections
    (({} : GovernanceState).run (before ++ after)).connections := by
  have joined : ({} : GovernanceState).run (before ++ after) = (GovernanceState.run {} before).run after :=
    foldl_append
  rw [joined]
  exact evolves_run (kept_run kept_initial before) after

end AgentHarness.Governance
