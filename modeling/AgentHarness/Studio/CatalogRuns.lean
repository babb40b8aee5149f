import AgentHarness.Studio.CatalogReads
import AgentHarness.Studio.CatalogWrites

/-!
Sequences of catalog calls by the users of one tenant.
-/

namespace AgentHarness.Studio

open Interaction (Fallible)
open Interaction.Fallible CapabilityCatalogService Option
open CapabilityCatalogService (CatalogResourceType UpsertCatalogResourceRequest)

/-- Where a call may read: the read will leave an accepted catalog, and nothing that the other
users had in `origin` is gone. -/
structure Ready (tenantId userId : String) (origin : CapabilityCatalog) (state : CatalogState) :
    Prop where
  accepted : Accepted state
  scopable : Scopable state.drafts (state.current tenantId).catalog
  kept : KeepsOthers userId origin (state.current tenantId).catalog

structure Inside (userId : String) (origin : CapabilityCatalog) (state : CatalogState) : Prop where
  stored : ∃ record, state.row = some record ∧ Settled record.catalog ∧
    KeepsOthers userId origin record.catalog

section

variable {tenantId userId : String} {origin : CapabilityCatalog}

theorem Inside.ready {state : CatalogState} (inside : Inside userId origin state) :
  Ready tenantId userId origin state := by
  obtain ⟨record, stored, settled, kept⟩ := inside.stored
  have current : state.current tenantId = record := by
    rw [CatalogState.current, stored, getD_some]
  refine { accepted := ?_, scopable := ?_, kept := ?_ }
  · intro other found
    rw [stored] at found
    rw [← some.inj found]
    exact uniqueManagedIds_ok.mpr settled.unique
  · rw [current]
    intro entry member legacy
    rw [settled.owned entry member] at legacy
    cases legacy
  rw [current]
  exact kept

theorem get_ensures : Ensures (Ready tenantId userId origin) (CapabilityCatalogService.get tenantId)
  (fun record state => Inside userId origin state ∧ Settled record.catalog ∧
  KeepsOthers userId origin record.catalog)
  (Inside userId origin) := by
  intro state ready
  have settled := afterRead_settled ready.accepted ready.scopable
  have kept : KeepsOthers userId origin (state.afterRead tenantId).catalog :=
    ready.kept.trans fun other _ => afterRead_keeps other
  rw [get_accepted ready.accepted]
  exact ⟨⟨_, rfl, settled, kept⟩, settled, kept⟩

theorem refuseIf_ensures {before : CatalogState → Prop} {refused : Prop}
  [Decidable refused] {error : CatalogError} :
  Ensures before (refuseIf refused error : CatalogCall Unit) (fun _ => before) before :=
  Ensures.require (fun _ _ _ => id) fun _ => id

theorem getForUser_ensures (reader : String) :
  Ensures (Ready tenantId userId origin) (CapabilityCatalogService.getForUser tenantId reader)
    (fun _ => Inside userId origin) (Inside userId origin) := by
  apply Ensures.bind get_ensures
  intro record
  exact Ensures.pure fun _ reached => reached.1

variable (resourceType : CatalogResourceType) (resourceId : String)

theorem impact_ensures : Ensures (Inside userId origin)
  (CapabilityCatalogService.impact tenantId userId resourceType resourceId)
  (fun _ => Inside userId origin) (Inside userId origin) := by
  have viewing : Ensures (Inside userId origin)
    (CapabilityCatalogService.getForUser tenantId userId)
    (fun _ => Inside userId origin) (Inside userId origin) :=
    (getForUser_ensures userId).weaken (fun _ inside => inside.ready)
      (fun _ _ => id) fun _ => id
  apply Ensures.bind viewing
  intro record
  apply Ensures.bind refuseIf_ensures
  intro _
  have reading : Ensures (Inside userId origin)
    (read CatalogState.drafts : CatalogCall (List AgentDraft))
    (fun _ => Inside userId origin) (Inside userId origin) :=
    Ensures.read fun _ => id
  apply Ensures.bind reading
  intro drafts
  exact Ensures.pure fun _ => id

variable {catalog : CapabilityCatalog}

theorem existingImpact_ensures {resource : CapabilityCatalogService.CatalogManagedResource} :
  Ensures (Inside userId origin)
    (existingImpact tenantId userId catalog resource resourceType resourceId)
    (fun _ => Inside userId origin) (Inside userId origin) := by
  unfold existingImpact
  split
  · exact impact_ensures resourceType resourceId
  exact Ensures.pure fun _ => id

variable {expectedRevision : Nat}

theorem repositoryReplace_ensures {record : CapabilityCatalogRecord}
  (settled : Settled record.catalog) (kept : KeepsOthers userId origin record.catalog) :
  Ensures (Inside userId origin) (CatalogRepository.replace expectedRevision record)
    (fun _ => Inside userId origin) (Inside userId origin) := by
  intro state inside
  unfold CatalogRepository.replace
  split
  case h_1 value state' returned =>
    split at returned
    · cases returned
    split at returned
    case h_1 => cases returned
    · split at returned
      case isTrue =>
        cases returned
        exact ⟨record, rfl, settled, kept⟩
      · cases returned
  case h_2 error state' raised =>
    split at raised
    · cases raised
      exact inside
    split at raised
    case h_1 =>
      cases raised
      exact inside
    · split at raised
      case isTrue => cases raised
      · cases raised
        exact inside

theorem replace_ensures (settled : Settled catalog) (kept : KeepsOthers userId origin catalog) :
  Ensures (Inside userId origin)
    (CapabilityCatalogService.replace tenantId userId expectedRevision catalog)
    (fun _ => Inside userId origin) (Inside userId origin) := by
  apply Ensures.bind
  · exact get_ensures.weaken (fun _ inside => inside.ready) (fun _ _ reached => reached.1)
      fun _ => id
  intro current
  apply Ensures.bind (repositoryReplace_ensures settled kept)
  intro _
  exact Ensures.pure fun _ => id

theorem disable_ensures (expectedRevision : Nat) : Ensures (Ready tenantId userId origin)
    (CapabilityCatalogService.disable tenantId userId resourceType resourceId expectedRevision)
    (fun _ => Inside userId origin) (Inside userId origin) := by
  apply Ensures.bind get_ensures
  intro current
  apply Ensures.given
  intro ⟨settled, kept⟩
  apply Ensures.bind refuseIf_ensures
  intro _
  apply Ensures.bind (impact_ensures resourceType resourceId)
  intro affected
  apply Ensures.bind
    (replace_ensures (disabled_settled settled resourceType resourceId)
      (kept.trans (disabled_keeps resourceType resourceId)))
  intro record
  exact Ensures.pure fun _ => id

theorem upsert_ensures (request : UpsertCatalogResourceRequest) :
  Ensures (Ready tenantId userId origin)
    (CapabilityCatalogService.upsert tenantId userId resourceType resourceId request)
    (fun _ => Inside userId origin) (Ready tenantId userId origin) := by
  have unread : ∀ {refused : Prop} [Decidable refused] {error : CatalogError},
    Ensures (Ready tenantId userId origin) (refuseIf refused error : CatalogCall Unit)
      (fun _ => Ready tenantId userId origin) (Ready tenantId userId origin) :=
    refuseIf_ensures
  apply Ensures.bind unread
  intro _
  apply Ensures.bind unread
  intro _
  have reading : Ensures (Ready tenantId userId origin) (CapabilityCatalogService.get tenantId)
    (fun record state => Inside userId origin state ∧ Settled record.catalog ∧
      KeepsOthers userId origin record.catalog) (Ready tenantId userId origin) :=
    get_ensures.weaken (fun _ => id) (fun _ _ => id)
      fun _ inside => inside.ready
  apply Ensures.bind reading
  intro current
  apply Ensures.given
  intro ⟨settled, kept⟩
  have writing : Ensures (Inside userId origin)
      (do
        let affected ← existingImpact tenantId userId current.catalog
          request.resource resourceType resourceId
        require (checkAuthorization current.catalog request)
        let record ← CapabilityCatalogService.replace tenantId userId request.expectedRevision
          (upserted current.catalog userId request)
        pure
          ({ record := recordForUser record userId
             impact := affected } : CapabilityCatalogService.CatalogMutationResult))
      (fun _ => Inside userId origin) (Inside userId origin) := by
    apply Ensures.bind (existingImpact_ensures resourceType resourceId)
    intro affected
    apply Ensures.bind (Ensures.require (fun _ _ _ => id) fun _ => id)
    intro _
    apply Ensures.bind
      (replace_ensures (upserted_settled settled request) (kept.trans (upserted_keeps request)))
    intro record
    exact Ensures.pure fun _ => id
  exact writing.weaken (fun _ => id) (fun _ _ => id)
    fun _ inside => inside.ready

end

inductive CatalogStep
  | get
  | getForUser (userId : String)
  | upsert (userId : String) (resourceType : CatalogResourceType) (resourceId : String)
      (request : UpsertCatalogResourceRequest)
  | disable (userId : String) (resourceType : CatalogResourceType) (resourceId : String)
      (expectedRevision : Nat)
  | draftsChange (drafts : List AgentDraft)

def CatalogStep.writer : CatalogStep → Option String
  | .upsert userId _ _ _ | .disable userId _ _ _ => some userId
  | _ => none

def CatalogStep.perform (tenantId : String) (state : CatalogState) : CatalogStep → CatalogState
  | .get => (CapabilityCatalogService.get tenantId state).2
  | .getForUser userId => (CapabilityCatalogService.getForUser tenantId userId state).2
  | .upsert userId resourceType resourceId request =>
    (CapabilityCatalogService.upsert tenantId userId resourceType resourceId request state).2
  | .disable userId resourceType resourceId expectedRevision =>
    (CapabilityCatalogService.disable tenantId userId resourceType resourceId expectedRevision
      state).2
  | .draftsChange drafts => { state with drafts }

def ScopableAt (tenantId : String) (state : CatalogState) : CatalogStep → Prop
  | .draftsChange _ => True
  | _ => Scopable state.drafts (state.current tenantId).catalog

instance (tenantId : String) (state : CatalogState) :
    (step : CatalogStep) → Decidable (ScopableAt tenantId state step)
  | .get | .getForUser _ | .upsert _ _ _ _ | .disable _ _ _ _ =>
    inferInstanceAs (Decidable (Scopable _ _))
  | .draftsChange _ => inferInstanceAs (Decidable True)

section

variable {tenantId : String} {state : CatalogState} {step : CatalogStep}

theorem inside_kept {userId : String} {origin : CapabilityCatalog}
  (inside : Inside userId origin state) :
  Accepted state ∧ KeepsOthers userId origin (state.current tenantId).catalog :=
  ⟨(@Inside.ready tenantId _ _ _ inside).accepted, inside.ready.kept⟩

theorem perform_kept (accepted : Accepted state) (scopable : ScopableAt tenantId state step)
  {userId : String} (writer : ∀ writer ∈ step.writer, writer = userId) :
  Accepted (step.perform tenantId state) ∧ KeepsOthers userId (state.current tenantId).catalog
    ((step.perform tenantId state).current tenantId).catalog := by
  have refl := KeepsOthers.refl userId (state.current tenantId).catalog
  cases step with
  | draftsChange drafts => exact ⟨accepted, refl⟩
  | get =>
    have ready : Ready tenantId userId (state.current tenantId).catalog state :=
      { accepted, scopable, kept := refl }
    have ended := (get_ensures.weaken (fun _ => id) (fun _ _ reached => reached.1)
      fun _ => id).final ready
    exact inside_kept ended
  | getForUser reader =>
    have ready : Ready tenantId userId (state.current tenantId).catalog state :=
      { accepted, scopable, kept := refl }
    have ended := (getForUser_ensures reader).final ready
    exact inside_kept ended
  | upsert writerId resourceType resourceId request =>
    have same : writerId = userId := writer writerId rfl
    subst same
    have ready : Ready tenantId writerId (state.current tenantId).catalog state :=
      { accepted, scopable, kept := refl }
    have ended := ((upsert_ensures resourceType resourceId request).weaken
      (fun _ => id) (fun _ _ inside => inside.ready) fun _ => id).final ready
    exact ⟨ended.accepted, ended.kept⟩
  | disable writerId resourceType resourceId expectedRevision =>
    have same : writerId = userId := writer writerId rfl
    subst same
    have ready : Ready tenantId writerId (state.current tenantId).catalog state :=
      { accepted, scopable, kept := refl }
    exact inside_kept ((disable_ensures resourceType resourceId expectedRevision).final ready)

theorem get_scoped (accepted : Accepted state) (drafts : List AgentDraft)
  {record : CapabilityCatalogRecord}
  (returned : (CapabilityCatalogService.get tenantId state).1 = .ok record) :
  scopeLegacyMcpCapabilities drafts record.catalog = none := by
  rw [get_accepted accepted] at returned
  cases returned
  exact scopeLegacy_none.mpr afterRead_scoped

theorem get_get (accepted : Accepted state)
  (scopable : Scopable state.drafts (state.current tenantId).catalog) :
  (CapabilityCatalogService.get tenantId (CapabilityCatalogService.get tenantId state).2).2 =
    (CapabilityCatalogService.get tenantId state).2 ↔
    ReadOnce (state.current tenantId) := by
  have settled := afterRead_settled accepted scopable
  have again : Accepted { state with row := some (state.afterRead tenantId) } := by
    intro record stored
    rw [← some.inj stored]
    exact uniqueManagedIds_ok.mpr settled.unique
  rw [get_accepted accepted]
  rw [get_accepted again, ← migrated_afterRead]
  constructor
  · intro same
    have kept := some.inj (congrArg CatalogState.row same)
    cases found : migrated tenantId state.drafts (state.afterRead tenantId) with
    | none => rfl
    | some upgraded =>
      have raised := migrated_revision found
      rw [CatalogState.afterRead, CatalogState.current] at kept
      rw [getD_some, found, getD_some] at kept
      rw [kept] at raised
      omega
  intro unchanged
  rw [CatalogState.afterRead, CatalogState.current]
  rw [getD_some, unchanged, getD_none]

end

/-- A run whose reads find no name taken keeps the catalog valid and readable, what it scopes is
scoped once, and no step touches the entries of anybody but its writer. -/
theorem catalog_run {tenantId : String} {start : CatalogState} {steps : List CatalogStep}
  (accepted : Accepted start)
  (scopable : Meets (CatalogStep.perform tenantId) (ScopableAt tenantId) start steps) :
  let state := steps.foldl (CatalogStep.perform tenantId) start
  Accepted state ∧ (∃ record, (CapabilityCatalogService.get tenantId state).1 = .ok record ∧
      ∀ drafts, scopeLegacyMcpCapabilities drafts record.catalog = none) ∧
    (Scopable state.drafts (state.current tenantId).catalog →
      ((CapabilityCatalogService.get tenantId (CapabilityCatalogService.get tenantId state).2).2 =
        (CapabilityCatalogService.get tenantId state).2 ↔ ReadOnce (state.current tenantId))) ∧
    ∀ step, ScopableAt tenantId state step → ∀ userId, (∀ writer ∈ step.writer, writer = userId) →
        KeepsOthers userId (state.current tenantId).catalog
          ((step.perform tenantId state).current tenantId).catalog := by
  intro state
  have keeps : ∀ before step, Accepted before → ScopableAt tenantId before step →
    Accepted (CatalogStep.perform tenantId before step) := by
    intro before step holds guarded
    have writer : ∀ writer ∈ step.writer, writer = step.writer.getD "" := by
      intro writer same
      rw [same, getD_some]
    exact (perform_kept holds guarded writer).1
  have reached : Accepted state := foldl_invariant keeps accepted scopable
  refine ⟨reached, ?_, get_get reached, ?_⟩
  · have returned : (CapabilityCatalogService.get tenantId state).1 =
      .ok (state.afterRead tenantId) := by
      rw [get_accepted reached]
    exact ⟨_, returned, fun drafts => get_scoped reached drafts returned⟩
  intro step guarded userId writer
  exact (perform_kept reached guarded writer).2

def olderSearch : McpCapability where
  reference := "team-search"
  label := "Search"
  tools := ["mcp__search__query"]
  networkAccess := .external

def draftOf (userId : String) : AgentDraft where
  draftId := "draft-1"
  createdBy := userId
  routeId := "deepseek-v4-pro"
  mcpServers := ["team-search"]
  permissionPolicy := "production-standard"
  executionProfile := "isolated-default"

def sharedName (drafts : List AgentDraft) : CatalogState where
  row := some
    { tenantId := "acme", revision := 3
      catalog := { defaultCapabilityCatalog with
        mcpServers := defaultMcpServers ++
          [olderSearch, { olderSearch with ownerUserId := some "bob" }] }
      updatedBy := "carol" }
  drafts

def aliceUpserts : CatalogStep :=
  .upsert "alice" .mcp "notes"
    { expectedRevision := 4, resource := .mcp { olderSearch with reference := "notes" }
      allowedExecutionProfileIds := some ["isolated-default"] }

theorem catalog_run_plain : let steps := [.get, aliceUpserts, .disable "alice" .mcp "notes" 5]
  let state := steps.foldl (CatalogStep.perform "acme") (sharedName [draftOf "alice"])
  Accepted state ∧ (∃ record, (CapabilityCatalogService.get "acme" state).1 = .ok record ∧
      ∀ drafts, scopeLegacyMcpCapabilities drafts record.catalog = none) ∧
    (Scopable state.drafts (state.current "acme").catalog → ((CapabilityCatalogService.get "acme"
          (CapabilityCatalogService.get "acme" state).2).2 =
        (CapabilityCatalogService.get "acme" state).2 ↔ ReadOnce (state.current "acme"))) ∧
    ∀ step, ScopableAt "acme" state step → ∀ userId, (∀ writer ∈ step.writer, writer = userId) →
        KeepsOthers userId (state.current "acme").catalog
          ((step.perform "acme" state).current "acme").catalog :=
  catalog_run (by decide +kernel) (by decide +kernel)

example :
  (([.get, aliceUpserts, .disable "alice" .mcp "notes" 5].foldl (CatalogStep.perform "acme")
    (sharedName [draftOf "alice"])).current "acme").revision = 6 := by
  decide +kernel

theorem sharedName_unreadable :
  ¬ ∀ (tenantId : String) (start : CatalogState) (steps : List CatalogStep), Accepted start →
    Accepted (steps.foldl (CatalogStep.perform tenantId) start) ∧
    ∃ record, (CapabilityCatalogService.get tenantId
    (steps.foldl (CatalogStep.perform tenantId) start)).1 = .ok record := by
  intro always
  obtain ⟨_, record, returned⟩ :=
    always "acme" (sharedName [draftOf "bob"]) [.get] (by decide +kernel)
  have raised : (CapabilityCatalogService.get "acme"
    (CatalogStep.perform "acme" (sharedName [draftOf "bob"]) .get)).1 =
      .error (.validation "duplicate MCP: bob:team-search") := by
    decide +kernel
  cases returned.symm.trans raised

end AgentHarness.Studio
