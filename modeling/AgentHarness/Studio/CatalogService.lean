import AgentHarness.Interaction.Fallible
import AgentHarness.Studio.Catalog

/-!
The catalog service of one tenant.
-/

namespace AgentHarness.Studio

open Interaction (Fallible)
open Interaction.Fallible

inductive CatalogError
  | validation (message : String)
  | conflict (message : String)
  | notFound (message : String)
  deriving DecidableEq

structure CapabilityCatalogRecord where
  tenantId : String
  revision : Nat
  catalog : CapabilityCatalog
  updatedBy : String
  deriving DecidableEq

structure CatalogState where
  row : Option CapabilityCatalogRecord
  drafts : List AgentDraft

abbrev CatalogCall (Value : Type) := Fallible CatalogState CatalogError Value

namespace CatalogRepository

def validated (record : CapabilityCatalogRecord) : Except CatalogError CapabilityCatalogRecord :=
  match uniqueManagedIds record.catalog with
  | .ok () => .ok record
  | .error message => .error (.validation message)

def get (tenantId : String) : CatalogCall CapabilityCatalogRecord := fun state =>
  match state.row with
  | none => (.error (.notFound ("Capability catalog not found: " ++ tenantId)), state)
  | some record => (validated record, state)

def seed (record : CapabilityCatalogRecord) : CatalogCall CapabilityCatalogRecord := fun state =>
  match state.row with
  | none => (.ok record, { state with row := some record })
  | some _ => get record.tenantId state

def replace (expectedRevision : Nat) (record : CapabilityCatalogRecord) : CatalogCall Unit :=
  fun state =>
    if record.revision ≠ expectedRevision + 1 then
      (.error (.conflict "Capability catalog revision must increment once"), state)
    else
      match state.row with
      | none => (.error (.notFound ("Capability catalog not found: " ++ record.tenantId)), state)
      | some current =>
        if current.revision = expectedRevision then (.ok (), { state with row := some record })
        else
          (.error (.conflict ("Capability catalog revision changed: expected=" ++
            toString expectedRevision ++ " actual=" ++ toString current.revision)), state)

end CatalogRepository

def systemManaged (updatedBy : String) : Bool :=
  updatedBy = "system" || "system-".isPrefixOf updatedBy

def migration (drafts : List AgentDraft) (current : CapabilityCatalogRecord) :
  Option CapabilityCatalog × String :=
  let upgraded :=
    if systemManaged current.updatedBy then
      (upgradeSystemManagedCatalog current.catalog, "system-route-migration")
    else (none, current.updatedBy)
  match scopeLegacyMcpCapabilities drafts (upgraded.1.getD current.catalog) with
  | some owned => (some owned, "system-user-resource-scope-migration")
  | none => upgraded

variable (tenantId : String)

def migrated (drafts : List AgentDraft) (current : CapabilityCatalogRecord) :
  Option CapabilityCatalogRecord :=
  let (upgraded, updatedBy) := migration drafts current
  upgraded.bind fun catalog =>
    if current.catalog = catalog then none
    else some { tenantId, revision := current.revision + 1, catalog, updatedBy }

def seedRecord : CapabilityCatalogRecord where
  tenantId
  revision := 1
  catalog := defaultCapabilityCatalog
  updatedBy := "system"

/-- `except ConflictError: return await self._repository.get(tenant_id)`. -/
def orReread (written : CapabilityCatalogRecord) (call : CatalogCall Unit) :
  CatalogCall CapabilityCatalogRecord := fun state =>
  match call state with
  | (.ok (), state') => (.ok written, state')
  | (.error (.conflict _), state') => CatalogRepository.get tenantId state'
  | (.error error, state') => (.error error, state')

namespace CapabilityCatalogService

variable (tenantId : String)

def get : CatalogCall CapabilityCatalogRecord := do
  let current ← CatalogRepository.seed (seedRecord tenantId)
  let drafts ← read CatalogState.drafts
  match migrated tenantId drafts current with
  | none => pure current
  | some upgraded =>
    orReread tenantId upgraded (CatalogRepository.replace current.revision upgraded)

def recordForUser (record : CapabilityCatalogRecord) (userId : String) : CapabilityCatalogRecord :=
  { record with updatedBy := "personal-catalog", catalog := catalogForUser record.catalog userId }

def getForUser (userId : String) : CatalogCall CapabilityCatalogRecord := do
  let record ← get tenantId
  pure (recordForUser record userId)

inductive CatalogResourceType
  | modelRoute
  | mcp
  | policy
  | executionProfile
  deriving DecidableEq

def CatalogResourceType.value : CatalogResourceType → String
  | .modelRoute => "modelRoute"
  | .mcp => "mcp"
  | .policy => "policy"
  | .executionProfile => "executionProfile"

inductive CatalogManagedResource
  | modelRoute (resource : ModelRouteCapability)
  | mcp (resource : McpCapability)
  | policy (resource : PolicyCapability)
  | executionProfile (resource : ExecutionProfileMetadata)

def CatalogManagedResource.type : CatalogManagedResource → CatalogResourceType
  | .modelRoute _ => .modelRoute
  | .mcp _ => .mcp
  | .policy _ => .policy
  | .executionProfile _ => .executionProfile

def CatalogManagedResource.identifier : CatalogManagedResource → String
  | .modelRoute resource => resource.routeId
  | .mcp resource => resource.reference
  | .policy resource => resource.policyId
  | .executionProfile resource => resource.profileId

structure UpsertCatalogResourceRequest where
  expectedRevision : Nat
  resource : CatalogManagedResource
  allowedExecutionProfileIds : Option (List String) := none
  unique : ∀ profileIds ∈ allowedExecutionProfileIds, profileIds.Nodup := by decide

structure CatalogImpact where
  resourceType : CatalogResourceType
  resourceId : String
  draftIds : List String

structure CatalogMutationResult where
  record : CapabilityCatalogRecord
  impact : CatalogImpact

def notFoundResource (resourceType : CatalogResourceType) (resourceId : String) : CatalogError :=
  .notFound ("Catalog resource not found: " ++ resourceType.value ++ "/" ++ resourceId)

variable (catalog : CapabilityCatalog)

def contains (resourceType : CatalogResourceType) (resourceId : String) : Bool :=
  match resourceType with
  | .modelRoute => (catalog.modelRoutes.map ModelRouteCapability.routeId).contains resourceId
  | .mcp => (catalog.mcpServers.map McpCapability.reference).contains resourceId
  | .policy => (catalog.policies.map PolicyCapability.policyId).contains resourceId
  | .executionProfile =>
    (catalog.executionProfiles.map ExecutionProfileMetadata.profileId).contains resourceId

def referenced (resourceType : CatalogResourceType) (resourceId : String) (draft : AgentDraft) :
  Bool :=
  match resourceType with
  | .modelRoute => draft.routeId = resourceId
  | .mcp => draft.mcpServers.contains resourceId
  | .policy => draft.permissionPolicy = resourceId
  | .executionProfile => draft.executionProfile = resourceId

def affectedDrafts (drafts : List AgentDraft) (userId : String)
  (resourceType : CatalogResourceType) (resourceId : String) : List String :=
  let listed :=
    if resourceType = .mcp then drafts.filter fun draft => draft.createdBy = userId else drafts
  ((listed.filter (referenced resourceType resourceId)).map AgentDraft.draftId).insertionSort
    (· ≤ ·)

def impact (userId : String) (resourceType : CatalogResourceType) (resourceId : String) :
  CatalogCall CatalogImpact := do
  let record ← getForUser tenantId userId
  refuseIf (contains record.catalog resourceType resourceId = false)
    (notFoundResource resourceType resourceId)
  let drafts ← read CatalogState.drafts
  pure
    { resourceType, resourceId
      draftIds := affectedDrafts drafts userId resourceType resourceId }

/-- `replace`, with the two fields of its request. -/
def replace (tenantId userId : String) (expectedRevision : Nat) (catalog : CapabilityCatalog) :
  CatalogCall CapabilityCatalogRecord := do
  let current ← get tenantId
  let updated : CapabilityCatalogRecord :=
    { tenantId, revision := current.revision + 1, catalog, updatedBy := userId }
  CatalogRepository.replace expectedRevision updated
  pure updated

def mapMatching {Entry : Type} (selected : Entry → Bool) (change : Entry → Entry)
  (entries : List Entry) : List Entry :=
  entries.map fun entry => if selected entry then change entry else entry

def ownMcp (userId resourceId : String) (entry : McpCapability) : Bool :=
  entry.reference = resourceId && entry.ownerUserId = some userId

def disabled (userId : String) (resourceType : CatalogResourceType) (resourceId : String) :
  CapabilityCatalog :=
  match resourceType with
  | .modelRoute =>
    { catalog with
      modelRoutes := mapMatching (fun entry => entry.routeId = resourceId)
        (fun entry => { entry with enabled := false, version := entry.version + 1 })
        catalog.modelRoutes }
  | .mcp =>
    { catalog with
      mcpServers := mapMatching (ownMcp userId resourceId)
        (fun entry => { entry with enabled := false, version := entry.version + 1 })
        catalog.mcpServers }
  | .policy =>
    { catalog with
      policies := mapMatching (fun entry => entry.policyId = resourceId)
        (fun entry => { entry with enabled := false, version := entry.version + 1 })
        catalog.policies }
  | .executionProfile =>
    { catalog with
      executionProfiles := mapMatching (fun entry => entry.profileId = resourceId)
        (fun entry => { entry with enabled := false, version := entry.version + 1 })
        catalog.executionProfiles }

def disable (userId : String) (resourceType : CatalogResourceType) (resourceId : String)
  (expectedRevision : Nat) : CatalogCall CatalogMutationResult := do
  let current ← get tenantId
  refuseIf
    (resourceType = .mcp ∧ current.catalog.mcpServers.find? (ownMcp userId resourceId) = none)
    (notFoundResource .mcp resourceId)
  let affected ← impact tenantId userId resourceType resourceId
  let record ← replace tenantId userId expectedRevision
    (disabled current.catalog userId resourceType resourceId)
  pure { record := recordForUser record userId, impact := affected }

def putMatching {Entry : Type} (selected : Entry → Bool) (resource : Entry)
  (entries : List Entry) : List Entry :=
  let updated := mapMatching selected (fun _ => resource) entries
  match entries.find? selected with
  | none => updated ++ [resource]
  | some _ => updated

def nextVersion {Entry : Type} (version : Entry → Nat) : Option Entry → Nat
  | none => 1
  | some existing => version existing + 1

def namedText (identifiers : List String) : String :=
  ", ".intercalate (identifiers.dedup.insertionSort (· ≤ ·))

def profilesNamed (profileId : String) : Option ExecutionProfileMetadata :=
  catalog.executionProfiles.reverse.find? fun profile => profile.profileId = profileId

def checkSelectedProfiles (resource : McpCapability) (selected : List String) :
  Except CatalogError Unit :=
  let unknown := selected.filter fun profileId => (profilesNamed catalog profileId).isNone
  let unavailable := selected.filter fun profileId =>
    (profilesNamed catalog profileId).any fun profile => !profile.enabled
  let incompatible := selected.filter fun profileId =>
    (profilesNamed catalog profileId).any fun profile =>
      !profile.networkAccess.contains resource.networkAccess
  if unknown ≠ [] then .error (.conflict ("Unknown Execution Profiles: " ++ namedText unknown))
  else if unavailable ≠ [] then
    .error (.conflict ("Disabled Execution Profiles cannot be authorized: " ++
      namedText unavailable))
  else if incompatible ≠ [] then
    .error (.conflict ("MCP network access " ++ resource.networkAccess.value ++
      " is not supported by Execution Profiles: " ++ namedText incompatible))
  else .ok ()

def checkAuthorization (request : UpsertCatalogResourceRequest) : Except CatalogError Unit :=
  match request.resource, request.allowedExecutionProfileIds with
  | .mcp resource, some selected => checkSelectedProfiles catalog resource selected
  | _, _ => .ok ()

def personalMcp (userId : String) (resource : McpCapability) (selected : Option (List String))
  (existing : Option McpCapability) : McpCapability :=
  { resource with
    version := nextVersion McpCapability.version existing, ownerUserId := some userId
    allowedExecutionProfileIds :=
      match selected, existing with
      | some profileIds, _ => profileIds
      | none, some entry => entry.allowedExecutionProfileIds
      | none, none => resource.allowedExecutionProfileIds }

def hasExisting (userId : String) (resource : CatalogManagedResource) : Bool :=
  match resource with
  | .modelRoute route => catalog.modelRoutes.any fun entry => entry.routeId = route.routeId
  | .mcp server => catalog.mcpServers.any (ownMcp userId server.reference)
  | .policy policy => catalog.policies.any fun entry => entry.policyId = policy.policyId
  | .executionProfile profile =>
    catalog.executionProfiles.any fun entry => entry.profileId = profile.profileId

def upserted (userId : String) (request : UpsertCatalogResourceRequest) : CapabilityCatalog :=
  match request.resource with
  | .modelRoute route =>
    let selected := fun entry : ModelRouteCapability => decide (entry.routeId = route.routeId)
    let version := nextVersion ModelRouteCapability.version (catalog.modelRoutes.find? selected)
    { catalog with
      modelRoutes := putMatching selected { route with version } catalog.modelRoutes }
  | .mcp server =>
    let selected := ownMcp userId server.reference
    let resource := personalMcp userId server request.allowedExecutionProfileIds
      (catalog.mcpServers.find? selected)
    { catalog with mcpServers := putMatching selected resource catalog.mcpServers }
  | .policy policy =>
    let selected := fun entry : PolicyCapability => decide (entry.policyId = policy.policyId)
    let version := nextVersion PolicyCapability.version (catalog.policies.find? selected)
    { catalog with policies := putMatching selected { policy with version } catalog.policies }
  | .executionProfile profile =>
    let selected := fun entry : ExecutionProfileMetadata =>
      decide (entry.profileId = profile.profileId)
    let version :=
      nextVersion ExecutionProfileMetadata.version (catalog.executionProfiles.find? selected)
    { catalog with
      executionProfiles :=
        putMatching selected { profile with version } catalog.executionProfiles }

def existingImpact (userId : String) (catalog : CapabilityCatalog)
  (resource : CatalogManagedResource) (resourceType : CatalogResourceType) (resourceId : String) :
  CatalogCall CatalogImpact :=
  if hasExisting catalog userId resource then impact tenantId userId resourceType resourceId
  else pure { resourceType, resourceId, draftIds := [] }

def upsert (userId : String) (resourceType : CatalogResourceType) (resourceId : String)
  (request : UpsertCatalogResourceRequest) : CatalogCall CatalogMutationResult := do
  refuseIf (request.resource.type ≠ resourceType)
    (.conflict ("Catalog resource type mismatch: expected " ++ resourceType.value))
  refuseIf (request.resource.identifier ≠ resourceId)
    (.conflict "Catalog resource path and body IDs must match")
  let current ← get tenantId
  let affected ← existingImpact tenantId userId current.catalog request.resource resourceType
    resourceId
  require (checkAuthorization current.catalog request)
  let record ← replace tenantId userId request.expectedRevision
    (upserted current.catalog userId request)
  pure { record := recordForUser record userId, impact := affected }

end CapabilityCatalogService

end AgentHarness.Studio
