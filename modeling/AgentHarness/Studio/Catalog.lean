import Mathlib.Data.List.Dedup
import Mathlib.Data.List.Sort
import Mathlib.Data.String.Basic

/-!
The capability catalog of a tenant: its entries, its built-in defaults and its migrations.
-/

namespace AgentHarness.Studio

open List

inductive NetworkAccess
  | none
  | internal
  | external
  deriving DecidableEq

def NetworkAccess.value : NetworkAccess → String
  | .none => "none"
  | .internal => "internal"
  | .external => "external"

structure ModelRouteCapability where
  (routeId label provider : String)
  (models capabilities : List String)
  credentialManaged : Bool := true
  credentialReference : Option String := none
  version : Nat := 1
  enabled : Bool := true
  deriving DecidableEq

structure McpCapability where
  reference : String
  ownerUserId : Option String := none
  allowedExecutionProfileIds : List String := []
  label : String
  endpointUrl : Option String := none
  tools : List String
  networkAccess : NetworkAccess
  version : Nat := 1
  enabled : Bool := true
  deriving DecidableEq

structure PolicyCapability where
  (policyId label : String)
  version : Nat := 1
  enabled : Bool := true
  deriving DecidableEq

structure ExecutionProfileMetadata where
  (profileId label : String)
  networkAccess : List NetworkAccess
  allowedMcpReferences : List String := []
  productionAllowed : Bool := true
  version : Nat := 1
  enabled : Bool := true
  deriving DecidableEq

structure CapabilityCatalog where
  modelRoutes : List ModelRouteCapability
  mcpServers : List McpCapability
  policies : List PolicyCapability
  executionProfiles : List ExecutionProfileMetadata
  deriving DecidableEq

def McpCapability.key (entry : McpCapability) : Option String × String :=
  (entry.ownerUserId, entry.reference)

/-- `sorted({identifier … if identifiers.count(identifier) > 1})`. -/
def duplicates (identifiers : List String) : List String :=
  ((identifiers.filter fun identifier => identifiers.count identifier > 1).dedup).insertionSort
    (· ≤ ·)

def duplicateMcp (keys : List (Option String × String)) : List String :=
  (((keys.filter fun key => keys.count key > 1).map fun key =>
    (match key.1 with
      | some "" => "platform"
      | some owner => owner
      | none => "platform") ++ ":" ++ key.2).dedup).insertionSort (· ≤ ·)

variable (catalog : CapabilityCatalog)

/-- `unique_managed_ids`: the message of the error it raises. -/
def uniqueManagedIds : Except String Unit :=
  let routes := duplicates (catalog.modelRoutes.map ModelRouteCapability.routeId)
  let policies := duplicates (catalog.policies.map PolicyCapability.policyId)
  let profiles := duplicates (catalog.executionProfiles.map ExecutionProfileMetadata.profileId)
  let mcp := duplicateMcp (catalog.mcpServers.map McpCapability.key)
  if routes ≠ [] then .error ("duplicate model route: " ++ ", ".intercalate routes)
  else if policies ≠ [] then .error ("duplicate policy: " ++ ", ".intercalate policies)
  else if profiles ≠ [] then .error ("duplicate execution profile: " ++ ", ".intercalate profiles)
  else if mcp ≠ [] then .error ("duplicate MCP: " ++ ", ".intercalate mcp)
  else .ok ()

structure UniqueIds (catalog : CapabilityCatalog) : Prop where
  routes : (catalog.modelRoutes.map ModelRouteCapability.routeId).Nodup
  policies : (catalog.policies.map PolicyCapability.policyId).Nodup
  profiles : (catalog.executionProfiles.map ExecutionProfileMetadata.profileId).Nodup
  mcp : (catalog.mcpServers.map McpCapability.key).Nodup

theorem repeated_nil {Identifier : Type} [BEq Identifier] [LawfulBEq Identifier]
  {identifiers : List Identifier} :
  (identifiers.filter fun identifier => identifiers.count identifier > 1) = [] ↔
    identifiers.Nodup := by
  rw [filter_eq_nil_iff, nodup_iff_count_le_one]
  constructor
  · intro single identifier
    by_cases member : identifier ∈ identifiers
    · have counted := single identifier member
      simp only [gt_iff_lt, decide_eq_true_eq, Nat.not_lt] at counted
      exact counted
    rw [count_eq_zero_of_not_mem member]
    exact Nat.zero_le 1
  intro single identifier _
  simp only [gt_iff_lt, decide_eq_true_eq, Nat.not_lt]
  exact single identifier

theorem sorted_nil {texts : List String} : texts.dedup.insertionSort (· ≤ ·) = [] ↔ texts = [] := by
  rw [← length_eq_zero_iff, length_insertionSort, length_eq_zero_iff, dedup_eq_nil]

theorem duplicates_nil {identifiers : List String} :
  duplicates identifiers = [] ↔ identifiers.Nodup := by
  rw [duplicates, sorted_nil, repeated_nil]

theorem duplicateMcp_nil {keys : List (Option String × String)} :
  duplicateMcp keys = [] ↔ keys.Nodup := by
  rw [duplicateMcp, sorted_nil, map_eq_nil_iff, repeated_nil]

theorem uniqueManagedIds_ok {catalog : CapabilityCatalog} :
  uniqueManagedIds catalog = .ok () ↔ UniqueIds catalog := by
  simp only [uniqueManagedIds, ne_eq, duplicates_nil, duplicateMcp_nil]
  constructor
  · intro accepted
    split at accepted
    · cases accepted
    case isFalse routes =>
      split at accepted
      · cases accepted
      case isFalse policies =>
        split at accepted
        · cases accepted
        case isFalse profiles =>
          split at accepted
          · cases accepted
          case isFalse mcp =>
            exact
              { routes := not_not.mp routes, policies := not_not.mp policies
                profiles := not_not.mp profiles, mcp := not_not.mp mcp }
  intro unique
  rw [if_neg (not_not.mpr unique.routes), if_neg (not_not.mpr unique.policies),
    if_neg (not_not.mpr unique.profiles), if_neg (not_not.mpr unique.mcp)]

def defaultModelRoutes : List ModelRouteCapability :=
  [{ routeId := "new-api-default", label := "DeepSeek V4（兼容路由）", provider := "deepseek"
     models := ["deepseek-v4-pro"], capabilities := ["streaming", "tool_use"]
     credentialReference := some "NEW_API_KEY", version := 2, enabled := false },
    { routeId := "deepseek-v4-flash", label := "DeepSeek V4 Flash", provider := "deepseek"
      models := ["deepseek-v4-flash"], capabilities := ["streaming", "tool_use"]
      credentialReference := some "NEW_API_KEY" },
    { routeId := "deepseek-v4-pro", label := "DeepSeek V4 Pro", provider := "deepseek"
      models := ["deepseek-v4-pro"], capabilities := ["streaming", "tool_use"]
      credentialReference := some "NEW_API_KEY" },
    { routeId := "minimax-m3", label := "MiniMax M3", provider := "minimax"
      models := ["MiniMax-M3"], capabilities := ["streaming", "tool_use", "vision"]
      credentialReference := some "MINIMAX_M3_API_KEY" },
    { routeId := "glm-5-2", label := "GLM-5.2", provider := "glm", models := ["shdata-glm"]
      capabilities := ["streaming", "tool_use"], credentialReference := some "GLM_5_2_API_KEY" },
    { routeId := "anthropic-official", label := "Anthropic official", provider := "anthropic"
      models := ["claude-sonnet-4-6"], capabilities := ["streaming", "tool_use", "tool_search"]
      credentialReference := some "ANTHROPIC_API_KEY" }]

def defaultMcpServers : List McpCapability :=
  [{ reference := "tavily-readonly", label := "公网搜索（Tavily）"
     endpointUrl := some "https://mcp.tavily.com/mcp/"
     tools := ["mcp__tavily__tavily_search", "mcp__tavily__tavily_extract"]
     networkAccess := .external }]

def defaultPolicies : List PolicyCapability :=
  [{ policyId := "production-read-only", label := "生产只读" },
    { policyId := "production-standard", label := "生产标准" },
    { policyId := "production-orchestrator", label := "生产编排" }]

def defaultExecutionProfiles : List ExecutionProfileMetadata :=
  [{ profileId := "local-development", label := "本地开发 Preview"
     networkAccess := [.none, .internal, .external], allowedMcpReferences := ["tavily-readonly"]
     productionAllowed := false },
    { profileId := "isolated-default", label := "生产隔离执行"
      networkAccess := [.none, .internal, .external], allowedMcpReferences := ["tavily-readonly"] },
    { profileId := "e2b-public-egress", label := "E2B 公网隔离执行", networkAccess := [.none, .external]
      allowedMcpReferences := ["tavily-readonly"] },
    { profileId := "gvisor-production", label := "私有化 gVisor"
      networkAccess := [.none, .internal, .external], allowedMcpReferences := ["tavily-readonly"] }]

def defaultCapabilityCatalog : CapabilityCatalog where
  modelRoutes := defaultModelRoutes
  mcpServers := defaultMcpServers
  policies := defaultPolicies
  executionProfiles := defaultExecutionProfiles

def appendMissing {Entry : Type} (identifier : Entry → String) (current builtins : List Entry) :
  List Entry :=
  current ++ builtins.filter fun item => identifier item ∉ current.map identifier

def splitRouteIds : List String := ["deepseek-v4-flash", "deepseek-v4-pro"]

def splitRoutes (legacy : ModelRouteCapability) : List ModelRouteCapability :=
  [{ routeId := "deepseek-v4-flash", label := "DeepSeek V4 Flash", provider := legacy.provider
     models := ["deepseek-v4-flash"], capabilities := legacy.capabilities
     credentialManaged := legacy.credentialManaged
     credentialReference := legacy.credentialReference },
    { routeId := "deepseek-v4-pro", label := "DeepSeek V4 Pro", provider := legacy.provider
      models := ["deepseek-v4-pro"], capabilities := legacy.capabilities
      credentialManaged := legacy.credentialManaged
      credentialReference := legacy.credentialReference }]

def compatibilityRoute (legacy : ModelRouteCapability) : ModelRouteCapability :=
  { legacy with
    label := "DeepSeek V4（兼容路由）", models := ["deepseek-v4-pro"], version := legacy.version + 1
    enabled := false }

def legacyRoute (routes : List ModelRouteCapability) : Option ModelRouteCapability :=
  if routes.any fun route => splitRouteIds.contains route.routeId then none
  else
    (routes.find? fun route => route.routeId = "new-api-default").filter fun route =>
      route.models.all splitRouteIds.contains && splitRouteIds.all route.models.contains

def migrateRoutes (routes : List ModelRouteCapability) : List ModelRouteCapability :=
  match legacyRoute routes with
  | none => routes
  | some legacy =>
    routes.flatMap fun route =>
      if route = legacy then compatibilityRoute legacy :: splitRoutes legacy else [route]

def glmRoutes : List ModelRouteCapability :=
  defaultModelRoutes.filter fun route => route.routeId = "glm-5-2"

def upgradedCatalog : CapabilityCatalog where
  modelRoutes :=
    appendMissing ModelRouteCapability.routeId
      (appendMissing ModelRouteCapability.routeId (migrateRoutes catalog.modelRoutes) glmRoutes)
      defaultModelRoutes
  mcpServers := appendMissing McpCapability.reference catalog.mcpServers defaultMcpServers
  policies := appendMissing PolicyCapability.policyId catalog.policies defaultPolicies
  executionProfiles :=
    appendMissing ExecutionProfileMetadata.profileId catalog.executionProfiles
      defaultExecutionProfiles

/-- `_upgrade_system_managed_catalog`: a catalog, if anything in it is new. -/
def upgradeSystemManagedCatalog : Option CapabilityCatalog :=
  if upgradedCatalog catalog = catalog then none else some (upgradedCatalog catalog)

structure AgentDraft where
  (draftId createdBy routeId : String)
  mcpServers : List String
  (permissionPolicy executionProfile : String)

def platformReferences : List String := defaultMcpServers.map McpCapability.reference

def McpCapability.isLegacy (entry : McpCapability) : Bool :=
  entry.ownerUserId.isNone && !platformReferences.contains entry.reference

variable (drafts : List AgentDraft)

def ownersOf (reference : String) : List String :=
  let owners := (((drafts.filter fun draft => draft.mcpServers.contains reference).map
    AgentDraft.createdBy).dedup).insertionSort (· ≤ ·)
  if owners = [] then ["legacy-unassigned"] else owners

def scopedEntries (profiles : List ExecutionProfileMetadata) (entry : McpCapability) :
  List McpCapability :=
  if entry.isLegacy then
    (ownersOf drafts entry.reference).map fun owner =>
      { entry with
        ownerUserId := some owner
        allowedExecutionProfileIds :=
          (profiles.filter fun profile => profile.allowedMcpReferences.contains
            entry.reference).map ExecutionProfileMetadata.profileId }
  else [entry]

def scopeLegacyMcpCapabilities (catalog : CapabilityCatalog) : Option CapabilityCatalog :=
  if catalog.mcpServers.any McpCapability.isLegacy then
    some { catalog with
      mcpServers := catalog.mcpServers.flatMap (scopedEntries drafts catalog.executionProfiles) }
  else none

def personalReferences : List String :=
  (catalog.mcpServers.filter fun entry => entry.ownerUserId.isSome).map McpCapability.reference

def platformMcpReferences : List String :=
  (catalog.mcpServers.filter fun entry => entry.ownerUserId.isNone).map McpCapability.reference

def visibleTo (userId : String) (entry : McpCapability) : Bool := entry.ownerUserId = some userId

/-- `personal_by_profile.get(profile_id, ())`. -/
def personalByProfile (visible : List McpCapability) (profileId : String) : List String :=
  visible.flatMap fun entry =>
    (entry.allowedExecutionProfileIds.filter (· = profileId)).map fun _ => entry.reference

def profileForUser (userId : String) (profile : ExecutionProfileMetadata) :
  ExecutionProfileMetadata :=
  { profile with
    allowedMcpReferences :=
      (profile.allowedMcpReferences.filter (fun reference =>
          reference ∉ personalReferences catalog ∧ reference ∉ platformMcpReferences catalog) ++
        personalByProfile (catalog.mcpServers.filter (visibleTo userId))
          profile.profileId).eraseDups }

def catalogForUser (userId : String) : CapabilityCatalog :=
  { catalog with
    mcpServers := catalog.mcpServers.filter (visibleTo userId)
    executionProfiles := catalog.executionProfiles.map (profileForUser catalog userId) }

end AgentHarness.Studio
