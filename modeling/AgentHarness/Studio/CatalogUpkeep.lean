import AgentHarness.Studio.CatalogService
import Mathlib.Data.List.Pairwise

/-!
What each rewriting of a catalog does to the identifiers of its entries.
-/

namespace AgentHarness.Studio

open List ModelRouteCapability

theorem appendMissing_nodup {Entry Key : Type} {identifier : Entry → String} {key : Entry → Key}
  (refines : ∀ left right, key left = key right → identifier left = identifier right)
  {current builtins : List Entry} (unique : (current.map key).Nodup)
  (builtinsUnique : (builtins.map key).Nodup) :
  ((appendMissing identifier current builtins).map key).Nodup := by
  rw [appendMissing, map_append, nodup_append]
  refine ⟨unique, ((filter_sublist).map key).nodup builtinsUnique, ?_⟩
  intro own present other added same
  obtain ⟨entry, member, rfl⟩ := mem_map.mp present
  obtain ⟨builtin, missing, rfl⟩ := mem_map.mp added
  have absent : identifier builtin ∉ current.map identifier :=
    of_decide_eq_true (mem_filter.mp missing).2
  apply absent
  rw [← refines entry builtin same]
  exact mem_map_of_mem member

variable {routes : List ModelRouteCapability} {entry : McpCapability}
  {legacy : ModelRouteCapability}

theorem legacyRoute_some (found : legacyRoute routes = some legacy) :
  legacy ∈ routes ∧ legacy.routeId = "new-api-default" ∧
    ∀ route ∈ routes, route.routeId ∉ splitRouteIds := by
  unfold legacyRoute at found
  split at found
  · cases found
  case isFalse unsplit =>
    obtain ⟨first, _⟩ := Option.filter_eq_some_iff.mp found
    have named := find?_some first
    refine ⟨mem_of_find?_eq_some first, of_decide_eq_true named, ?_⟩
    intro route member split
    apply unsplit
    rw [any_eq_true]
    exact ⟨route, member, contains_iff_mem.mpr split⟩

def migratedIds (legacy route : ModelRouteCapability) : List String :=
  if route = legacy then legacy.routeId :: splitRouteIds else [route.routeId]

theorem migrateRoutes_ids (found : legacyRoute routes = some legacy) :
  (migrateRoutes routes).map routeId = routes.flatMap (migratedIds legacy) := by
  rw [migrateRoutes, found, map_flatMap]
  apply flatMap_congr
  intro route _
  unfold migratedIds
  split
  · rfl
  rfl

theorem migrateRoutes_nodup (unique : (routes.map routeId).Nodup) :
  ((migrateRoutes routes).map routeId).Nodup := by
  cases found : legacyRoute routes with
  | none =>
    rw [migrateRoutes, found]
    exact unique
  | some legacy =>
    obtain ⟨member, named, unsplit⟩ := legacyRoute_some found
    have fresh : legacy.routeId ∉ splitRouteIds := unsplit legacy member
    rw [migrateRoutes_ids found, nodup_flatMap]
    constructor
    · intro route _
      unfold migratedIds
      split
      · exact nodup_cons.mpr ⟨fresh, by decide⟩
      exact nodup_singleton _
    have apart := pairwise_map.mp unique
    apply apart.imp_of_mem
    intro left right leftMember rightMember differ
    have leftUnsplit := unsplit left leftMember
    have rightUnsplit := unsplit right rightMember
    simp only [Function.onFun, disjoint_left, migratedIds]
    intro identifier inLeft inRight
    split at inLeft
    case isTrue isLegacy =>
      subst isLegacy
      rw [if_neg fun same => differ (congrArg _ same).symm, mem_singleton] at inRight
      subst inRight
      cases mem_cons.mp inLeft with
      | inl same => exact differ same.symm
      | inr split => exact rightUnsplit split
    · rw [mem_singleton] at inLeft
      subst inLeft
      split at inRight
      case isTrue isLegacy =>
        subst isLegacy
        cases mem_cons.mp inRight with
        | inl same => exact differ same
        | inr split => exact leftUnsplit split
      · exact differ (mem_singleton.mp inRight)

theorem upgradedCatalog_unique {catalog : CapabilityCatalog} (unique : UniqueIds catalog) :
  UniqueIds (upgradedCatalog catalog) where
  routes := by
    have same : ∀ left right : ModelRouteCapability,
      left.routeId = right.routeId → left.routeId = right.routeId := fun _ _ => id
    have split := migrateRoutes_nodup unique.routes
    have glmUnique : (glmRoutes.map routeId).Nodup := by decide
    exact appendMissing_nodup same (appendMissing_nodup same split glmUnique) (by decide)
  policies := appendMissing_nodup (fun _ _ => id) unique.policies (by decide)
  profiles := appendMissing_nodup (fun _ _ => id) unique.profiles (by decide)
  mcp := appendMissing_nodup (fun _ _ equal => congrArg Prod.snd equal) unique.mcp (by decide)

section

variable {Entry : Type} {identifier : Entry → String} {current builtins : List Entry}

theorem appendMissing_present {builtin : Entry} (member : builtin ∈ builtins) :
  identifier builtin ∈ (appendMissing identifier current builtins).map identifier := by
  rw [appendMissing, map_append, mem_append]
  by_cases present : identifier builtin ∈ current.map identifier
  · exact .inl present
  exact .inr (mem_map_of_mem (mem_filter.mpr ⟨member, decide_eq_true present⟩))

theorem appendMissing_of_present
  (present : ∀ builtin ∈ builtins, identifier builtin ∈ current.map identifier) :
  appendMissing identifier current builtins = current := by
  have nothing : (builtins.filter fun item => identifier item ∉ current.map identifier) = [] := by
    rw [filter_eq_nil_iff]
    intro builtin member
    rw [decide_eq_true_eq]
    exact not_not.mpr (present builtin member)
  rw [appendMissing, nothing, append_nil]

end

theorem migrateRoutes_of_split (split : "deepseek-v4-flash" ∈ routes.map routeId) :
  migrateRoutes routes = routes := by
  obtain ⟨route, member, named⟩ := mem_map.mp split
  have isSplit : (routes.any fun route => splitRouteIds.contains route.routeId) = true := by
    rw [any_eq_true]
    exact ⟨route, member, by rw [named]; decide⟩
  have settled : legacyRoute routes = none := by
    rw [legacyRoute, if_pos isSplit]
  rw [migrateRoutes, settled]

structure Upgraded (catalog : CapabilityCatalog) : Prop where
  routes : ∀ route ∈ defaultModelRoutes, route.routeId ∈ catalog.modelRoutes.map routeId
  mcp : ∀ entry ∈ defaultMcpServers,
    entry.reference ∈ catalog.mcpServers.map McpCapability.reference
  policies : ∀ policy ∈ defaultPolicies,
    policy.policyId ∈ catalog.policies.map PolicyCapability.policyId
  profiles : ∀ profile ∈ defaultExecutionProfiles,
    profile.profileId ∈ catalog.executionProfiles.map ExecutionProfileMetadata.profileId

theorem upgradedCatalog_upgraded (catalog : CapabilityCatalog) :
  Upgraded (upgradedCatalog catalog) where
  routes := fun _ member => appendMissing_present member
  mcp := fun _ member => appendMissing_present member
  policies := fun _ member => appendMissing_present member
  profiles := fun _ member => appendMissing_present member

theorem upgradedCatalog_eq {catalog : CapabilityCatalog} :
  upgradedCatalog catalog = catalog ↔ Upgraded catalog := by
  constructor
  · intro same
    rw [← same]
    exact upgradedCatalog_upgraded catalog
  intro upgraded
  have split : migrateRoutes catalog.modelRoutes = catalog.modelRoutes :=
    migrateRoutes_of_split
      (upgraded.routes (defaultModelRoutes.get ⟨1, by decide⟩) (by decide))
  have glm : appendMissing routeId catalog.modelRoutes glmRoutes = catalog.modelRoutes :=
    appendMissing_of_present fun route member =>
      upgraded.routes route (filter_sublist.subset member)
  rw [upgradedCatalog, split, glm, appendMissing_of_present upgraded.routes,
    appendMissing_of_present upgraded.mcp, appendMissing_of_present upgraded.policies,
    appendMissing_of_present upgraded.profiles]

variable (drafts : List AgentDraft)

def Scopable (catalog : CapabilityCatalog) : Prop :=
  ∀ entry ∈ catalog.mcpServers, entry.isLegacy = true → ∀ owner ∈ ownersOf drafts entry.reference,
      (some owner, entry.reference) ∉ catalog.mcpServers.map McpCapability.key

instance (drafts : List AgentDraft) (catalog : CapabilityCatalog) :
  Decidable (Scopable drafts catalog) :=
  inferInstanceAs (Decidable (∀ entry ∈ catalog.mcpServers, _))

def scopedKeys (entry : McpCapability) : List (Option String × String) :=
  if entry.isLegacy then (ownersOf drafts entry.reference).map fun owner =>
    (some owner, entry.reference)
  else [entry.key]

theorem scopedEntries_keys {drafts : List AgentDraft} {profiles : List ExecutionProfileMetadata} :
  (scopedEntries drafts profiles entry).map McpCapability.key = scopedKeys drafts entry := by
  unfold scopedEntries scopedKeys
  split
  · rw [map_map]; rfl
  rfl

theorem ownersOf_nodup (reference : String) : (ownersOf drafts reference).Nodup := by
  unfold ownersOf
  dsimp only
  split
  · exact nodup_singleton _
  exact (perm_insertionSort _ _).nodup_iff.mpr (nodup_dedup _)

theorem isLegacy_owner (legacy : entry.isLegacy = true) : entry.ownerUserId = none := by
  simp only [McpCapability.isLegacy, Bool.and_eq_true, Option.isNone_iff_eq_none] at legacy
  exact legacy.1

theorem scopedKeys_nodup {drafts : List AgentDraft} : (scopedKeys drafts entry).Nodup := by
  unfold scopedKeys
  split
  · apply (ownersOf_nodup drafts entry.reference).map
    intro left right same
    exact Option.some.inj (congrArg Prod.fst same)
  exact nodup_singleton _

section

variable {drafts : List AgentDraft} {catalog owned : CapabilityCatalog}

theorem scopedKeys_disjoint (scopable : Scopable drafts catalog)
  {left right : McpCapability} (leftMember : left ∈ catalog.mcpServers)
  (rightMember : right ∈ catalog.mcpServers) (differ : left.key ≠ right.key) :
  (scopedKeys drafts left).Disjoint (scopedKeys drafts right) := by
  intro key inLeft inRight
  unfold scopedKeys at inLeft inRight
  split at inLeft
  case isTrue leftLegacy =>
    obtain ⟨owner, owns, rfl⟩ := mem_map.mp inLeft
    split at inRight
    case isTrue rightLegacy =>
      obtain ⟨_, _, same⟩ := mem_map.mp inRight
      apply differ
      rw [McpCapability.key, McpCapability.key, isLegacy_owner leftLegacy,
        isLegacy_owner rightLegacy, (Prod.mk.inj same).2]
    · apply scopable left leftMember leftLegacy owner owns
      rw [mem_singleton.mp inRight]
      exact mem_map_of_mem rightMember
  · rw [mem_singleton] at inLeft
    subst inLeft
    split at inRight
    case isTrue rightLegacy =>
      obtain ⟨owner, owns, same⟩ := mem_map.mp inRight
      apply scopable right rightMember rightLegacy owner owns
      rw [same]
      exact mem_map_of_mem leftMember
    · exact differ (mem_singleton.mp inRight)

theorem scopedKeys_nodup_iff (unique : (catalog.mcpServers.map McpCapability.key).Nodup) :
  ((catalog.mcpServers.flatMap (scopedEntries drafts catalog.executionProfiles)).map
    McpCapability.key).Nodup ↔ Scopable drafts catalog := by
  have keys : (catalog.mcpServers.flatMap (scopedEntries drafts catalog.executionProfiles)).map
    McpCapability.key = catalog.mcpServers.flatMap (scopedKeys drafts) := by
    rw [map_flatMap]
    exact flatMap_congr fun entry _ => scopedEntries_keys
  rw [keys, nodup_flatMap]
  constructor
  · intro ⟨_, apart⟩ entry member legacy owner owns taken
    obtain ⟨other, otherMember, same⟩ := mem_map.mp taken
    have otherKept : other.isLegacy = false := by
      have personal : other.ownerUserId = some owner := congrArg Prod.fst same
      rw [McpCapability.isLegacy, personal]
      rfl
    have differ : entry ≠ other := by
      intro equal
      rw [equal, otherKept] at legacy
      cases legacy
    have : Std.Symm (Function.onFun List.Disjoint (scopedKeys drafts)) :=
      ⟨fun _ _ disjoint => disjoint.symm⟩
    have disjoint := apart.forall member otherMember differ
    apply @disjoint (some owner, entry.reference)
    · rw [scopedKeys, if_pos legacy]
      exact mem_map_of_mem owns
    rw [scopedKeys, otherKept, if_neg Bool.false_ne_true, same]
    exact mem_singleton_self _
  intro scopable
  refine ⟨fun entry _ => scopedKeys_nodup, ?_⟩
  have apart := pairwise_map.mp unique
  exact apart.imp_of_mem fun leftMember rightMember differ =>
    scopedKeys_disjoint scopable leftMember rightMember differ

theorem scopeLegacy_some (found : scopeLegacyMcpCapabilities drafts catalog = some owned) :
  owned = { catalog with
    mcpServers :=
      catalog.mcpServers.flatMap (scopedEntries drafts catalog.executionProfiles) } := by
  unfold scopeLegacyMcpCapabilities at found
  split at found
  · exact (Option.some.inj found).symm
  cases found

theorem scopeLegacy_unique_iff (unique : UniqueIds catalog)
  (found : scopeLegacyMcpCapabilities drafts catalog = some owned) :
  UniqueIds owned ↔ Scopable drafts catalog := by
  rw [scopeLegacy_some found, ← scopedKeys_nodup_iff unique.mcp]
  constructor
  · exact fun ownedUnique => ownedUnique.mcp
  intro keys
  exact { unique with mcp := keys }

def Scoped (catalog : CapabilityCatalog) : Prop :=
  ∀ entry ∈ catalog.mcpServers, entry.isLegacy = false

theorem scopeLegacy_none : scopeLegacyMcpCapabilities drafts catalog = none ↔ Scoped catalog := by
  unfold scopeLegacyMcpCapabilities Scoped
  simp [any_eq_true]

theorem scopeLegacy_scoped (found : scopeLegacyMcpCapabilities drafts catalog = some owned) :
  Scoped owned := by
  rw [scopeLegacy_some found]
  intro entry member
  obtain ⟨origin, _, placed⟩ := mem_flatMap.mp member
  unfold scopedEntries at placed
  split at placed
  · obtain ⟨owner, _, rfl⟩ := mem_map.mp placed
    rfl
  case isFalse kept =>
    rw [mem_singleton.mp placed]
    exact Bool.eq_false_of_not_eq_true kept

theorem scopeLegacy_keeps (found : scopeLegacyMcpCapabilities drafts catalog = some owned)
  (userId : String) : (catalog.mcpServers.filter (visibleTo userId)).Sublist
    (owned.mcpServers.filter (visibleTo userId)) := by
  rw [scopeLegacy_some found]
  induction catalog.mcpServers with
  | nil => exact List.Sublist.refl _
  | cons entry rest ih =>
    rw [flatMap_cons, filter_append]
    by_cases visible : visibleTo userId entry = true
    · have kept : scopedEntries drafts catalog.executionProfiles entry = [entry] := by
        have owner : entry.ownerUserId = some userId := of_decide_eq_true visible
        rw [scopedEntries, McpCapability.isLegacy, owner]
        rfl
      rw [kept, filter_cons_of_pos visible, filter_singleton, visible]
      exact ih.cons_cons entry
    rw [filter_cons_of_neg visible]
    exact ih.trans (sublist_append_right _ _)

theorem scopedEntries_reference {profiles : List ExecutionProfileMetadata}
  {entry placed : McpCapability} (member : placed ∈ scopedEntries drafts profiles entry) :
  placed.reference = entry.reference := by
  unfold scopedEntries at member
  split at member
  · obtain ⟨owner, _, rfl⟩ := mem_map.mp member
    rfl
  rw [mem_singleton.mp member]

theorem scopedEntries_nonempty (profiles : List ExecutionProfileMetadata)
  (entry : McpCapability) : ∃ placed, placed ∈ scopedEntries drafts profiles entry := by
  unfold scopedEntries
  split
  · have owners : ownersOf drafts entry.reference ≠ [] := by
      unfold ownersOf
      dsimp only
      split
      · exact cons_ne_nil _ _
      case isFalse some => exact some
    obtain ⟨owner, owns⟩ := exists_mem_of_ne_nil _ owners
    exact ⟨_, mem_map_of_mem owns⟩
  exact ⟨entry, mem_singleton_self entry⟩

theorem scopeLegacy_references (found : scopeLegacyMcpCapabilities drafts catalog = some owned)
  (reference : String) :
  reference ∈ owned.mcpServers.map McpCapability.reference ↔
    reference ∈ catalog.mcpServers.map McpCapability.reference := by
  rw [scopeLegacy_some found]
  simp only [mem_map, mem_flatMap]
  constructor
  · intro ⟨placed, ⟨entry, member, here⟩, named⟩
    exact ⟨entry, member, (scopedEntries_reference here).symm.trans named⟩
  intro ⟨entry, member, named⟩
  obtain ⟨placed, here⟩ := @scopedEntries_nonempty drafts catalog.executionProfiles entry
  exact ⟨placed, ⟨entry, member, here⟩, (scopedEntries_reference here).trans named⟩

theorem scopeLegacy_upgraded (found : scopeLegacyMcpCapabilities drafts catalog = some owned) :
  Upgraded owned ↔ Upgraded catalog := by
  have references := scopeLegacy_references found
  have same := scopeLegacy_some found
  constructor
  · intro upgraded
    rw [same] at upgraded
    exact
      { upgraded with
        mcp := fun entry member => by
          rw [← references, same]
          exact upgraded.mcp entry member }
  intro upgraded
  have names := fun entry member => (references _).mpr (upgraded.mcp entry member)
  rw [same] at names ⊢
  exact { upgraded with mcp := names }

structure Settled (catalog : CapabilityCatalog) : Prop where
  unique : UniqueIds catalog
  owned : Scoped catalog

theorem defaultMcp_owner :
  ∀ entry ∈ defaultMcpServers, entry.ownerUserId = none ∧ entry.isLegacy = false := by
  decide

theorem upgradedMcp_mem {entry : McpCapability}
  (member : entry ∈ (upgradedCatalog catalog).mcpServers) :
  entry ∈ catalog.mcpServers ∨ entry ∈ defaultMcpServers := by
  have parts : entry ∈ appendMissing McpCapability.reference catalog.mcpServers defaultMcpServers :=
    member
  rw [appendMissing, mem_append, mem_filter] at parts
  exact parts.imp_right And.left

theorem upgradedCatalog_scopable (scopable : Scopable drafts catalog) :
  Scopable drafts (upgradedCatalog catalog) := by
  intro entry member legacy owner owns taken
  cases upgradedMcp_mem member with
  | inr builtin =>
    have kept := (defaultMcp_owner entry builtin).2
    exact Bool.false_ne_true (kept.symm.trans legacy)
  | inl present =>
    obtain ⟨other, otherMember, same⟩ := mem_map.mp taken
    cases upgradedMcp_mem otherMember with
    | inl otherPresent =>
      apply scopable entry present legacy owner owns
      rw [← same]
      exact mem_map_of_mem otherPresent
    | inr builtin =>
      have free := (defaultMcp_owner other builtin).1
      have owner' : other.ownerUserId = some owner := congrArg Prod.fst same
      exact Option.some_ne_none owner (owner'.symm.trans free)

theorem upgradedCatalog_scoped (owned : Scoped catalog) : Scoped (upgradedCatalog catalog) := by
  intro entry member
  cases upgradedMcp_mem member with
  | inl present => exact owned entry present
  | inr builtin => exact (defaultMcp_owner entry builtin).2

theorem upgradedCatalog_keeps (catalog : CapabilityCatalog) (userId : String) :
  (catalog.mcpServers.filter (visibleTo userId)).Sublist
    ((upgradedCatalog catalog).mcpServers.filter (visibleTo userId)) :=
  (sublist_append_left _ _).filter _

end

end AgentHarness.Studio
