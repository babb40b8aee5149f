import AgentHarness.Studio.CatalogUpkeep

/-!
What a write of one user does to the catalog it starts from.
-/

namespace AgentHarness.Studio

open List CapabilityCatalogService Bool

section

variable {Entry Key : Type} {selected : Entry → Bool} {change : Entry → Entry} {resource : Entry}
  {entries : List Entry}

open CapabilityCatalogService (mapMatching putMatching)

variable {key : Entry → Key}

theorem mapMatching_map (same : ∀ entry, selected entry = true → key (change entry) = key entry) :
  (mapMatching selected change entries).map key = entries.map key := by
  rw [mapMatching, map_map]
  apply map_congr_left
  intro entry _
  rw [Function.comp_apply]
  split
  case isTrue chosen => exact same entry chosen
  · rfl

theorem mapMatching_nodup (same : ∀ entry, selected entry = true → key (change entry) = key entry)
  (unique : (entries.map key).Nodup) : ((mapMatching selected change entries).map key).Nodup := by
  rw [mapMatching_map same]
  exact unique

variable {seen : Entry → Bool}

theorem mapMatching_filter
  (unseen : ∀ entry, selected entry = true → seen entry = false ∧ seen (change entry) = false) :
  (mapMatching selected change entries).filter seen = entries.filter seen := by
  induction entries with
  | nil => rfl
  | cons entry rest ih =>
    rw [mapMatching, map_cons, ← mapMatching]
    split
    case isTrue chosen =>
      obtain ⟨before, after⟩ := unseen entry chosen
      rw [filter_cons_of_neg (by rw [after]; exact false_ne_true), ih,
        filter_cons_of_neg (by rw [before]; exact false_ne_true)]
    · rw [filter_cons, filter_cons, ih]

variable {holds : Entry → Prop}

theorem mapMatching_all (all : ∀ entry ∈ entries, holds entry)
  (changed : ∀ entry, selected entry = true → holds (change entry)) :
  ∀ entry ∈ mapMatching selected change entries, holds entry := by
  intro entry member
  obtain ⟨origin, present, rfl⟩ := mem_map.mp member
  split
  case isTrue chosen => exact changed origin chosen
  · exact all origin present

theorem putMatching_nodup (keyed : ∀ entry, selected entry = true ↔ key entry = key resource)
  (unique : (entries.map key).Nodup) : ((putMatching selected resource entries).map key).Nodup := by
  have same : (mapMatching selected (fun _ => resource) entries).map key = entries.map key :=
    mapMatching_map fun entry chosen => ((keyed entry).mp chosen).symm
  unfold putMatching
  split
  case h_1 missing =>
    rw [map_append, same, map_singleton, nodup_append]
    refine ⟨unique, nodup_singleton _, ?_⟩
    intro present member added here
    rw [mem_singleton] at here
    subst here
    obtain ⟨entry, stored, rfl⟩ := mem_map.mp member
    intro equal
    exact find?_eq_none.mp missing entry stored ((keyed entry).mpr equal)
  · rw [same]
    exact unique

theorem putMatching_filter (unseen : ∀ entry, selected entry = true → seen entry = false)
  (resourceUnseen : seen resource = false) :
  (putMatching selected resource entries).filter seen = entries.filter seen := by
  have same : (mapMatching selected (fun _ => resource) entries).filter seen =
    entries.filter seen :=
    mapMatching_filter fun entry chosen => ⟨unseen entry chosen, resourceUnseen⟩
  unfold putMatching
  split
  · rw [filter_append, same, filter_singleton, resourceUnseen]
    exact append_nil _
  exact same

theorem putMatching_all (all : ∀ entry ∈ entries, holds entry)
  (put : holds resource) : ∀ entry ∈ putMatching selected resource entries, holds entry := by
  have changed : ∀ entry ∈ mapMatching selected (fun _ => resource) entries, holds entry :=
    mapMatching_all all fun _ _ => put
  intro entry member
  unfold putMatching at member
  split at member
  · cases mem_append.mp member with
    | inl stored => exact changed entry stored
    | inr added =>
      rw [mem_singleton.mp added]
      exact put
  exact changed entry member

end

def KeepsOthers (userId : String) (before after : CapabilityCatalog) : Prop :=
  ∀ other, other ≠ userId → (before.mcpServers.filter (visibleTo other)).Sublist
      (after.mcpServers.filter (visibleTo other))

theorem KeepsOthers.refl (userId : String) (catalog : CapabilityCatalog) :
  KeepsOthers userId catalog catalog :=
  fun _ _ => List.Sublist.refl _

variable {userId : String} {entry : McpCapability}

theorem KeepsOthers.trans {first second third : CapabilityCatalog}
  (earlier : KeepsOthers userId first second) (later : KeepsOthers userId second third) :
  KeepsOthers userId first third :=
  fun other differs => (earlier other differs).trans (later other differs)

theorem ownMcp_true {resourceId : String} : ownMcp userId resourceId entry = true ↔
  entry.reference = resourceId ∧ entry.ownerUserId = some userId := by
  simp [ownMcp]

theorem visibleTo_other {other : String} (differs : other ≠ userId)
  (owned : entry.ownerUserId = some userId) : visibleTo other entry = false := by
  rw [visibleTo, owned]
  exact decide_eq_false fun same => differs (Option.some.inj same).symm

theorem isLegacy_owned (owned : entry.ownerUserId = some userId) : entry.isLegacy = false := by
  rw [McpCapability.isLegacy, owned]
  rfl

section

variable {catalog : CapabilityCatalog} {userId : String}

theorem disabled_settled (settled : Settled catalog)
  (resourceType : CapabilityCatalogService.CatalogResourceType) (resourceId : String) :
  Settled (disabled catalog userId resourceType resourceId) := by
  cases resourceType with
  | modelRoute =>
    exact
      { unique :=
          { settled.unique with
            routes := mapMatching_nodup (fun _ _ => rfl) settled.unique.routes }
        owned := settled.owned }
  | policy =>
    exact
      { unique :=
          { settled.unique with
            policies := mapMatching_nodup (fun _ _ => rfl) settled.unique.policies }
        owned := settled.owned }
  | executionProfile =>
    exact
      { unique :=
          { settled.unique with
            profiles := mapMatching_nodup (fun _ _ => rfl) settled.unique.profiles }
        owned := settled.owned }
  | mcp =>
    exact
      { unique :=
          { settled.unique with
            mcp := mapMatching_nodup (fun _ _ => rfl) settled.unique.mcp }
        owned :=
          mapMatching_all settled.owned fun _ own => isLegacy_owned (ownMcp_true.mp own).2 }

theorem disabled_keeps (resourceType : CapabilityCatalogService.CatalogResourceType)
  (resourceId : String) :
  KeepsOthers userId catalog
    (disabled catalog userId resourceType resourceId) := by
  intro other differs
  cases resourceType with
  | modelRoute | policy | executionProfile => exact List.Sublist.refl _
  | mcp =>
    rw [disabled, mapMatching_filter]
    intro entry own
    have owned := (ownMcp_true.mp own).2
    exact ⟨visibleTo_other differs owned, visibleTo_other differs owned⟩

theorem upserted_settled (settled : Settled catalog)
  (request : CapabilityCatalogService.UpsertCatalogResourceRequest) :
  Settled (upserted catalog userId request) := by
  unfold upserted
  split
  case h_1 route _ =>
    exact
      { unique :=
          { settled.unique with
            routes := putMatching_nodup (fun _ => decide_eq_true_iff) settled.unique.routes }
        owned := settled.owned }
  case h_2 server _ =>
    exact
      { unique :=
          { settled.unique with
            mcp := by
              apply putMatching_nodup _ settled.unique.mcp
              intro entry
              rw [ownMcp_true, McpCapability.key, McpCapability.key, Prod.mk.injEq]
              exact and_comm }
        owned := putMatching_all settled.owned (isLegacy_owned rfl) }
  case h_3 policy _ =>
    exact
      { unique :=
          { settled.unique with
            policies := putMatching_nodup (fun _ => decide_eq_true_iff) settled.unique.policies }
        owned := settled.owned }
  case h_4 profile _ =>
    exact
      { unique :=
          { settled.unique with
            profiles := putMatching_nodup (fun _ => decide_eq_true_iff) settled.unique.profiles }
        owned := settled.owned }

theorem upserted_keeps (request : CapabilityCatalogService.UpsertCatalogResourceRequest) :
  KeepsOthers userId catalog (upserted catalog userId request) := by
  intro other differs
  unfold upserted
  split
  · exact List.Sublist.refl _
  · dsimp only
    rw [putMatching_filter]
    · intro entry own
      exact visibleTo_other differs (ownMcp_true.mp own).2
    exact visibleTo_other differs rfl
  case h_3 => exact List.Sublist.refl _
  case h_4 => exact List.Sublist.refl _

end

end AgentHarness.Studio
