import AgentHarness.Studio.Catalog

/-!
The view of one user is a function of the tenant's entries and of that user's own entries,
except where a profile names an entry of somebody else: the reference is then taken for a
private one of everybody.
-/

namespace AgentHarness.Studio

open List Bool

/-- Two catalogs that only the personal entries of other users tell apart. -/
structure AgreeFor (userId : String) (left right : CapabilityCatalog) : Prop where
  routes : left.modelRoutes = right.modelRoutes
  policies : left.policies = right.policies
  profiles : left.executionProfiles = right.executionProfiles
  platform :
    (left.mcpServers.filter fun entry => entry.ownerUserId.isNone) =
      right.mcpServers.filter fun entry => entry.ownerUserId.isNone
  own : left.mcpServers.filter (visibleTo userId) = right.mcpServers.filter (visibleTo userId)

instance (userId : String) (left right : CapabilityCatalog) :
  Decidable (AgreeFor userId left right) :=
  decidable_of_iff
    (left.modelRoutes = right.modelRoutes ∧ left.policies = right.policies ∧
      left.executionProfiles = right.executionProfiles ∧
      ((left.mcpServers.filter fun entry => entry.ownerUserId.isNone) =
        right.mcpServers.filter fun entry => entry.ownerUserId.isNone) ∧
      left.mcpServers.filter (visibleTo userId) = right.mcpServers.filter (visibleTo userId))
    ⟨fun ⟨routes, policies, profiles, platform, own⟩ =>
        { routes, policies, profiles, platform, own },
      fun agree => ⟨agree.routes, agree.policies, agree.profiles, agree.platform, agree.own⟩⟩

variable (catalog : CapabilityCatalog)

def ownReferences (userId : String) : List String :=
  (catalog.mcpServers.filter (visibleTo userId)).map McpCapability.reference

def ownedByOther (userId reference : String) : Bool :=
  catalog.mcpServers.any fun entry =>
    entry.reference = reference && entry.ownerUserId.isSome && !visibleTo userId entry

def Exposed (userId reference : String) : Prop :=
  reference ∉ platformMcpReferences catalog ∧ reference ∉ ownReferences catalog userId

def SameTaken (userId : String) (left right : CapabilityCatalog) : Prop :=
  ∀ profile ∈ left.executionProfiles, ∀ reference ∈ profile.allowedMcpReferences,
    Exposed left userId reference →
      ownedByOther left userId reference = ownedByOther right userId reference

theorem personalReferences_mem {catalog : CapabilityCatalog} {userId reference : String} :
  reference ∈ personalReferences catalog ↔
    reference ∈ ownReferences catalog userId ∨ ownedByOther catalog userId reference = true := by
  simp only [personalReferences, ownReferences, ownedByOther, mem_map, mem_filter,
    any_eq_true, and_eq_true, decide_eq_true_eq, not_eq_true']
  constructor
  · intro ⟨entry, ⟨member, personal⟩, named⟩
    cases seen : visibleTo userId entry with
    | true => exact .inl ⟨entry, ⟨member, seen⟩, named⟩
    | false => exact .inr ⟨entry, member, ⟨named, personal⟩, seen⟩
  intro taken
  cases taken with
  | inl own =>
    obtain ⟨entry, ⟨member, seen⟩, named⟩ := own
    have owner : entry.ownerUserId = some userId := of_decide_eq_true seen
    exact ⟨entry, ⟨member, by rw [owner]; rfl⟩, named⟩
  | inr other =>
    obtain ⟨entry, member, ⟨named, personal⟩, _⟩ := other
    exact ⟨entry, ⟨member, personal⟩, named⟩

theorem ownReferences_of_profile {catalog : CapabilityCatalog} {userId profileId reference : String}
  (offered : reference ∈
    personalByProfile (catalog.mcpServers.filter (visibleTo userId)) profileId) :
  reference ∈ ownReferences catalog userId := by
  obtain ⟨entry, visible, listed⟩ := mem_flatMap.mp offered
  obtain ⟨_, _, rfl⟩ := mem_map.mp listed
  exact mem_map_of_mem visible

theorem profileForUser_exposed {catalog : CapabilityCatalog} {userId reference : String}
  {profile : ExecutionProfileMetadata} (named : reference ∈ profile.allowedMcpReferences)
  (exposed : Exposed catalog userId reference) :
  reference ∈ (profileForUser catalog userId profile).allowedMcpReferences ↔
    ownedByOther catalog userId reference = false := by
  simp only [profileForUser, mem_eraseDups, mem_append, mem_filter, decide_eq_true_eq]
  constructor
  · intro offered
    cases offered with
    | inl kept =>
      by_contra taken
      exact kept.2.1 (personalReferences_mem.mpr (.inr (of_not_eq_false taken)))
    | inr own => exact absurd (ownReferences_of_profile own) exposed.2
  intro free
  refine .inl ⟨named, fun personal => ?_, exposed.1⟩
  cases personalReferences_mem.mp personal with
  | inl own => exact exposed.2 own
  | inr other => exact false_ne_true (free.symm.trans other)

section

variable {userId : String} {left right : CapabilityCatalog} {reference : String}

theorem exposed_agree (agree : AgreeFor userId left right) :
  Exposed left userId reference ↔ Exposed right userId reference := by
  simp [Exposed, platformMcpReferences, ownReferences, agree.platform, agree.own]

variable {profile : ExecutionProfileMetadata}

theorem hidden_agree (agree : AgreeFor userId left right) (same : SameTaken userId left right)
  (member : profile ∈ left.executionProfiles) (named : reference ∈ profile.allowedMcpReferences) :
  (reference ∉ personalReferences left ∧ reference ∉ platformMcpReferences left) ↔
    reference ∉ personalReferences right ∧ reference ∉ platformMcpReferences right := by
  have platform : platformMcpReferences left = platformMcpReferences right := by
    rw [platformMcpReferences, agree.platform, ← platformMcpReferences]
  have own : ownReferences left userId = ownReferences right userId := by
    rw [ownReferences, agree.own, ← ownReferences]
  have leftTaken := @personalReferences_mem left userId reference
  have rightTaken := @personalReferences_mem right userId reference
  rw [leftTaken, rightTaken, platform, own]
  by_cases exposed : Exposed left userId reference
  · rw [same profile member reference named exposed]
  have covered : reference ∈ platformMcpReferences right ∨
    reference ∈ ownReferences right userId := by
    rw [exposed_agree agree] at exposed
    by_contra neither
    exact exposed (not_or.mp neither)
  cases covered with
  | inl platformEntry => simp [platformEntry]
  | inr ownEntry => simp [ownEntry]

theorem profileForUser_agree (agree : AgreeFor userId left right)
  (same : SameTaken userId left right) (member : profile ∈ left.executionProfiles) :
  profileForUser left userId profile = profileForUser right userId profile := by
  have kept :
    (profile.allowedMcpReferences.filter fun reference =>
        decide (reference ∉ personalReferences left ∧ reference ∉ platformMcpReferences left)) =
      profile.allowedMcpReferences.filter fun reference =>
        decide (reference ∉ personalReferences right ∧
          reference ∉ platformMcpReferences right) := by
    apply filter_congr
    intro reference named
    exact decide_eq_decide.mpr (hidden_agree agree same member named)
  rw [profileForUser, profileForUser, kept, agree.own]

/-- The view depends on other users exactly through the exposed references they take. -/
theorem catalogForUser_agree_iff (agree : AgreeFor userId left right) :
  catalogForUser left userId = catalogForUser right userId ↔ SameTaken userId left right := by
  constructor
  · intro equal profile member reference named exposed
    have mapped : left.executionProfiles.map (profileForUser left userId) =
      left.executionProfiles.map (profileForUser right userId) := by
      have profiles := congrArg CapabilityCatalog.executionProfiles equal
      simp only [catalogForUser, ← agree.profiles] at profiles
      exact profiles
    have view := map_inj_left.mp mapped profile member
    have offered : ownedByOther left userId reference = false ↔
      ownedByOther right userId reference = false := by
      rw [← profileForUser_exposed named exposed,
        ← profileForUser_exposed named ((exposed_agree agree).mp exposed), view]
    cases other : ownedByOther right userId reference with
    | false => exact offered.mpr other
    | true =>
      by_contra free
      have taken := offered.mp (eq_false_of_not_eq_true free)
      exact false_ne_true (taken.symm.trans other)
  intro same
  have profiles : left.executionProfiles.map (profileForUser left userId) =
    right.executionProfiles.map (profileForUser right userId) := by
    rw [← agree.profiles]
    exact map_congr_left fun profile member => profileForUser_agree agree same member
  rw [catalogForUser, catalogForUser, profiles, agree.own, agree.routes, agree.policies]

end

def searchProfile : ExecutionProfileMetadata where
  profileId := "isolated-default"
  label := "Isolated"
  networkAccess := [.external]
  allowedMcpReferences := ["team-search"]

def searchCatalog (servers : List McpCapability) : CapabilityCatalog where
  modelRoutes := defaultModelRoutes
  mcpServers := servers
  policies := defaultPolicies
  executionProfiles := [searchProfile]

def bobsSearch : McpCapability where
  reference := "team-search"
  ownerUserId := some "bob"
  label := "Search"
  tools := ["mcp__search__query"]
  networkAccess := .external

def bobsNotes : McpCapability := { bobsSearch with reference := "notes" }

theorem catalogForUser_agree_iff_plain :
  catalogForUser (searchCatalog []) "alice" = catalogForUser (searchCatalog [bobsNotes]) "alice" ↔
    SameTaken "alice" (searchCatalog []) (searchCatalog [bobsNotes]) :=
  catalogForUser_agree_iff (by decide +kernel)

/-- An entry of one user takes a reference out of the profile that another user is offered. -/
theorem bobsSearch_hidden : ¬ ∀ (userId : String) (left right : CapabilityCatalog),
  uniqueManagedIds left = .ok () → uniqueManagedIds right = .ok () →
  AgreeFor userId left right → catalogForUser left userId = catalogForUser right userId := by
  intro same
  have equal := same "alice" (searchCatalog []) (searchCatalog [bobsSearch])
    (by decide +kernel) (by decide +kernel) (by decide +kernel)
  revert equal
  decide +kernel

end AgentHarness.Studio
