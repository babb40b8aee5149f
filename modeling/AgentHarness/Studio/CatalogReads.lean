import AgentHarness.Studio.CatalogUpkeep

/-!
What a read leaves of an accepted catalog.
-/

namespace AgentHarness.Studio

open Interaction.Fallible CatalogRepository CatalogState

def CatalogState.current (tenantId : String) (state : CatalogState) : CapabilityCatalogRecord :=
  state.row.getD (seedRecord tenantId)

def CatalogState.afterRead (tenantId : String) (state : CatalogState) : CapabilityCatalogRecord :=
  (migrated tenantId state.drafts (state.current tenantId)).getD (state.current tenantId)

def Accepted (state : CatalogState) : Prop :=
  ∀ record ∈ state.row, uniqueManagedIds record.catalog = .ok ()

instance (state : CatalogState) : Decidable (Accepted state) :=
  inferInstanceAs (Decidable (∀ record ∈ state.row, _))

section

variable {tenantId : String} {state : CatalogState}

theorem current_unique (accepted : Accepted state) : UniqueIds (state.current tenantId).catalog := by
  cases stored : state.row with
  | none =>
    rw [CatalogState.current, stored]
    have valid : uniqueManagedIds defaultCapabilityCatalog = .ok () := by decide +kernel
    exact uniqueManagedIds_ok.mp valid
  | some record =>
    rw [CatalogState.current, stored]
    exact uniqueManagedIds_ok.mp (accepted record stored)

theorem seed_accepted (accepted : Accepted state) : seed (seedRecord tenantId) state =
  (.ok (state.current tenantId), { state with row := some (state.current tenantId) }) := by
  cases state with
  | mk row drafts =>
    cases row with
    | none => rfl
    | some record =>
      have valid : uniqueManagedIds record.catalog = .ok () := accepted record rfl
      simp [seed, CatalogRepository.get, validated, valid, CatalogState.current]

variable {current : CapabilityCatalogRecord} {drafts : List AgentDraft}
  {upgraded : CapabilityCatalogRecord}

theorem migrated_revision (found : migrated tenantId drafts current = some upgraded) :
  upgraded.revision = current.revision + 1 := by
  obtain ⟨catalog, _, changed⟩ := Option.bind_eq_some_iff.mp found
  split at changed
  · cases changed
  rw [← Option.some.inj changed]

theorem get_accepted (accepted : Accepted state) : CapabilityCatalogService.get tenantId state =
  (.ok (state.afterRead tenantId), { state with row := some (state.afterRead tenantId) }) := by
  rw [CapabilityCatalogService.get, bind_apply, seed_accepted accepted]
  dsimp only
  rw [bind_apply, read_apply]
  dsimp only
  cases found : migrated tenantId state.drafts (state.current tenantId) with
  | none =>
    rw [afterRead, found]
    rfl
  | some upgraded =>
    have raised := migrated_revision found
    simp [orReread, replace, afterRead, found, raised]

def upgradedBase (current : CapabilityCatalogRecord) : CapabilityCatalog :=
  if systemManaged current.updatedBy then upgradedCatalog current.catalog else current.catalog

theorem upgrade_getD (catalog : CapabilityCatalog) :
  (upgradeSystemManagedCatalog catalog).getD catalog = upgradedCatalog catalog := by
  unfold upgradeSystemManagedCatalog
  split
  case isTrue same => exact same.symm
  · rfl

theorem migration_catalog (drafts : List AgentDraft) (current : CapabilityCatalogRecord) :
  (migration drafts current).1.getD current.catalog =
    (scopeLegacyMcpCapabilities drafts (upgradedBase current)).getD (upgradedBase current) := by
  have base : (if systemManaged current.updatedBy then
      (upgradeSystemManagedCatalog current.catalog, "system-route-migration")
      else (none, current.updatedBy)).1.getD current.catalog = upgradedBase current := by
    unfold upgradedBase
    split
    · exact upgrade_getD current.catalog
    rfl
  unfold migration
  dsimp only
  rw [base]
  cases scopeLegacyMcpCapabilities drafts (upgradedBase current) with
  | some owned => rfl
  | none => exact base

theorem afterRead_catalog : (state.afterRead tenantId).catalog =
  (scopeLegacyMcpCapabilities state.drafts (upgradedBase (state.current tenantId))).getD
  (upgradedBase (state.current tenantId)) := by
  rw [← migration_catalog, afterRead, migrated]
  dsimp only
  cases (migration state.drafts (state.current tenantId)).1 with
  | none => rfl
  | some catalog =>
    rw [Option.bind_some]
    split
    case isTrue same => exact same
    · rfl

theorem upgradedBase_unique (unique : UniqueIds current.catalog) : UniqueIds (upgradedBase current) := by
  unfold upgradedBase
  split
  · exact upgradedCatalog_unique unique
  exact unique

theorem upgradedBase_scopable (scopable : Scopable drafts current.catalog) :
  Scopable drafts (upgradedBase current) := by
  unfold upgradedBase
  split
  · exact upgradedCatalog_scopable scopable
  exact scopable

theorem upgradedBase_keeps (current : CapabilityCatalogRecord) (userId : String) :
  (current.catalog.mcpServers.filter (visibleTo userId)).Sublist
    ((upgradedBase current).mcpServers.filter (visibleTo userId)) := by
  unfold upgradedBase
  split
  · exact upgradedCatalog_keeps current.catalog userId
  exact List.Sublist.refl _

theorem afterRead_scoped : Scoped (state.afterRead tenantId).catalog := by
  rw [afterRead_catalog]
  cases found : scopeLegacyMcpCapabilities state.drafts
    (upgradedBase (state.current tenantId)) with
  | some owned => exact scopeLegacy_scoped found
  | none => exact scopeLegacy_none.mp found

theorem afterRead_unique_iff (accepted : Accepted state) :
  UniqueIds (state.afterRead tenantId).catalog ↔
    Scopable state.drafts (upgradedBase (state.current tenantId)) := by
  have unique := upgradedBase_unique (@current_unique tenantId state accepted)
  rw [afterRead_catalog]
  cases found : scopeLegacyMcpCapabilities state.drafts
    (upgradedBase (state.current tenantId)) with
  | some owned => exact scopeLegacy_unique_iff unique found
  | none =>
    constructor
    · intro _ entry member legacy
      rw [scopeLegacy_none.mp found entry member] at legacy
      cases legacy
    exact fun _ => unique

theorem afterRead_settled (accepted : Accepted state)
  (scopable : Scopable state.drafts (state.current tenantId).catalog) :
  Settled (state.afterRead tenantId).catalog where
  unique := (afterRead_unique_iff accepted).mpr (upgradedBase_scopable scopable)
  owned := afterRead_scoped

theorem afterRead_keeps (userId : String) :
  ((state.current tenantId).catalog.mcpServers.filter (visibleTo userId)).Sublist
    ((state.afterRead tenantId).catalog.mcpServers.filter (visibleTo userId)) := by
  have base := upgradedBase_keeps (state.current tenantId) userId
  rw [afterRead_catalog]
  cases found : scopeLegacyMcpCapabilities state.drafts
    (upgradedBase (state.current tenantId)) with
  | some owned => exact base.trans (scopeLegacy_keeps found userId)
  | none => exact base

theorem migrated_none : migrated tenantId drafts current = none ↔
  (migration drafts current).1.getD current.catalog = current.catalog := by
  unfold migrated
  dsimp only
  cases (migration drafts current).1 with
  | none => simp
  | some catalog =>
    rw [Option.bind_some, Option.getD_some]
    split
    case isTrue same => exact ⟨fun _ => same.symm, fun _ => rfl⟩
    case isFalse differs => exact ⟨fun none => (nomatch none), fun same => absurd same.symm differs⟩

theorem migrated_scoped {drafts : List AgentDraft} {current : CapabilityCatalogRecord}
  (owned : Scoped current.catalog) :
  migrated tenantId drafts current = none ↔
    (systemManaged current.updatedBy = true → Upgraded current.catalog) := by
  have base : Scoped (upgradedBase current) := by
    unfold upgradedBase
    split
    · exact upgradedCatalog_scoped owned
    exact owned
  rw [migrated_none, migration_catalog, scopeLegacy_none.mpr base, Option.getD_none, upgradedBase]
  split
  case isTrue managed =>
    rw [upgradedCatalog_eq]
    exact ⟨fun upgraded _ => upgraded, fun upgraded => upgraded managed⟩
  case isFalse unmanaged => exact ⟨fun _ managed => absurd managed unmanaged, fun _ => rfl⟩

theorem migration_managed {catalog : CapabilityCatalog}
  (found : (migration drafts current).1 = some catalog) :
  systemManaged (migration drafts current).2 = true := by
  unfold migration at found ⊢
  dsimp only at found ⊢
  split at found
  · show systemManaged "system-user-resource-scope-migration" = true
    decide +kernel
  split at found
  case isTrue managed =>
    rw [if_pos managed]
    show systemManaged "system-route-migration" = true
    decide +kernel
  · cases found

theorem migrated_managed (found : migrated tenantId drafts current = some upgraded) :
  systemManaged upgraded.updatedBy = true := by
  obtain ⟨catalog, built, changed⟩ := Option.bind_eq_some_iff.mp found
  split at changed
  · cases changed
  rw [← Option.some.inj changed]
  exact migration_managed built

def ReadOnce (current : CapabilityCatalogRecord) : Prop :=
  systemManaged current.updatedBy = true ∨ Scoped current.catalog ∨ Upgraded current.catalog

theorem migrated_afterRead : migrated tenantId state.drafts (state.afterRead tenantId) = none ↔
  ReadOnce (state.current tenantId) := by
  rw [migrated_scoped afterRead_scoped]
  cases found : migrated tenantId state.drafts (state.current tenantId) with
  | none =>
    have same : state.afterRead tenantId = state.current tenantId := by
      rw [afterRead, found, Option.getD_none]
    have owned : Scoped (state.current tenantId).catalog := by
      rw [← same]
      exact afterRead_scoped
    rw [same]
    exact ⟨fun _ => .inr (.inl owned), fun _ => (migrated_scoped owned).mp found⟩
  | some upgraded =>
    have read : state.afterRead tenantId = upgraded := by
      rw [afterRead, found, Option.getD_some]
    have managed : systemManaged (state.afterRead tenantId).updatedBy = true := by
      rw [read]
      exact migrated_managed found
    have changed : ¬ (state.afterRead tenantId).catalog = (state.current tenantId).catalog := by
      intro same
      have kept : migrated tenantId state.drafts (state.current tenantId) = none := by
        rw [migrated_none, migration_catalog, ← afterRead_catalog]
        exact same
      rw [kept] at found
      cases found
    have complete : Upgraded (state.afterRead tenantId).catalog ↔
      Upgraded (upgradedBase (state.current tenantId)) := by
      rw [afterRead_catalog]
      cases scopes : scopeLegacyMcpCapabilities state.drafts
        (upgradedBase (state.current tenantId)) with
      | some owned => exact scopeLegacy_upgraded scopes
      | none => exact Iff.rfl
    rw [complete, forall_prop_of_true managed]
    by_cases system : systemManaged (state.current tenantId).updatedBy = true
    · rw [upgradedBase, if_pos system]
      exact ⟨fun _ => .inl system, fun _ => upgradedCatalog_upgraded _⟩
    have unscoped : ¬ Scoped (state.current tenantId).catalog := by
      intro owned
      have kept := (@migrated_scoped tenantId state.drafts _ owned).mpr
        fun managed' => absurd managed' system
      rw [kept] at found
      cases found
    rw [upgradedBase, if_neg system, ReadOnce]
    simp [system, unscoped]

end

end AgentHarness.Studio
