import AgentHarness.Collections.Dict
import AgentHarness.Core.Snapshots

/-!
The registry of agent versions and publication into it.
-/

namespace AgentHarness.Application

open Collections (Dict)
open Core (AgentManifestSnapshot)

inductive AgentVersionStatus
  | draft
  | validated
  | published
  | deprecated
  | archived
  deriving DecidableEq

structure AgentVersion where
  (tenantId ownerUserId name version : String)
  status : AgentVersionStatus
  manifestHash : String
  packageHash : Option String := none
  snapshot : AgentManifestSnapshot
  createdAt : Nat

/-- `ConflictError` and `NotFoundError` with their messages. -/
inductive RegistryError
  | conflict (message : String)
  | notFound (message : String)

structure VersionKey where
  (tenantId ownerUserId name version : String)
  deriving DecidableEq

def AgentVersion.key (version : AgentVersion) : VersionKey :=
  ⟨version.tenantId, version.ownerUserId, version.name, version.version⟩

abbrev AgentRegistry := Dict VersionKey AgentVersion

def AgentRegistry.add (registry : AgentRegistry) (version : AgentVersion) :
  Except RegistryError AgentRegistry :=
  match registry.get? version.key with
  | some _ =>
    .error (.conflict ("agent version already exists: " ++ version.name ++ "@" ++ version.version))
  | none => .ok (registry.set version.key version)

def AgentRegistry.get (registry : AgentRegistry) (key : VersionKey) :
  Except RegistryError AgentVersion :=
  match registry.get? key with
  | some version => .ok version
  | none => .error (.notFound ("agent version not found: " ++ key.name ++ "@" ++ key.version))

/-- One call of `_publish_snapshot`; a Bundle comes with the hash of its package. -/
structure Publication where
  (tenantId ownerUserId : String)
  snapshot : AgentManifestSnapshot
  packageHash : Option String := none
  now : Nat

def Publication.agentVersion (publication : Publication) : AgentVersion where
  tenantId := publication.tenantId
  ownerUserId := publication.ownerUserId
  name := publication.snapshot.manifest.metadata.name
  version := publication.snapshot.manifest.metadata.version
  status := .published
  manifestHash := publication.snapshot.contentHash
  packageHash := publication.packageHash
  snapshot := publication.snapshot
  createdAt := publication.now

def publishSnapshot (registry : AgentRegistry) (publication : Publication) :
  Except RegistryError AgentVersion × AgentRegistry :=
  let version := publication.agentVersion
  match registry.add version with
  | .ok registry => (.ok version, registry)
  | .error conflict =>
    match registry.get version.key with
    | .error error => (.error error, registry)
    | .ok existing =>
      if existing.manifestHash ≠ version.manifestHash ∨ (publication.packageHash ≠ none ∧
            existing.packageHash ≠ publication.packageHash) then
        (.error conflict, registry)
      else (.ok existing, registry)

def publishAll (registry : AgentRegistry) : List Publication → AgentRegistry
  | [] => registry
  | publication :: publications => publishAll (publishSnapshot registry publication).2 publications

def Publication.conflict (publication : Publication) : RegistryError :=
  .conflict ("agent version already exists: " ++ publication.snapshot.manifest.metadata.name ++
    "@" ++ publication.snapshot.manifest.metadata.version)

variable {publication : Publication} {registry : AgentRegistry} {existing : AgentVersion}

theorem publishSnapshot_fresh (fresh : registry.get? publication.agentVersion.key = none) :
  publishSnapshot registry publication = (.ok publication.agentVersion,
    registry.set publication.agentVersion.key publication.agentVersion) := by
  simp [publishSnapshot, AgentRegistry.add, fresh]

theorem publishSnapshot_taken (taken : registry.get? publication.agentVersion.key = some existing) :
  publishSnapshot registry publication =
    (if existing.manifestHash ≠ publication.snapshot.contentHash ∨ (publication.packageHash ≠ none ∧
          existing.packageHash ≠ publication.packageHash) then .error publication.conflict
      else .ok existing, registry) := by
  simp only [publishSnapshot, AgentRegistry.add, AgentRegistry.get, taken]
  split <;> rename_i differs
  case isTrue =>
      rw [if_pos (show existing.manifestHash ≠ publication.snapshot.contentHash ∨
        (publication.packageHash ≠ none ∧
          existing.packageHash ≠ publication.packageHash) from differs)]
      rfl
  case isFalse =>
      rw [if_neg (show ¬ (existing.manifestHash ≠ publication.snapshot.contentHash ∨
        (publication.packageHash ≠ none ∧
          existing.packageHash ≠ publication.packageHash)) from differs)]

theorem publishSnapshot_keeps {key : VersionKey} (stored : registry.get? key = some existing) :
  (publishSnapshot registry publication).2.get? key = some existing := by
  cases taken : registry.get? publication.agentVersion.key with
  | none =>
    rw [publishSnapshot_fresh taken]
    have other : publication.agentVersion.key ≠ key := by
      rintro rfl
      rw [taken] at stored
      cases stored
    exact (Dict.get?_set_other _ _ other.symm).trans stored
  | some version =>
    rw [publishSnapshot_taken taken]
    exact stored

theorem publishAll_keeps {key : VersionKey} (publications : List Publication)
  (stored : registry.get? key = some existing) :
  (publishAll registry publications).get? key = some existing := by
  induction publications generalizing registry with
  | nil => exact stored
  | cons publication publications ih => exact ih (publishSnapshot_keeps stored)

theorem publishSnapshot_stores {registry : AgentRegistry} {publication : Publication}
  {version : AgentVersion}
  (accepted : (publishSnapshot registry publication).1 = .ok version) :
  (publishSnapshot registry publication).2.get? publication.agentVersion.key = some version ∧
    version.manifestHash = publication.snapshot.contentHash ∧
    (publication.packageHash ≠ none → version.packageHash = publication.packageHash) := by
  cases taken : registry.get? publication.agentVersion.key with
  | none =>
    rw [publishSnapshot_fresh taken] at accepted ⊢
    cases accepted
    exact ⟨by simp only [Dict.get?_set, if_true], rfl, fun _ => rfl⟩
  | some existing =>
    rw [publishSnapshot_taken taken] at accepted ⊢
    split at accepted
    · cases accepted
    case isFalse agrees =>
        cases accepted
        rw [not_or, not_not, not_and, not_not] at agrees
        exact ⟨taken, agrees⟩

end AgentHarness.Application
