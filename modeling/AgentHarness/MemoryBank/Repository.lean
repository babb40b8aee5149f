import AgentHarness.Collections.Dict

/-!
Memory entries, the consent they rest on and how long they are kept.

Instants are integers (microseconds in UTC).
-/

namespace AgentHarness.MemoryBank

inductive MemoryStatus where
  | pending
  | active
  | rejected
  | deleted
  | expired
  deriving DecidableEq

inductive MemorySensitivity where
  | personal
  | sensitive
  | prohibited
  deriving DecidableEq

inductive MemorySourceKind where
  | user
  | agent
  | import_
  deriving DecidableEq

inductive ConsentMode where
  | perEntry
  | agentPolicy

inductive MemoryError where
  | conflict (message : String)
  | notFound (message : String)
  | validation (field : String)
  | unavailable

structure MemorySource where
  sourceId : String
  kind : MemorySourceKind
  label : String
  runId : Option String := none
  sessionId : Option String := none
  capturedAt : Int
  deriving DecidableEq

structure AgentKey where
  (tenantId userId agentName : String)
  deriving DecidableEq

structure EntryKey where
  (tenantId userId entryId : String)
  deriving DecidableEq

structure MemoryConsent where
  agent : AgentKey
  consentId : String
  mode : ConsentMode
  allowAgentPersonal : Bool
  version : Nat
  (createdAt updatedAt : Int)
  revokedAt : Option Int := none

def MemoryConsent.active (consent : MemoryConsent) : Bool := consent.revokedAt.isNone

def MemoryConsent.inForce (consent : MemoryConsent) : Bool :=
  consent.active && consent.allowAgentPersonal

structure MemoryRetention where
  agent : AgentKey
  defaultDays : Nat := 180
  maxDays : Nat := 365
  version : Nat := 1
  updatedAt : Int

structure MemoryEntry where
  (tenantId userId agentName entryId content contentHash : String)
  sensitivity : MemorySensitivity
  status : MemoryStatus
  version : Nat
  confidence : Rat
  source : MemorySource
  consentId : Option String := none
  (createdAt updatedAt : Int)
  expiresAt : Option Int := none
  deletedAt : Option Int := none
  deriving DecidableEq

variable (entry : MemoryEntry)

def MemoryEntry.key : EntryKey where
  tenantId := entry.tenantId
  userId := entry.userId
  entryId := entry.entryId

def MemoryEntry.agent : AgentKey where
  tenantId := entry.tenantId
  userId := entry.userId
  agentName := entry.agentName

def MemoryStatus.removed : MemoryStatus → Bool
  | .rejected | .deleted | .expired => true
  | .pending | .active => false

def validateEntry : Except MemoryError MemoryEntry :=
  if entry.confidence < 0 ∨ 1 < entry.confidence then .error (.validation "confidence")
  else .ok entry

def validateRetention (retention : MemoryRetention) : Except MemoryError MemoryRetention :=
  if retention.defaultDays < 1 ∨ 3650 < retention.defaultDays then
    .error (.validation "defaultDays")
  else if retention.maxDays < 1 ∨ 3650 < retention.maxDays then .error (.validation "maxDays")
  else .ok retention

/-- `timedelta(days=days)`. -/
def days (count : Nat) : Int := (count : Int) * 86400000000

open Collections

structure InMemoryMemoryBankRepository where
  entries : Dict EntryKey MemoryEntry := Dict.empty
  consents : Dict AgentKey MemoryConsent := Dict.empty
  retentions : Dict AgentKey MemoryRetention := Dict.empty

namespace InMemoryMemoryBankRepository

variable (repository : InMemoryMemoryBankRepository)

def addEntry (entry : MemoryEntry) : Except MemoryError Unit × InMemoryMemoryBankRepository :=
  match repository.entries.get? entry.key with
  | some _ => (.error (.conflict ("memory entry already exists: " ++ entry.entryId)), repository)
  | none => (.ok (), { repository with entries := repository.entries.set entry.key entry })

def getEntry (key : EntryKey) : Except MemoryError MemoryEntry :=
  match repository.entries.get? key with
  | some entry => .ok entry
  | none => .error (.notFound ("memory entry not found: " ++ key.entryId))

def compareAndSetEntry (expectedVersion : Nat) (updated : MemoryEntry) :
  Except MemoryError Bool × InMemoryMemoryBankRepository :=
  if updated.version ≠ expectedVersion + 1 then
    (.error (.conflict "memory entry version must increment by one"), repository)
  else
    match repository.entries.get? updated.key with
    | none => (.error (.notFound ("memory entry not found: " ++ updated.entryId)), repository)
    | some current =>
      if current.version ≠ expectedVersion then (.ok false, repository)
      else
        (.ok true, { repository with entries := repository.entries.set updated.key updated })

def listExpired (now : Int) (limit : Nat) : List MemoryEntry :=
  let values := repository.entries.values.filter (fun entry =>
    entry.status = .active && entry.expiresAt.any fun expiresAt => expiresAt ≤ now)
  (values.mergeSort (fun first second =>
    first.expiresAt.getD 0 ≤ second.expiresAt.getD 0)).take limit

def getConsent (agent : AgentKey) : Option MemoryConsent := repository.consents.get? agent

/-- The version that replaces the stored one, `none` where there is none. -/
def replaces (stored : Option Nat) (expectedVersion version : Nat) : Bool :=
  match stored with
  | none => expectedVersion = 0 && version = 1
  | some current => current = expectedVersion && version = expectedVersion + 1

def putConsent (expectedVersion : Nat) (consent : MemoryConsent) :
  Bool × InMemoryMemoryBankRepository :=
  if replaces ((repository.consents.get? consent.agent).map MemoryConsent.version)
      expectedVersion consent.version then
    (true, { repository with consents := repository.consents.set consent.agent consent })
  else (false, repository)

def getRetention (agent : AgentKey) : Option MemoryRetention := repository.retentions.get? agent

def putRetention (expectedVersion : Nat) (retention : MemoryRetention) :
  Bool × InMemoryMemoryBankRepository :=
  if replaces ((repository.retentions.get? retention.agent).map MemoryRetention.version)
      expectedVersion retention.version then
    (true, { repository with retentions := repository.retentions.set retention.agent retention })
  else (false, repository)

end InMemoryMemoryBankRepository

end AgentHarness.MemoryBank
