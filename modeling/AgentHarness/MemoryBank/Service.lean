import AgentHarness.Interaction.Pool
import AgentHarness.MemoryBank.Repository

/-!
The memory bank service over its repository.

Every call awaits the repository several times, so the calls of the API, of running agents
and of the reaper interleave at each of these points.
-/

namespace AgentHarness.MemoryBank

open Interaction

abbrev AuditDetails := List (String × String)

inductive MemoryOp where
  | clock
  | generateId (kind : String)
  | addEntry (entry : MemoryEntry)
  | getEntry (key : EntryKey)
  | compareAndSetEntry (expectedVersion : Nat) (updated : MemoryEntry)
  | listExpired (now : Int) (limit : Nat)
  | getConsent (agent : AgentKey)
  | putConsent (expectedVersion : Nat) (consent : MemoryConsent)
  | getRetention (agent : AgentKey)
  | putRetention (expectedVersion : Nat) (retention : MemoryRetention)
  | record (tenantId userId action : String) (resourceId : Option String) (outcome : String)
      (details : AuditDetails)

namespace MemoryOp

abbrev Answer : MemoryOp → Type
  | clock => Int
  | generateId _ => String
  | addEntry _ => Unit
  | getEntry _ => MemoryEntry
  | compareAndSetEntry _ _ => Bool
  | listExpired _ _ => List MemoryEntry
  | getConsent _ => Option MemoryConsent
  | putConsent _ _ => Bool
  | getRetention _ => Option MemoryRetention
  | putRetention _ _ => Bool
  | record _ _ _ _ _ _ => Unit

end MemoryOp

abbrev MemoryProgram (α : Type) := Program MemoryOp MemoryOp.Answer MemoryError α

namespace MemoryOp

abbrev ask (op : MemoryOp) : MemoryProgram op.Answer := Program.perform op fun answer => answer

def ensure {α : Type} (outcome : Except MemoryError α) : MemoryProgram α :=
  match outcome with
  | .ok value => .done value
  | .error error => .raised error

def refuse (refused : Prop) [Decidable refused] (message : String) : MemoryProgram Unit :=
  if refused then .raised (.conflict message) else .done ()

end MemoryOp

def MemorySourceKind.value : MemorySourceKind → String
  | .user => "user"
  | .agent => "agent"
  | .import_ => "import"

def MemorySensitivity.value : MemorySensitivity → String
  | .personal => "personal"
  | .sensitive => "sensitive"
  | .prohibited => "prohibited"

/-- `str` of a `bool`. -/
def boolText (value : Bool) : String := if value then "True" else "False"

/-- What the service is composed with; `normalizeMemoryContent`, `classifyMemory` and
`sha256` are the functions of those names. -/
structure MemoryBankService where
  normalizeMemoryContent : String → String
  classifyMemory : String → MemorySensitivity
  sha256 : String → String
  audits : Bool := true
  defaultRetentionDays : Nat := 180

structure ProposeRequest where
  agent : AgentKey
  content : String
  sourceKind : MemorySourceKind
  sourceLabel : String
  confidence : Rat
  runId : Option String := none
  sessionId : Option String := none

namespace MemoryBankService

open Program MemoryOp

variable (service : MemoryBankService)

/-- `_record`. -/
def recordAction (tenantId userId action : String) (resourceId : Option String)
  (outcome : String) (details : AuditDetails) : MemoryProgram Unit :=
  if service.audits then ask (.record tenantId userId action resourceId outcome details)
  else done ()

variable (agent : AgentKey)

def retention : MemoryProgram MemoryRetention := do
  match ← ask (.getRetention agent) with
  | some stored => done stored
  | none =>
    let now ← ask .clock
    ensure (validateRetention
      { agent, defaultDays := service.defaultRetentionDays, updatedAt := now })

def autoActivates (sourceKind : MemorySourceKind) (sensitivity : MemorySensitivity)
  (consent : Option MemoryConsent) : Bool :=
  sourceKind = .agent && sensitivity = .personal && consent.any MemoryConsent.inForce

def proposedEntry (request : ProposeRequest) (normalized : String)
  (sensitivity : MemorySensitivity) (consent : Option MemoryConsent)
  (retention : MemoryRetention) (now : Int) (entryId sourceId : String) : MemoryEntry :=
  let autoActivate := autoActivates request.sourceKind sensitivity consent
  { tenantId := request.agent.tenantId, userId := request.agent.userId
    agentName := request.agent.agentName, entryId, content := normalized
    contentHash := service.sha256 normalized, sensitivity
    status := if autoActivate then .active else .pending
    version := 1, confidence := request.confidence
    source :=
      { sourceId, kind := request.sourceKind
        label := String.ofList (request.sourceLabel.toList.take 200), runId := request.runId
        sessionId := request.sessionId, capturedAt := now }
    consentId := if autoActivate then consent.map MemoryConsent.consentId else none
    createdAt := now
    updatedAt := now
    expiresAt := if autoActivate then some (now + days retention.defaultDays) else none }

def propose (request : ProposeRequest) : MemoryProgram MemoryEntry := do
  let normalized := service.normalizeMemoryContent request.content
  refuse (normalized = "") "memory content must be non-empty"
  let sensitivity := service.classifyMemory normalized
  if sensitivity = .prohibited then
    service.recordAction request.agent.tenantId request.agent.userId "memory.propose" none "denied"
      [("agent_name", request.agent.agentName), ("reason", "prohibited_content")]
    raised (.conflict "memory content is prohibited by the safety classifier")
  else
    let now ← ask .clock
    let consent ← ask (.getConsent request.agent)
    let retention ← service.retention request.agent
    let entryId ← ask (.generateId "memory")
    let sourceId ← ask (.generateId "memory_source")
    let entry ← ensure (validateEntry (service.proposedEntry request normalized sensitivity
      consent retention now entryId sourceId))
    ask (.addEntry entry)
    service.recordAction request.agent.tenantId request.agent.userId "memory.propose"
      (some entry.entryId) "success"
      [("agent_name", request.agent.agentName), ("source_kind", request.sourceKind.value),
        ("sensitivity", sensitivity.value),
        ("auto_activated", boolText (autoActivates request.sourceKind sensitivity consent))]
    done entry

variable (current : MemoryEntry)

def storeEntry (updated : MemoryEntry) (changed action : String) (details : AuditDetails) :
  MemoryProgram MemoryEntry := do
  let stored ← ask (.compareAndSetEntry current.version updated)
  refuse (stored = false) changed
  service.recordAction current.tenantId current.userId action (some current.entryId) "success"
    details
  done updated

def confirmedEntry (retention : MemoryRetention) (now : Int) (consentId : String) : MemoryEntry :=
  { current with
    status := .active, version := current.version + 1, consentId := some consentId, updatedAt := now
    expiresAt := some (now + days retention.defaultDays) }

def confirm (key : EntryKey) (expectedVersion : Nat) : MemoryProgram MemoryEntry := do
  let current ← ask (.getEntry key)
  refuse (current.version ≠ expectedVersion ∨ current.status ≠ .pending)
    "memory entry changed or is not pending"
  let now ← ask .clock
  let retention ← service.retention current.agent
  let consentId ← ask (.generateId "memory_consent")
  service.storeEntry current (confirmedEntry current retention now consentId)
    "memory entry changed while confirmation was applied" "memory.confirm"
    [("consent_id", consentId), ("agent_name", current.agentName)]

def clearedEntry (status : MemoryStatus) (content : String) (updatedAt deletedAt : Int) :
  MemoryEntry :=
  { current with
    content, contentHash := service.sha256 "", status, version := current.version + 1, updatedAt
    deletedAt := some deletedAt }

/-- `_terminal_update` as `reject` calls it. -/
def reject (key : EntryKey) (expectedVersion : Nat) : MemoryProgram MemoryEntry := do
  let current ← ask (.getEntry key)
  refuse (current.version ≠ expectedVersion ∨ current.status ≠ .pending)
    "memory entry changed or is not pending"
  let updatedAt ← ask .clock
  let deletedAt ← ask .clock
  service.storeEntry current
    (service.clearedEntry current .rejected "[REJECTED]" updatedAt deletedAt)
    "memory entry changed while rejection was applied" "memory.reject"
    [("agent_name", current.agentName)]

def updatedEntry (normalized : String) (sensitivity : MemorySensitivity) (confidence : Option Rat)
  (now : Int) : MemoryEntry :=
  { current with
    content := normalized, contentHash := service.sha256 normalized, sensitivity
    confidence := confidence.getD current.confidence, version := current.version + 1
    updatedAt := now }

def update (key : EntryKey) (expectedVersion : Nat) (content : String)
  (confidence : Option Rat) : MemoryProgram MemoryEntry := do
  let current ← ask (.getEntry key)
  refuse (current.version ≠ expectedVersion ∨ current.status ≠ .pending ∧ current.status ≠ .active)
    "memory entry changed or is not editable"
  let normalized := service.normalizeMemoryContent content
  let sensitivity := service.classifyMemory normalized
  refuse (normalized = "" ∨ sensitivity = .prohibited) "memory content is empty or prohibited"
  let now ← ask .clock
  service.storeEntry current (service.updatedEntry current normalized sensitivity confidence now)
    "memory entry changed while edit was applied" "memory.update"
    [("agent_name", current.agentName), ("sensitivity", sensitivity.value)]

def deletedEntry (now : Int) : MemoryEntry :=
  { service.clearedEntry current .deleted "[DELETED]" now now with
    expiresAt := none, consentId := none }

def delete (key : EntryKey) (expectedVersion : Nat) : MemoryProgram MemoryEntry := do
  let current ← ask (.getEntry key)
  refuse (current.version ≠ expectedVersion ∨ current.status = .deleted ∨ current.status = .expired)
    "memory entry changed or is already removed"
  let now ← ask .clock
  service.storeEntry current (service.deletedEntry current now)
    "memory entry changed while deletion was applied" "memory.delete"
    [("agent_name", current.agentName)]

def replacedConsent (current : Option MemoryConsent) (expectedVersion : Nat)
  (allowAgentPersonal : Bool) (now : Int) (consentId : String) : MemoryConsent where
  agent
  consentId := (current.map MemoryConsent.consentId).getD consentId
  mode := .agentPolicy
  allowAgentPersonal
  version := expectedVersion + 1
  createdAt := (current.map MemoryConsent.createdAt).getD now
  updatedAt := now
  revokedAt := if allowAgentPersonal then none else some now

def consentIdFor (current : Option MemoryConsent) : MemoryProgram String :=
  match current with
  | some consent => done consent.consentId
  | none => ask (.generateId "memory_consent")

def replaceConsent (expectedVersion : Nat) (allowAgentPersonal : Bool) :
  MemoryProgram MemoryConsent := do
  let current ← ask (.getConsent agent)
  refuse ((current.map MemoryConsent.version).getD 0 ≠ expectedVersion)
    "memory consent version conflict"
  let now ← ask .clock
  let consentId ← consentIdFor current
  let consent := replacedConsent agent current expectedVersion allowAgentPersonal now consentId
  let stored ← ask (.putConsent expectedVersion consent)
  refuse (stored = false) "memory consent changed while update was applied"
  service.recordAction agent.tenantId agent.userId "memory.consent.replace"
    (some consent.consentId) "success"
    [("agent_name", agent.agentName), ("allow_agent_personal", boolText allowAgentPersonal)]
  done consent

def replaceRetention (expectedVersion defaultDays maxDays : Nat) :
  MemoryProgram MemoryRetention := do
  refuse (maxDays < defaultDays) "default retention cannot exceed maximum retention"
  let current ← ask (.getRetention agent)
  refuse ((current.map MemoryRetention.version).getD 0 ≠ expectedVersion)
    "memory retention version conflict"
  let now ← ask .clock
  let retention ← ensure (validateRetention
    { agent, defaultDays, maxDays, version := expectedVersion + 1, updatedAt := now })
  let stored ← ask (.putRetention expectedVersion retention)
  refuse (stored = false) "memory retention changed while update was applied"
  done retention

def expiredEntry (now : Int) : MemoryEntry :=
  { service.clearedEntry current .expired "[EXPIRED]" now now with consentId := none }

def expireEach (now : Int) : List MemoryEntry → Nat → MemoryProgram Nat
  | [], count => done count
  | current :: rest, count => do
      let stored ← ask (.compareAndSetEntry current.version (service.expiredEntry current now))
      expireEach now rest (if stored then count + 1 else count)

def reapExpired (limit : Nat) : MemoryProgram Nat := do
  let now ← ask .clock
  let expired ← ask (.listExpired now limit)
  service.expireEach now expired 0

end MemoryBankService

inductive MemoryRequest where
  | propose (request : ProposeRequest)
  | confirm (key : EntryKey) (expectedVersion : Nat)
  | reject (key : EntryKey) (expectedVersion : Nat)
  | update (key : EntryKey) (expectedVersion : Nat) (content : String) (confidence : Option Rat)
  | delete (key : EntryKey) (expectedVersion : Nat)
  | replaceConsent (agent : AgentKey) (expectedVersion : Nat) (allowAgentPersonal : Bool)
  | replaceRetention (agent : AgentKey) (expectedVersion defaultDays maxDays : Nat)
  | reapExpired (limit : Nat)

namespace MemoryBankService

open Program

def serve (service : MemoryBankService) : MemoryRequest → MemoryProgram Unit
  | .propose request => (service.propose request).bind fun _ => done ()
  | .confirm key expectedVersion => (service.confirm key expectedVersion).bind fun _ => done ()
  | .reject key expectedVersion => (service.reject key expectedVersion).bind fun _ => done ()
  | .update key expectedVersion content confidence =>
    (service.update key expectedVersion content confidence).bind fun _ => done ()
  | .delete key expectedVersion => (service.delete key expectedVersion).bind fun _ => done ()
  | .replaceConsent agent expectedVersion allowAgentPersonal =>
    (service.replaceConsent agent expectedVersion allowAgentPersonal).bind fun _ => done ()
  | .replaceRetention agent expectedVersion defaultDays maxDays =>
    (replaceRetention agent expectedVersion defaultDays maxDays).bind fun _ => done ()
  | .reapExpired limit => (service.reapExpired limit).bind fun _ => done ()

end MemoryBankService

/-!
Any number of calls of the memory bank service over one repository.

The state also keeps a history that nobody can read: which consent each caller has read, and
for every stored version of an entry who stored it and under which consent.
-/

open Interaction

structure StoredVersion where
  actor : Nat
  entry : MemoryEntry
  consent : Option MemoryConsent

structure Bank where
  repository : InMemoryMemoryBankRepository := {}
  generated : Nat := 0
  consulted : Nat → Option MemoryConsent := fun _ => none
  history : List StoredVersion := []

structure MemoryPlatform where
  generatedId : String → Nat → String

inductive MemoryFault where
  | none
  | before
  | after

/-- The clock, and an outage that strikes before a call takes effect or after it. -/
structure MemoryInput where
  now : Int := 0
  fault : MemoryFault := .none

namespace Bank

def consult (bank : Bank) (actor : Nat) (consent : Option MemoryConsent) : Bank :=
  { bank with consulted := Function.update bank.consulted actor consent }

def written (bank : Bank) (actor : Nat) (entry : MemoryEntry)
  (repository : InMemoryMemoryBankRepository) : Bank :=
  { bank with
    repository
    history :=
      bank.history ++ [{ actor, entry, consent := bank.repository.getConsent entry.agent }] }

end Bank

namespace MemoryOp

def isLocal : MemoryOp → Bool
  | clock | generateId _ => true
  | _ => false

end MemoryOp

namespace MemoryPlatform

variable (platform : MemoryPlatform)

def answer (actor : Nat) (input : MemoryInput) (bank : Bank) :
    (op : MemoryOp) → Except MemoryError op.Answer × Bank
  | .clock => (.ok input.now, bank)
  | .generateId kind =>
    (.ok (platform.generatedId kind bank.generated), { bank with generated := bank.generated + 1 })
  | .addEntry entry =>
    match bank.repository.addEntry entry with
    | (.ok (), repository) => (.ok (), bank.written actor entry repository)
    | (.error error, _) => (.error error, bank)
  | .getEntry key => (bank.repository.getEntry key, bank)
  | .compareAndSetEntry expectedVersion updated =>
    match bank.repository.compareAndSetEntry expectedVersion updated with
    | (.ok true, repository) => (.ok true, bank.written actor updated repository)
    | (reply, _) => (reply, bank)
  | .listExpired now limit => (.ok (bank.repository.listExpired now limit), bank)
  | .getConsent agent =>
    (.ok (bank.repository.getConsent agent), bank.consult actor (bank.repository.getConsent agent))
  | .putConsent expectedVersion consent =>
    let reply := bank.repository.putConsent expectedVersion consent
    (.ok reply.1, { bank with repository := reply.2 })
  | .getRetention agent => (.ok (bank.repository.getRetention agent), bank)
  | .putRetention expectedVersion retention =>
    let reply := bank.repository.putRetention expectedVersion retention
    (.ok reply.1, { bank with repository := reply.2 })
  | .record _ _ _ _ _ _ => (.ok (), bank)

def respond (actor : Nat) (input : MemoryInput) (bank : Bank) (op : MemoryOp) :
  Except MemoryError op.Answer × Bank :=
  let reply := platform.answer actor input bank op
  if op.isLocal then reply
  else
    match input.fault with
    | .none => reply
    | .before => (.error .unavailable, bank)
    | .after => (.error .unavailable, reply.2)

def component : Component MemoryOp MemoryOp.Answer MemoryError Nat Bank MemoryInput where
  respond := platform.respond

theorem respond_cases (actor : Nat) (input : MemoryInput) (bank : Bank) (op : MemoryOp) :
  platform.respond actor input bank op = platform.answer actor input bank op ∨
    platform.respond actor input bank op = (.error .unavailable, bank) ∨
    platform.respond actor input bank op =
    (.error .unavailable, (platform.answer actor input bank op).2) := by
  unfold respond
  split
  · exact .inl rfl
  split
  · exact .inl rfl
  · exact .inr (.inl rfl)
  exact .inr (.inr rfl)

end MemoryPlatform

abbrev MemoryPool := Pool MemoryOp MemoryOp.Answer MemoryError Nat Bank Unit

/-- One call for each actor, over an empty bank; a caller that makes several calls stands
for several actors that move one after another. -/
def memoryPool (service : MemoryBankService) (requests : Nat → MemoryRequest) : MemoryPool where
  state := {}
  thread actor := service.serve (requests actor)

end AgentHarness.MemoryBank
