import AgentHarness.MemoryBank.Service

/-!
How the memory bank service writes entries.
-/

namespace AgentHarness.MemoryBank

open Interaction List MemoryBankService

def MemoryStatus.placeholder : MemoryStatus → String
  | .rejected => "[REJECTED]"
  | .deleted => "[DELETED]"
  | .expired => "[EXPIRED]"
  | .pending | .active => ""

variable (service : MemoryBankService)

def MemoryEntry.Cleared (entry : MemoryEntry) : Prop :=
  entry.content = entry.status.placeholder ∧ entry.contentHash = service.sha256 ""

inductive Follows (service : MemoryBankService) (request : MemoryRequest)
    (current updated : MemoryEntry) : Prop where
  | confirmed (expectedVersion : Nat) (asked : request = .confirm current.key expectedVersion)
      (pending : current.status = .pending) (active : updated.status = .active)
      (limited : updated.expiresAt.isSome ∧ updated.consentId.isSome)
  | edited (kept : current.status.removed = false) (status : updated.status = current.status)
      (expiresAt : updated.expiresAt = current.expiresAt)
      (consentId : updated.consentId = current.consentId)
  | removed (status : updated.status.removed) (cleared : updated.Cleared service)

structure Rewrites (service : MemoryBankService) (request : MemoryRequest)
    (expectedVersion : Nat) (current updated : MemoryEntry) : Prop where
  expected : expectedVersion = current.version
  version : updated.version = current.version + 1
  key : updated.key = current.key
  follows : Follows service request current updated

structure Reading where
  consent : Option (Option MemoryConsent) := none
  seen : List MemoryEntry := []

structure Activates (known : Reading) (entry : MemoryEntry) : Prop where
  status : entry.status = .active
  limited : entry.expiresAt.isSome ∧ entry.consentId.isSome
  byAgent : entry.source.kind = .agent
  personal : entry.sensitivity = .personal
  consented : ∃ consent, known.consent = some consent ∧ consent.any MemoryConsent.inForce

def Allows (request : MemoryRequest) (known : Reading) : MemoryOp → Prop
  | .addEntry entry => entry.version = 1 ∧ (entry.status = .pending ∨ Activates known entry)
  | .compareAndSetEntry expectedVersion updated =>
    ∃ current ∈ known.seen, Rewrites service request expectedVersion current updated
  | _ => True

namespace Reading

def after (known : Reading) : (op : MemoryOp) → Except MemoryError op.Answer → Reading
  | .getConsent _, .ok consent => { known with consent := some consent }
  | .getConsent _, .error _ => { known with consent := none }
  | .getEntry _, .ok entry => { known with seen := entry :: known.seen }
  | .listExpired _ _, .ok entries => { known with seen := entries ++ known.seen }
  | _, _ => known

end Reading

def Foreseen : (op : MemoryOp) → Except MemoryError op.Answer → Prop
  | .getEntry key, .ok entry => entry.key = key
  | _, _ => True

def memoryContract (request : MemoryRequest) :
  Contract MemoryOp MemoryOp.Answer MemoryError Reading where
  allowed := Allows service request
  learns known op answer later := later = known.after op answer ∧ Foreseen op answer

section

open Program MemoryOp

variable {service : MemoryBankService} {request : MemoryRequest} {known : Reading} {α β : Type}

def Keeps (service : MemoryBankService) (request : MemoryRequest) (known : Reading)
  (program : MemoryProgram α) : Prop :=
  program.wp (memoryContract service request) (fun _ _ => True) (fun _ _ => True) known

theorem keeps_done (value : α) : Keeps service request known (done value) := trivial

theorem keeps_ask {op : MemoryOp} {next : op.Answer → MemoryProgram α}
  (allowed : Allows service request known op)
  (rest : ∀ answer, Foreseen op (.ok answer) →
    Keeps service request (known.after op (.ok answer)) (next answer)) :
  Keeps service request known ((ask op).bind next) := by
  unfold Keeps
  rw [wp_bind, wp_perform]
  refine ⟨allowed, fun answer later learned => ?_, fun _ _ _ => trivial⟩
  rw [learned.1]
  exact rest answer learned.2

variable {next : Unit → MemoryProgram α}

theorem keeps_refuse {refused : Prop} [Decidable refused] {message : String}
  (rest : ¬ refused → Keeps service request known (next ())) :
  Keeps service request known ((refuse refused message).bind next) := by
  unfold refuse
  split
  · trivial
  rename_i accepted
  exact rest accepted

theorem keeps_ensure {outcome : Except MemoryError β} {next : β → MemoryProgram α}
  (rest : ∀ value, outcome = .ok value → Keeps service request known (next value)) :
  Keeps service request known ((ensure outcome).bind next) := by
  cases outcome with
  | error error => trivial
  | ok value => exact rest value rfl

variable {details : AuditDetails}

theorem keeps_record {tenantId userId action : String} {resourceId : Option String}
  {outcome : String} (rest : Keeps service request known (next ())) : Keeps service request known
    ((service.recordAction tenantId userId action resourceId outcome details).bind next) := by
  unfold recordAction
  split
  · exact keeps_ask (by trivial) fun _ _ => rest
  exact rest

theorem keeps_retention {agent : AgentKey} {next : MemoryRetention → MemoryProgram α}
  (rest : ∀ retention, Keeps service request known (next retention)) :
  Keeps service request known ((service.retention agent).bind next) := by
  unfold MemoryBankService.retention
  simp only [bind_eq, Program.bind_assoc]
  apply keeps_ask (by trivial)
  intro stored _
  cases stored with
  | some stored => exact rest stored
  | none =>
    rw [Program.bind_assoc]
    apply keeps_ask (by trivial)
    intro now _
    exact keeps_ensure fun retention _ => rest retention

theorem keeps_storeEntry {current updated : MemoryEntry} {changed action : String}
  (seen : current ∈ known.seen)
  (rewrites : Rewrites service request current.version current updated) :
  Keeps service request known (service.storeEntry current updated changed action details) := by
  apply keeps_ask (by exact ⟨current, seen, rewrites⟩)
  intro stored _
  apply keeps_refuse
  intro _
  exact keeps_record (keeps_done updated)

theorem eq_of_valid {entry stored : MemoryEntry} (valid : validateEntry entry = .ok stored) :
  stored = entry := by
  unfold validateEntry at valid
  split at valid
  · cases valid
  exact (Except.ok.inj valid).symm

theorem proposed_allowed (proposal : ProposeRequest) (normalized : String)
  (sensitivity : MemorySensitivity) (consent : Option MemoryConsent) (retention : MemoryRetention)
  (now : Int) (entryId sourceId : String) (consulted : known.consent = some consent) :
  Allows service request known (.addEntry (service.proposedEntry proposal normalized sensitivity
    consent retention now entryId sourceId)) := by
  refine ⟨rfl, ?_⟩
  by_cases active : autoActivates proposal.sourceKind sensitivity consent = true
  · right
    have parts := active
    simp only [autoActivates, Bool.and_eq_true, decide_eq_true_eq] at parts
    obtain ⟨⟨byAgent, personal⟩, consented⟩ := parts
    obtain ⟨given, _⟩ : ∃ given, consent = some given := by
      cases consent with
      | none => cases consented
      | some given => exact ⟨given, rfl⟩
    subst consent
    constructor
    · simp [proposedEntry, active]
    · simp [proposedEntry, active]
    · exact byAgent
    · exact personal
    exact ⟨_, consulted, consented⟩
  left
  simp [proposedEntry, active]

theorem propose_keeps (proposal : ProposeRequest) :
  Keeps service request {} (service.propose proposal) := by
  unfold MemoryBankService.propose
  simp only [bind_eq]
  apply keeps_refuse
  intro _
  split
  · apply keeps_record
    trivial
  apply keeps_ask (by trivial)
  intro now _
  apply keeps_ask (by trivial)
  intro consent _
  apply keeps_retention
  intro retention
  apply keeps_ask (by trivial)
  intro entryId _
  apply keeps_ask (by trivial)
  intro sourceId _
  apply keeps_ensure
  intro entry valid
  have allowed : Allows service request { consent := some consent } (.addEntry entry) := by
    rw [eq_of_valid valid]
    exact proposed_allowed _ _ _ _ _ _ _ _ rfl
  apply keeps_ask allowed
  intro _ _
  exact keeps_record (keeps_done entry)

variable (key : EntryKey) (expectedVersion : Nat)

theorem confirm_keeps :
  Keeps service (.confirm key expectedVersion) {} (service.confirm key expectedVersion) := by
  apply keeps_ask (by trivial)
  intro current located
  apply keeps_refuse
  intro accepted
  obtain ⟨_, pending⟩ := not_or.mp accepted
  apply keeps_ask (by trivial)
  intro now _
  apply keeps_retention
  intro retention
  apply keeps_ask (by trivial)
  intro consentId _
  apply keeps_storeEntry (mem_singleton_self current)
  constructor
  · rfl
  · rfl
  · rfl
  exact .confirmed expectedVersion (by rw [located]) (not_not.mp pending) rfl ⟨rfl, rfl⟩

theorem reject_keeps : Keeps service request {} (service.reject key expectedVersion) := by
  apply keeps_ask (by trivial)
  intro current _
  apply keeps_refuse
  intro _
  apply keeps_ask (by trivial)
  intro updatedAt _
  apply keeps_ask (by trivial)
  intro deletedAt _
  apply keeps_storeEntry (mem_singleton_self current)
  exact ⟨rfl, rfl, rfl, .removed rfl ⟨rfl, rfl⟩⟩

theorem update_keeps (content : String) (confidence : Option Rat) :
  Keeps service request {} (service.update key expectedVersion content confidence) := by
  apply keeps_ask (by trivial)
  intro current _
  apply keeps_refuse
  intro accepted
  have kept : current.status.removed = false := by
    obtain ⟨_, editable⟩ := not_or.mp accepted
    cases status : current.status with
    | pending | active => rfl
    | rejected | deleted | expired => simp [status] at editable
  apply keeps_refuse
  intro _
  apply keeps_ask (by trivial)
  intro now _
  apply keeps_storeEntry (mem_singleton_self current)
  exact ⟨rfl, rfl, rfl, .edited kept rfl rfl rfl⟩

theorem delete_keeps : Keeps service request {} (service.delete key expectedVersion) := by
  apply keeps_ask (by trivial)
  intro current _
  apply keeps_refuse
  intro _
  apply keeps_ask (by trivial)
  intro now _
  apply keeps_storeEntry (mem_singleton_self current)
  exact ⟨rfl, rfl, rfl, .removed rfl ⟨rfl, rfl⟩⟩

theorem replaceConsent_keeps (agent : AgentKey) (expectedVersion : Nat)
  (allowAgentPersonal : Bool) :
  Keeps service request {}
    (service.replaceConsent agent expectedVersion allowAgentPersonal) := by
  apply keeps_ask (by trivial)
  intro current _
  apply keeps_refuse
  intro _
  apply keeps_ask (by trivial)
  intro now _
  have stored (consentId : String) : Keeps service request { consent := some current } (do
      let consent := replacedConsent agent current expectedVersion
        allowAgentPersonal now consentId
      let stored ← ask (.putConsent expectedVersion consent)
      refuse (stored = false) "memory consent changed while update was applied"
      service.recordAction agent.tenantId agent.userId "memory.consent.replace"
        (some consent.consentId) "success"
        [("agent_name", agent.agentName), ("allow_agent_personal", boolText allowAgentPersonal)]
      done consent) := by
    apply keeps_ask (by trivial)
    intro _ _
    apply keeps_refuse
    intro _
    exact keeps_record (keeps_done _)
  cases current with
  | some consent => exact stored consent.consentId
  | none => exact keeps_ask (by trivial) fun consentId _ => stored consentId

theorem replaceRetention_keeps (agent : AgentKey) (expectedVersion defaultDays maxDays : Nat) :
  Keeps service request {}
    (MemoryBankService.replaceRetention agent expectedVersion defaultDays maxDays) := by
  apply keeps_refuse
  intro _
  apply keeps_ask (by trivial)
  intro current _
  apply keeps_refuse
  intro _
  apply keeps_ask (by trivial)
  intro now _
  apply keeps_ensure
  intro retention _
  apply keeps_ask (by trivial)
  intro _ _
  apply keeps_refuse
  intro _
  exact keeps_done _

theorem expireEach_keeps (now : Int) (entries : List MemoryEntry) (count : Nat)
  (seen : ∀ entry ∈ entries, entry ∈ known.seen) :
  Keeps service request known (service.expireEach now entries count) := by
  induction entries generalizing count with
  | nil => exact keeps_done count
  | cons current rest ih =>
    have rewrites : Rewrites service request current.version current
      (service.expiredEntry current now) :=
      ⟨rfl, rfl, rfl, .removed rfl ⟨rfl, rfl⟩⟩
    rw [expireEach, bind_eq]
    apply keeps_ask (by exact ⟨current, seen current mem_cons_self, rewrites⟩)
    intro stored _
    exact ih _ fun entry member => seen entry (mem_cons_of_mem current member)

theorem reapExpired_keeps (limit : Nat) : Keeps service request {} (service.reapExpired limit) := by
  apply keeps_ask (by trivial)
  intro now _
  apply keeps_ask (by trivial)
  intro expired _
  apply expireEach_keeps
  intro entry member
  exact mem_append_left [] member

theorem Keeps.discard {program : MemoryProgram α} (keeps : Keeps service request known program) :
  Keeps service request known (program.bind fun _ => done ()) := by
  unfold Keeps
  rw [wp_bind]
  exact keeps

theorem serve_keeps (service : MemoryBankService) (request : MemoryRequest) :
  Keeps service request {} (service.serve request) := by
  cases request with
  | propose proposal => exact (propose_keeps proposal).discard
  | confirm key expectedVersion => exact (confirm_keeps key expectedVersion).discard
  | reject key expectedVersion => exact (reject_keeps key expectedVersion).discard
  | update key expectedVersion content confidence =>
    exact (update_keeps key expectedVersion content confidence).discard
  | delete key expectedVersion => exact (delete_keeps key expectedVersion).discard
  | replaceConsent agent expectedVersion allowAgentPersonal =>
    exact (replaceConsent_keeps agent expectedVersion allowAgentPersonal).discard
  | replaceRetention agent expectedVersion defaultDays maxDays =>
    exact (replaceRetention_keeps agent expectedVersion defaultDays maxDays).discard
  | reapExpired limit => exact (reapExpired_keeps limit).discard

end

end AgentHarness.MemoryBank
