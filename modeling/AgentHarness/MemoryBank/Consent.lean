import AgentHarness.MemoryBank.Conduct

/-!
What a memory bank may hold.
-/

namespace AgentHarness.MemoryBank

open Collections Interaction Dict Function List MemoryPlatform Pool

def Confirmed (requests : Nat → MemoryRequest) (bank : Bank) (key : EntryKey) : Prop :=
  ∃ version ∈ bank.history, version.entry.key = key ∧ version.entry.status = .active ∧
    ∃ expectedVersion, requests version.actor = .confirm key expectedVersion

def StoredUnderConsent (bank : Bank) (key : EntryKey) : Prop :=
  ∃ version ∈ bank.history, version.entry.key = key ∧ version.entry.version = 1 ∧
    version.entry.status = .active ∧ version.consent.any MemoryConsent.inForce

structure Governed (service : MemoryBankService) (requests : Nat → MemoryRequest) (bank : Bank) :
    Prop where
  cleared : ∀ key entry, bank.repository.entries.get? key = some entry →
    entry.status.removed → entry.Cleared service
  limited : ∀ key entry, bank.repository.entries.get? key = some entry →
    entry.status = .active → entry.expiresAt.isSome ∧ entry.consentId.isSome
  consented : ∀ key entry, bank.repository.entries.get? key = some entry →
    entry.status = .active → ¬ Confirmed requests bank key → StoredUnderConsent bank key

def RemovedStays (before after : Bank) : Prop :=
  ∀ key entry, before.repository.entries.get? key = some entry → entry.status.removed →
    ∃ later, after.repository.entries.get? key = some later ∧ later.status.removed

def MemoryOp.agentProposal : MemoryOp → Option MemoryEntry
  | .addEntry entry =>
    if entry.source.kind = .agent ∧ entry.sensitivity = .personal then some entry else none
  | _ => none

/-- When such a proposal is stored, the consent that its caller has read is still in force,
if it was. -/
def ConsentStands (bank : Bank) (actor : Nat) (op : MemoryOp) (_input : MemoryInput) : Prop :=
  ∀ entry ∈ op.agentProposal, (bank.consulted actor).any MemoryConsent.inForce →
    (bank.repository.getConsent entry.agent).any MemoryConsent.inForce

instance (bank : Bank) (actor : Nat) (op : MemoryOp) (input : MemoryInput) :
  Decidable (ConsentStands bank actor op input) :=
  inferInstanceAs (Decidable (∀ entry ∈ op.agentProposal, _))

/-! What one operation does to the bank. -/

def Bank.stored (bank : Bank) (actor : Nat) (entry : MemoryEntry) : Bank :=
  bank.written actor entry
    { bank.repository with entries := bank.repository.entries.set entry.key entry }

structure Spared (actor : Nat) (bank later : Bank) : Prop where
  entries : later.repository.entries = bank.repository.entries
  history : later.history = bank.history
  consulted : ∀ other, other ≠ actor → later.consulted other = bank.consulted other

section

variable {platform : MemoryPlatform} {service : MemoryBankService} {request : MemoryRequest}
  {requests : Nat → MemoryRequest} {bank later : Bank} {actor : Nat}
  {entry updated current : MemoryEntry} {known : Reading}

theorem Spared.same : Spared actor bank bank := ⟨rfl, rfl, fun _ _ => rfl⟩

theorem answer_effect (input : MemoryInput) (op : MemoryOp) :
  Spared actor bank (platform.answer actor input bank op).2 ∨
    (∃ entry, op = .addEntry entry ∧ bank.repository.entries.get? entry.key = none ∧
    (platform.answer actor input bank op).2 = bank.stored actor entry) ∨
    ∃ updated current, op = .compareAndSetEntry current.version updated ∧
    bank.repository.entries.get? updated.key = some current ∧
    (platform.answer actor input bank op).2 = bank.stored actor updated := by
  cases op with
  | addEntry entry =>
    simp only [answer, InMemoryMemoryBankRepository.addEntry]
    cases found : bank.repository.entries.get? entry.key with
    | some old => exact .inl Spared.same
    | none => exact .inr (.inl ⟨entry, rfl, found, rfl⟩)
  | compareAndSetEntry expectedVersion updated =>
    simp only [answer, InMemoryMemoryBankRepository.compareAndSetEntry]
    by_cases next : updated.version ≠ expectedVersion + 1
    · rw [if_pos next]
      exact .inl Spared.same
    rw [if_neg next]
    cases found : bank.repository.entries.get? updated.key with
    | none => exact .inl Spared.same
    | some current =>
      by_cases other : current.version ≠ expectedVersion
      · simp only [if_pos other]
        exact .inl Spared.same
      simp only [if_neg other]
      obtain rfl := not_not.mp other
      exact .inr (.inr ⟨updated, current, rfl, found, rfl⟩)
  | getConsent agent => exact .inl ⟨rfl, rfl, fun other distinct => update_of_ne distinct _ _⟩
  | putConsent expectedVersion consent =>
    left
    simp only [answer, InMemoryMemoryBankRepository.putConsent]
    split <;> exact ⟨rfl, rfl, fun _ _ => rfl⟩
  | putRetention expectedVersion retention =>
    left
    simp only [answer, InMemoryMemoryBankRepository.putRetention]
    split <;> exact ⟨rfl, rfl, fun _ _ => rfl⟩
  | clock | generateId _ | getEntry _ | listExpired _ _ | getRetention _ | record _ _ _ _ _ _ =>
    exact .inl ⟨rfl, rfl, fun _ _ => rfl⟩

theorem get?_stored (key : EntryKey) : (bank.stored actor entry).repository.entries.get? key =
  if key = entry.key then some entry else bank.repository.entries.get? key :=
  get?_set _ _ _ _

theorem mem_stored {version : StoredVersion} : version ∈ (bank.stored actor entry).history ↔
  version ∈ bank.history ∨
  version = ⟨actor, entry, bank.repository.getConsent entry.agent⟩ := by
  simp [Bank.stored, Bank.written]

variable {key : EntryKey}

theorem Confirmed.mono (confirmed : Confirmed requests bank key)
  (kept : ∀ version ∈ bank.history, version ∈ later.history) : Confirmed requests later key := by
  obtain ⟨version, member, rest⟩ := confirmed
  exact ⟨version, kept version member, rest⟩

theorem StoredUnderConsent.mono (stored : StoredUnderConsent bank key)
  (kept : ∀ version ∈ bank.history, version ∈ later.history) : StoredUnderConsent later key := by
  obtain ⟨version, member, rest⟩ := stored
  exact ⟨version, kept version member, rest⟩

section

variable (governed : Governed service requests bank)

include governed

theorem Governed.spared (spared : Spared actor bank later) : Governed service requests later := by
  constructor
  · rw [spared.entries]
    exact governed.cleared
  · rw [spared.entries]
    exact governed.limited
  rw [spared.entries]
  intro key entry found active unconfirmed
  have kept : ∀ version ∈ bank.history, version ∈ later.history := by
    rw [spared.history]
    exact fun _ => id
  have before := governed.consented key entry found active
    (fun confirmed => unconfirmed (confirmed.mono kept))
  exact before.mono kept

theorem Governed.stored (cleared : entry.status.removed → entry.Cleared service)
  (limited : entry.status = .active → entry.expiresAt.isSome ∧ entry.consentId.isSome)
  (consented : entry.status = .active → ¬ Confirmed requests (bank.stored actor entry) entry.key →
    StoredUnderConsent (bank.stored actor entry) entry.key) :
  Governed service requests (bank.stored actor entry) := by
  have kept : ∀ version ∈ bank.history, version ∈ (bank.stored actor entry).history :=
    fun _ member => mem_stored.mpr (.inl member)
  constructor
  · intro key other found
    rw [get?_stored] at found
    split at found
    · cases found
      exact cleared
    exact governed.cleared key other found
  · intro key other found
    rw [get?_stored] at found
    split at found
    · cases found
      exact limited
    exact governed.limited key other found
  intro key other found active unconfirmed
  rw [get?_stored] at found
  split at found
  · rename_i same
    cases found
    subst key
    exact consented active unconfirmed
  have before := governed.consented key other found active
    (fun confirmed => unconfirmed (confirmed.mono kept))
  exact before.mono kept

theorem governed_added (allowed : Allows service request known (.addEntry entry))
  (consulted : ∀ consent, known.consent = some consent → bank.consulted actor = consent)
  (stands : ∀ input, ConsentStands bank actor (.addEntry entry) input) :
  Governed service requests (bank.stored actor entry) := by
  obtain ⟨first, status⟩ := allowed
  rcases status with pending | activates
  · apply governed.stored
    · rw [pending]
      exact fun removed => nomatch removed
    · rw [pending]
      exact fun active => nomatch active
    rw [pending]
    exact fun active => nomatch active
  apply governed.stored
  · rw [activates.status]
    exact fun removed => nomatch removed
  · exact fun _ => activates.limited
  intro active _
  obtain ⟨consent, read, inForce⟩ := activates.consented
  have proposal : entry ∈ (MemoryOp.addEntry entry).agentProposal := by
    simp [MemoryOp.agentProposal, activates.byAgent, activates.personal]
  rw [← consulted consent read] at inForce
  have still := stands {} entry proposal inForce
  exact ⟨_, mem_stored.mpr (.inr rfl), rfl, first, active, still⟩

theorem governed_rewritten (found : bank.repository.entries.get? updated.key = some current)
  {expectedVersion : Nat}
  (rewrites : Rewrites service (requests actor) expectedVersion current updated) :
  Governed service requests (bank.stored actor updated) := by
  have kept : ∀ version ∈ bank.history, version ∈ (bank.stored actor updated).history :=
    fun _ member => mem_stored.mpr (.inl member)
  cases rewrites.follows with
  | confirmed expectedVersion asked pending active limited =>
    apply governed.stored
    · rw [active]
      exact fun removed => nomatch removed
    · exact fun _ => limited
    intro _ unconfirmed
    refine absurd ⟨_, mem_stored.mpr (.inr rfl), rfl, active, expectedVersion, ?_⟩ unconfirmed
    rw [rewrites.key]
    exact asked
  | edited stays status expiresAt consentId =>
    apply governed.stored
    · rw [status, stays]
      exact fun removed => nomatch removed
    · rw [status, expiresAt, consentId]
      exact governed.limited _ current found
    intro active unconfirmed
    rw [status] at active
    have before := governed.consented _ current found active
      (fun confirmed => unconfirmed (confirmed.mono kept))
    exact before.mono kept
  | removed status cleared =>
    apply governed.stored
    · exact fun _ => cleared
    · intro active
      rw [active] at status
      exact nomatch status
    intro active
    rw [active] at status
    exact nomatch status

end

theorem removedStays_refl : RemovedStays bank bank :=
  fun _ entry found removed => ⟨entry, found, removed⟩

theorem RemovedStays.spared (spared : Spared actor bank later) : RemovedStays bank later := by
  intro key entry found removed
  rw [spared.entries]
  exact ⟨entry, found, removed⟩

theorem removedStays_added (absent : bank.repository.entries.get? entry.key = none) :
  RemovedStays bank (bank.stored actor entry) := by
  intro key old found removed
  have other : key ≠ entry.key := by
    rintro rfl
    rw [absent] at found
    cases found
  exact ⟨old, by rw [get?_stored, if_neg other, found], removed⟩

theorem removedStays_rewritten (found : bank.repository.entries.get? updated.key = some current)
  {expectedVersion : Nat} (rewrites : Rewrites service request expectedVersion current updated) :
  RemovedStays bank (bank.stored actor updated) := by
  intro key old stored removed
  by_cases same : key = updated.key
  · subst key
    rw [found] at stored
    cases stored
    refine ⟨updated, by rw [get?_stored, if_pos rfl], ?_⟩
    cases rewrites.follows with
    | confirmed _ _ pending _ _ =>
      rw [pending] at removed
      exact nomatch removed
    | edited stays _ _ _ =>
      rw [stays] at removed
      exact nomatch removed
    | removed status _ => exact status
  exact ⟨old, by rw [get?_stored, if_neg same, stored], removed⟩

theorem foreseen_error (op : MemoryOp) (error : MemoryError) : Foreseen op (.error error) := by
  cases op <;> trivial

structure Recalls (bank : Bank) (actor : Nat) (known : Reading) : Prop where
  consulted : ∀ consent, known.consent = some consent → bank.consulted actor = consent
  seen : ∀ entry ∈ known.seen, ∃ stored,
    bank.repository.entries.get? entry.key = some stored ∧ entry.version ≤ stored.version ∧
      (entry.version = stored.version → stored = entry)

variable {other : Nat}

theorem Recalls.spared (recalls : Recalls bank other known)
  (spared : Spared actor bank later) (consulted : later.consulted other = bank.consulted other) :
  Recalls later other known := by
  constructor
  · rw [consulted]
    exact recalls.consulted
  rw [spared.entries]
  exact recalls.seen

theorem Recalls.stored (recalls : Recalls bank other known)
  (newer : ∀ old, bank.repository.entries.get? entry.key = some old → old.version < entry.version) :
  Recalls (bank.stored actor entry) other known := by
  constructor
  · exact recalls.consulted
  intro read member
  obtain ⟨stored, found, older, same⟩ := recalls.seen read member
  rw [get?_stored]
  by_cases rewritten : read.key = entry.key
  · rw [if_pos rewritten]
    have grown := newer stored (by rw [← rewritten, found])
    exact ⟨entry, rfl, by omega, fun equal => by omega⟩
  rw [if_neg rewritten]
  exact ⟨stored, found, older, same⟩

theorem rewrites_stored (recalls : Recalls bank actor known)
  (allowed : Allows service request known (.compareAndSetEntry current.version updated))
  (found : bank.repository.entries.get? updated.key = some current) :
  Rewrites service request current.version current updated := by
  obtain ⟨read, member, rewrites⟩ := allowed
  obtain ⟨stored, present, _, same⟩ := recalls.seen read member
  rw [← rewrites.key, found] at present
  cases present
  have equal := same rewrites.expected.symm
  rw [← equal] at rewrites
  exact rewrites

structure Orderly (service : MemoryBankService) (requests : Nat → MemoryRequest) (bank : Bank)
    (known : Nat → Reading) : Prop where
  keyed : ∀ key entry, bank.repository.entries.get? key = some entry → entry.key = key
  governed : Governed service requests bank
  recalls : ∀ actor, Recalls bank actor (known actor)

theorem keyed_stored
  (keyed : ∀ key entry, bank.repository.entries.get? key = some entry → entry.key = key)
  (key : EntryKey) (other : MemoryEntry)
  (found : (bank.stored actor entry).repository.entries.get? key = some other) :
  other.key = key := by
  rw [get?_stored] at found
  split at found
  · rename_i same
    cases found
    exact same.symm
  exact keyed key other found

theorem recalls_seen {read : List MemoryEntry} (recalls : Recalls bank actor known)
  (stored : ∀ entry ∈ read, bank.repository.entries.get? entry.key = some entry) :
  Recalls bank actor { known with seen := read ++ known.seen } := by
  constructor
  · exact recalls.consulted
  intro entry member
  rcases mem_append.mp member with recent | before
  · exact ⟨entry, stored entry recent, Nat.le_refl _, fun _ => rfl⟩
  exact recalls.seen entry before

theorem Recalls.failed (recalls : Recalls bank actor known) (op : MemoryOp)
  (error : MemoryError) : Recalls bank actor (known.after op (.error error)) := by
  cases op with
  | getConsent agent => exact ⟨nofun, recalls.seen⟩
  | clock | generateId _ | addEntry _ | getEntry _ | compareAndSetEntry _ _ | listExpired _ _
  | putConsent _ _ | getRetention _ | putRetention _ _ | record _ _ _ _ _ _ => exact recalls

structure Advances (service : MemoryBankService) (requests : Nat → MemoryRequest)
    (known : Nat → Reading) (actor : Nat) (op : MemoryOp) (bank later : Bank) : Prop where
  keyed : ∀ key entry, later.repository.entries.get? key = some entry → entry.key = key
  governed : Governed service requests later
  stays : RemovedStays bank later
  others : ∀ other, other ≠ actor → Recalls later other (known other)
  unanswered : ∀ error, Recalls later actor ((known actor).after op (.error error))

variable {known : Nat → Reading}

theorem advances_stored {op : MemoryOp} (orderly : Orderly service requests bank known)
  (governed : Governed service requests (bank.stored actor entry))
  (stays : RemovedStays bank (bank.stored actor entry))
  (newer : ∀ old, bank.repository.entries.get? entry.key = some old → old.version < entry.version) :
  Advances service requests known actor op bank (bank.stored actor entry) where
  keyed := keyed_stored orderly.keyed
  governed
  stays
  others := fun other _ => (orderly.recalls other).stored newer
  unanswered := fun error => ((orderly.recalls actor).failed op error).stored newer

theorem consulted_answer {op : MemoryOp} (input : MemoryInput)
  (other : ∀ agent, op ≠ .getConsent agent) :
  (platform.answer actor input bank op).2.consulted = bank.consulted := by
  cases op with
  | getConsent agent => exact absurd rfl (other agent)
  | addEntry entry | compareAndSetEntry expectedVersion updated =>
    simp only [answer]
    split <;> rfl
  | clock | generateId _ | getEntry _ | listExpired _ _ | putConsent _ _ | getRetention _
  | putRetention _ _ | record _ _ _ _ _ _ => rfl

theorem advances_answer {op : MemoryOp} (orderly : Orderly service requests bank known)
  (allowed : Allows service (requests actor) (known actor) op)
  (stands : ∀ input, ConsentStands bank actor op input) (input : MemoryInput) :
  Advances service requests known actor op bank (platform.answer actor input bank op).2 := by
  rcases answer_effect input op with spared | ⟨entry, rfl, absent, effect⟩ |
    ⟨updated, current, rfl, found, effect⟩
  · constructor
    · rw [spared.entries]
      exact orderly.keyed
    · exact orderly.governed.spared spared
    · exact RemovedStays.spared spared
    · exact fun other distinct =>
        (orderly.recalls other).spared spared (spared.consulted other distinct)
    intro error
    have failed := (orderly.recalls actor).failed op error
    by_cases asks : ∃ agent, op = .getConsent agent
    · obtain ⟨agent, rfl⟩ := asks
      exact ⟨nofun, failed.seen⟩
    have same : (platform.answer actor input bank op).2.consulted = bank.consulted :=
      consulted_answer input fun agent equal => asks ⟨agent, equal⟩
    exact failed.spared spared (congrFun same actor)
  · rw [effect]
    apply advances_stored orderly
    · exact governed_added orderly.governed allowed (orderly.recalls actor).consulted stands
    · exact removedStays_added absent
    intro old found
    rw [absent] at found
    cases found
  rw [effect]
  have rewrites := rewrites_stored (orderly.recalls actor) allowed found
  apply advances_stored orderly
  · exact governed_rewritten orderly.governed found rewrites
  · exact removedStays_rewritten found rewrites
  intro old stored
  rw [found] at stored
  cases stored
  rw [rewrites.version]
  exact Nat.lt_succ_self _

theorem recalls_answer {op : MemoryOp}
  (orderly : Orderly service requests bank known) (input : MemoryInput)
  (advances : Advances service requests known actor op bank
    (platform.answer actor input bank op).2) : Foreseen op (platform.answer actor input bank op).1 ∧
    Recalls (platform.answer actor input bank op).2 actor
    ((known actor).after op (platform.answer actor input bank op).1) := by
  have recalls := orderly.recalls actor
  have unanswered := advances.unanswered .unavailable
  cases op with
  | getEntry key =>
    simp only [answer, InMemoryMemoryBankRepository.getEntry]
    cases found : bank.repository.entries.get? key with
    | none => exact ⟨trivial, recalls⟩
    | some entry =>
      have named := orderly.keyed key entry found
      have stored : ∀ other ∈ [entry], bank.repository.entries.get? other.key = some other := by
        intro other member
        rw [mem_singleton.mp member, named]
        exact found
      exact ⟨named, recalls_seen recalls stored⟩
  | listExpired now limit =>
    refine ⟨trivial, recalls_seen recalls ?_⟩
    intro entry member
    have listed := mem_mergeSort.mp (mem_of_mem_take member)
    obtain ⟨key, found⟩ := mem_values.mp (mem_filter.mp listed).1
    rw [orderly.keyed key entry found]
    exact found
  | getConsent agent =>
    refine ⟨trivial, ?_, recalls.seen⟩
    intro consent read
    cases read
    exact update_self actor _ bank.consulted
  | clock | generateId _ | addEntry _ | compareAndSetEntry _ _ | putConsent _ _ | getRetention _
  | putRetention _ _ | record _ _ _ _ _ _ => exact ⟨trivial, unanswered⟩

end

section

variable (platform : MemoryPlatform) (service : MemoryBankService) (requests : Nat → MemoryRequest)

theorem memory_adheres :
  Pool.Adheres platform.component (fun actor => memoryContract service (requests actor))
    (Orderly service requests) ConsentStands := by
  intro bank known actor op input orderly stands allowed
  have advances : Advances service requests known actor op bank
    (platform.answer actor input bank op).2 :=
    advances_answer orderly allowed (fun _ => stands) input
  have orderly_of {later : Bank} {learned : Reading}
    (after : Advances service requests known actor op bank later)
    (own : Recalls later actor learned) :
    Orderly service requests later (update known actor learned) :=
    ⟨after.keyed, after.governed, forall_update own after.others⟩
  rcases platform.respond_cases actor input bank op with answered | refused | lost
  · obtain ⟨foreseen, own⟩ := recalls_answer orderly input advances
    refine ⟨(known actor).after op (platform.answer actor input bank op).1, ?_, ?_⟩
    · simp only [component, answered]
      exact ⟨rfl, foreseen⟩
    simp only [component, answered]
    exact orderly_of advances own
  · refine ⟨(known actor).after op (.error .unavailable), ?_, ?_⟩
    · simp only [component, refused]
      exact ⟨rfl, foreseen_error op .unavailable⟩
    simp only [component, refused]
    exact ⟨orderly.keyed, orderly.governed, forall_update
      ((orderly.recalls actor).failed op .unavailable) fun other _ => orderly.recalls other⟩
  refine ⟨(known actor).after op (.error .unavailable), ?_, ?_⟩
  · simp only [component, lost]
    exact ⟨rfl, foreseen_error op .unavailable⟩
  simp only [component, lost]
  exact orderly_of advances (advances.unanswered .unavailable)

theorem memory_ready :
  (memoryPool service requests).Ready (fun actor => memoryContract service (requests actor))
    (Orderly service requests) (fun _ _ _ => True) (fun _ _ _ => True) (fun _ => {}) := by
  refine ⟨⟨?_, ⟨?_, ?_, ?_⟩, ?_⟩, fun actor => serve_keeps service (requests actor)⟩
  · exact fun _ _ found => nomatch found
  · exact fun _ _ found => nomatch found
  · exact fun _ _ found => nomatch found
  · exact fun _ _ found => nomatch found
  exact fun _ => ⟨(fun _ read => nomatch read), (fun _ member => nomatch member)⟩

theorem removedStays_respond {bank : Bank} {known : Nat → Reading} {actor : Nat}
  {op : MemoryOp} (input : MemoryInput) (orderly : Orderly service requests bank known)
  (stands : ConsentStands bank actor op input)
  (allowed : Allows service (requests actor) (known actor) op) :
  RemovedStays bank (platform.respond actor input bank op).2 := by
  have advances : Advances service requests known actor op bank
    (platform.answer actor input bank op).2 :=
    advances_answer orderly allowed (fun _ => stands) input
  rcases platform.respond_cases actor input bank op with answered | refused | lost
  · rw [answered]
    exact advances.stays
  · rw [refused]
    exact removedStays_refl
  rw [lost]
  exact advances.stays

/-- A removed entry stays removed, and in every state that is reached the entries are governed
by the consent of their user. -/
theorem consent_governs_memory (schedule : List (Nat × MemoryInput))
  (stands : (memoryPool service requests).Along platform.component ConsentStands schedule) :
  ((memoryPool service requests).visited platform.component schedule).IsChain RemovedStays ∧
    Governed service requests
    ((memoryPool service requests).run platform.component schedule).state := by
  have adheres := memory_adheres platform service requests
  have ready := memory_ready service requests
  constructor
  · apply visited_chain adheres (fun _ => removedStays_refl) ?_ ready schedule stands
    intro bank known actor op input orderly guarded allowed
    exact removedStays_respond platform service requests input orderly guarded allowed
  obtain ⟨known, orderly, _⟩ := run_ready adheres ready schedule stands
  exact orderly.governed

end

def counting : MemoryPlatform where
  generatedId kind count := kind ++ "-" ++ toString count

def plain : MemoryBankService where
  normalizeMemoryContent content := content
  classifyMemory _ := .personal
  sha256 content := "sha256:" ++ content

def helper : AgentKey := ⟨"tenant", "user", "helper"⟩

def remember : ProposeRequest where
  agent := helper
  content := "prefers short lists"
  sourceKind := .agent
  sourceLabel := "Agent"
  confidence := 1

def grantWithdraw : Nat → MemoryRequest
  | 0 => .replaceConsent helper 0 true
  | 1 => .propose remember
  | _ => .replaceConsent helper 1 false

def quiet : MemoryInput := {}

def granted : List (Nat × MemoryInput) := List.replicate 5 (0, quiet) ++ List.replicate 8 (1, quiet)

theorem consent_governs_memory_granted :
  ((memoryPool plain grantWithdraw).visited counting.component granted).IsChain RemovedStays ∧
    Governed plain grantWithdraw
    ((memoryPool plain grantWithdraw).run counting.component granted).state :=
  consent_governs_memory counting plain grantWithdraw granted (by decide)

def withdrawn : List (Nat × MemoryInput) :=
  List.replicate 5 (0, quiet) ++ List.replicate 6 (1, quiet) ++ List.replicate 4 (2, quiet) ++
    [(1, quiet)]

def withdrawnBank : Bank :=
  ((memoryPool plain grantWithdraw).run counting.component withdrawn).state

def remembered : EntryKey := ⟨"tenant", "user", "memory-1"⟩

theorem withdrawn_active :
  ∃ entry ∈ withdrawnBank.repository.entries.get? remembered, entry.status = .active := by
  decide

theorem withdrawn_history : ∀ version ∈ withdrawnBank.history,
  version.actor = 1 ∧ version.consent.any MemoryConsent.inForce = false := by
  decide

theorem withdrawn_consent_stores_active : ¬ Governed plain grantWithdraw
  ((memoryPool plain grantWithdraw).run counting.component withdrawn).state := by
  intro governed
  obtain ⟨entry, found, active⟩ := withdrawn_active
  have unconfirmed : ¬ Confirmed grantWithdraw withdrawnBank remembered := by
    rintro ⟨version, member, _, _, expectedVersion, asked⟩
    obtain ⟨proposer, _⟩ := withdrawn_history version member
    rw [proposer] at asked
    cases asked
  obtain ⟨version, member, _, _, _, inForce⟩ :=
    governed.consented remembered entry found active unconfirmed
  obtain ⟨_, lapsed⟩ := withdrawn_history version member
  rw [lapsed] at inForce
  cases inForce

end AgentHarness.MemoryBank
