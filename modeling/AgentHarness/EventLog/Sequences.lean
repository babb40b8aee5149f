import AgentHarness.EventLog.Repository

/-!
The sequences of a Run's events over every interleaving of appenders.
-/

namespace AgentHarness.EventLog

open Interaction Program Function List EventStores Option

structure Appending (Payload : Type) where
  seen : Nat := 0
  stored : Option (RunEvent Payload) := none

namespace EventStores

variable {Payload : Type} (stores : EventStores Payload)

def Counted (tenantId runId : String) : Prop := (stores.eventsOf tenantId runId).map (·.sequence) =
    List.range' 1 (stores.eventsOf tenantId runId).length

def under (eventId : String) : List (RunEvent Payload) :=
  stores.events.filter fun event => event.eventId = eventId

section

variable {stores : EventStores Payload} {tenantId runId eventId : String}

section

variable (counted : stores.Counted tenantId runId)

include counted

theorem Counted.positive : ∀ event ∈ stores.eventsOf tenantId runId, 0 < event.sequence := by
  intro event member
  have listed : event.sequence ∈ (stores.eventsOf tenantId runId).map (·.sequence) :=
    mem_map_of_mem member
  rw [counted, mem_range'_1] at listed
  omega

theorem Counted.sorted : (stores.eventsOf tenantId runId).Pairwise fun left right =>
  left.sequence ≤ right.sequence := by
  have increasing : ((stores.eventsOf tenantId runId).map (·.sequence)).Pairwise (· < ·) := by
    rw [counted]
    exact pairwise_lt_range'
  exact (pairwise_map.mp increasing).imp Nat.le_of_lt

theorem Counted.listAfter (repository : Repository) :
  stores.listAfter repository tenantId runId 0 = stores.eventsOf tenantId runId := by
  have all : (stores.eventsOf tenantId runId).filter (fun event => 0 < event.sequence) =
    stores.eventsOf tenantId runId := by
    rw [filter_eq_self]
    intro event member
    exact decide_eq_true (counted.positive event member)
  unfold EventStores.listAfter
  rw [all]
  cases repository with
  | memory => rfl
  | postgres => exact counted.sorted.insertionSort_eq

theorem Counted.nextSequence : EventService.nextSequence (stores.eventsOf tenantId runId) =
  (stores.eventsOf tenantId runId).length + 1 := by
  have last := congrArg List.getLast? counted
  rw [getLast?_map] at last
  unfold EventService.nextSequence
  cases final : (stores.eventsOf tenantId runId).getLast? with
  | none =>
    rw [getLast?_eq_none_iff.mp final]
    rfl
  | some event =>
    rw [final, getLast?_range'] at last
    have filled : (stores.eventsOf tenantId runId).length ≠ 0 := by
      intro empty
      rw [length_eq_zero_iff.mp empty] at final
      cases final
    rw [if_neg filled] at last
    have same : event.sequence = 1 + (stores.eventsOf tenantId runId).length - 1 := some.inj last
    dsimp only
    omega

theorem Counted.beyond {sequence : Nat} (positive : 0 < sequence)
  (fresh : ∀ event ∈ stores.eventsOf tenantId runId, event.sequence ≠ sequence) :
  (stores.eventsOf tenantId runId).length < sequence := by
  by_contra within
  have listed : sequence ∈ (stores.eventsOf tenantId runId).map (·.sequence) := by
    rw [counted, mem_range'_1]
    omega
  obtain ⟨event, member, same⟩ := mem_map.mp listed
  exact fresh event member same

end

variable {event : RunEvent Payload}

theorem mem_eventsOf : event ∈ stores.eventsOf tenantId runId ↔
  event ∈ stores.events ∧ event.tenantId = tenantId ∧ event.runId = runId := by
  rw [eventsOf, mem_filter, decide_eq_true_eq]

theorem under_insert (event : RunEvent Payload) : (stores.insert event).under eventId =
  stores.under eventId ++ if event.eventId = eventId then [event] else [] := by
  simp only [under, insert, filter_append, filter_cons, filter_nil, decide_eq_true_eq]

theorem get_eq_none (nothing : stores.under eventId = []) : stores.get eventId = none := by
  rw [get, find?_eq_none]
  intro event member found
  have kept := filter_eq_nil_iff.mp nothing event member
  exact kept found

theorem counted_insert (counted : stores.Counted tenantId runId)
  (next : event.tenantId = tenantId ∧ event.runId = runId →
    event.sequence = (stores.eventsOf tenantId runId).length + 1) :
  (stores.insert event).Counted tenantId runId := by
  unfold Counted
  rw [eventsOf_insert]
  by_cases own : event.tenantId = tenantId ∧ event.runId = runId
  · rw [if_pos own, map_append, length_append, counted, map_singleton,
      length_singleton, range'_1_concat, next own, Nat.add_comm]
  rw [if_neg own, append_nil]
  exact counted

end

def Left (eventId : String) : EventError → Prop
  | .bus => ∃ event, stores.under eventId = [event]
  | .unacknowledged => (stores.under eventId).length ≤ 1
  | _ => stores.under eventId = []

end EventStores

namespace EventService

variable {Appender Payload : Type}

structure Own (service : EventService Appender Payload)
    (requests : Appender → AppendRequest Payload) (appender : Appender)
    (event : RunEvent Payload) : Prop where
  named : event.eventId = service.idGenerator appender
  tenant : event.tenantId = (requests appender).tenantId
  run : event.runId = (requests appender).runId

variable (service : EventService Appender Payload)

def Writes (requests : Appender → AppendRequest Payload) (appender : Appender)
  (known : Appending Payload) (event : RunEvent Payload) : Prop :=
  service.Own requests appender event ∧ known.stored = none ∧ event.sequence = known.seen + 1

def Admits (requests : Appender → AppendRequest Payload) (appender : Appender)
    (known : Appending Payload) : EventOp Payload → Prop
  | .listAfter _ tenantId runId afterSequence =>
    tenantId = (requests appender).tenantId ∧ runId = (requests appender).runId ∧ afterSequence = 0
  | .get eventId => eventId = service.idGenerator appender ∧ known.stored = none
  | .appendLocked event | .commit event => service.Writes requests appender known event
  | .publish event => known.stored = some event

variable (known : Appending Payload)

def Wrote (event : RunEvent Payload) : Except EventError Unit → Appending Payload → Prop
  | .ok _, later => later = { known with stored := some event }
  | .error .unacknowledged, later => later = known ∨ later = { known with stored := some event }
  | .error error, later => error ≠ .bus ∧ later = known

def Learns : (op : EventOp Payload) → Except EventError op.Answer → Appending Payload → Prop
  | .listAfter _ _ _ _, .ok current, later =>
    nextSequence current = current.length + 1 ∧ later = { known with seen := current.length }
  | .listAfter _ _ _ _, .error error, later => error ≠ .bus ∧ later = known
  | .get _, .ok existing, later => existing = none ∧ later = known
  | .get _, .error error, later => error ≠ .bus ∧ later = known
  | .appendLocked event, answer, later | .commit event, answer, later =>
    Wrote known event answer later
  | .publish _, .ok _, later => later = known
  | .publish _, .error error, later => error = .bus ∧ later = known

def contract (requests : Appender → AppendRequest Payload) (appender : Appender) :
  Contract (EventOp Payload) EventOp.Answer EventError (Appending Payload) where
  allowed := service.Admits requests appender
  learns := Learns

def Failed : EventError → Prop
  | .bus => ∃ event, known.stored = some event
  | .unacknowledged => True
  | _ => known.stored = none

section

variable {service : EventService Appender Payload} {requests : Appender → AppendRequest Payload}
  {appender : Appender} {known : Appending Payload} {event : RunEvent Payload} {error : EventError}

theorem failed_of_kept (other : error ≠ .bus)
  (nothing : known.stored = none) : Failed known error := by
  cases error with
  | bus => exact absurd rfl other
  | unacknowledged => trivial
  | _ => exact nothing

variable {later : Appending Payload}

theorem wrote_ok (wrote : Wrote known event (.ok ()) later) : later.stored = some event := by
  have same : later = { known with stored := some event } := wrote
  rw [same]

theorem wrote_error
  (nothing : known.stored = none) (wrote : Wrote known event (.error error) later) :
  error ≠ .bus ∧ Failed later error := by
  cases error with
  | unacknowledged => exact ⟨nofun, trivial⟩
  | _ =>
    obtain ⟨other, same⟩ := wrote
    refine ⟨other, failed_of_kept other ?_⟩
    rw [same]
    exact nothing

variable [DecidableEq Payload]

theorem wp_repository (repository : Repository)
  (writes : service.Writes requests appender known event) :
  (repository.append event).wp (service.contract requests appender)
    (fun later _ => later.stored = some event)
    (fun later error => error ≠ .bus ∧ Failed later error) known := by
  have nothing := writes.2.1
  cases repository with
  | memory =>
    rw [Repository.append, wp_perform]
    refine ⟨writes, ?_, ?_⟩
    · intro _ later learned
      exact wrote_ok learned
    intro error later learned
    exact wrote_error nothing learned
  | postgres =>
    rw [Repository.append, wp_do_perform]
    refine ⟨⟨writes.1.named, nothing⟩, ?_, ?_⟩
    · intro existing later learned
      obtain ⟨absent, same⟩ := learned
      have gone : id existing = none := absent
      rw [gone, same]
      rw [wp_catching, wp_perform]
      refine ⟨writes, ?_, ?_⟩
      · intro _ last wrote
        exact wrote_ok wrote
      intro error last wrote
      have failed := wrote_error nothing wrote
      cases error with
      | integrity => exact ⟨nofun, failed.2⟩
      | _ => exact failed
    intro error later learned
    obtain ⟨other, same⟩ := learned
    rw [same]
    exact ⟨other, failed_of_kept other nothing⟩

theorem wp_store (rounds : Nat) (own : service.Own requests appender event)
  (nothing : known.stored = none) :
  (service.store rounds event).wp (service.contract requests appender)
    (fun later stored => later.stored = some stored ∧ service.Own requests appender stored)
    Failed known := by
  induction rounds generalizing known event with
  | zero => exact nothing
  | succ rounds ih =>
    rw [store, wp_do_perform]
    refine ⟨⟨own.tenant, own.run, rfl⟩, ?_, ?_⟩
    · intro current later learned
      obtain ⟨next, same⟩ := learned
      let sequenced := { event with sequence := nextSequence current }
      have ownNext : service.Own requests appender sequenced := ⟨own.named, own.tenant, own.run⟩
      have writes : service.Writes requests appender later sequenced := by
        rw [same]
        exact ⟨ownNext, nothing, next⟩
      rw [wp_do, wp_catching, wp_bind]
      apply wp_mono (wp_repository service.repository writes)
      · intro last _ stored
        exact ⟨stored, ownNext⟩
      intro last error failed
      cases error with
      | sequenceConflict message => exact ih ownNext failed.2
      | _ => exact failed.2
    intro error later learned
    obtain ⟨other, same⟩ := learned
    rw [same]
    exact failed_of_kept other nothing

theorem wp_append [EmptyCollection Payload] (rounds : Nat) :
  (service.append appender (requests appender) rounds).wp (service.contract requests appender)
    (fun later stored => later.stored = some stored ∧ service.Own requests appender stored)
    Failed {} := by
  unfold append
  split
  · rfl
  rw [wp_do]
  apply wp_mono (wp_store rounds ⟨rfl, rfl, rfl⟩ rfl)
  · intro later event stored
    rw [wp_do_perform]
    refine ⟨stored.1, ?_, ?_⟩
    · intro _ last same
      have kept : last = later := same
      rw [kept]
      exact stored
    intro error last learned
    obtain ⟨failed, same⟩ := learned
    rw [failed, same]
    exact ⟨event, stored.1⟩
  exact fun _ _ => id

end

structure Kept (service : EventService Appender Payload)
    (requests : Appender → AppendRequest Payload) (stores : EventStores Payload)
    (known : Appender → Appending Payload) : Prop where
  counted : ∀ tenantId runId, stores.Counted tenantId runId
  recorded : ∀ appender,
    stores.under (service.idGenerator appender) = (known appender).stored.toList
  seen : ∀ appender, (known appender).seen ≤
    (stores.eventsOf (requests appender).tenantId (requests appender).runId).length

section

variable {service : EventService Appender Payload} {requests : Appender → AppendRequest Payload}
  {stores : EventStores Payload} {known : Appender → Appending Payload} {appender : Appender}
  {event : RunEvent Payload}

theorem kept_publish (event : RunEvent Payload) (kept : Kept service requests stores known) :
  Kept service requests (stores.publish event) known := by
  constructor
  · intro tenantId runId
    unfold EventStores.Counted
    rw [eventsOf_publish]
    exact kept.counted tenantId runId
  · intro other
    rw [EventStores.under, events_publish]
    exact kept.recorded other
  intro other
  rw [eventsOf_publish]
  exact kept.seen other

def Written (stores : EventStores Payload) (event : RunEvent Payload)
  (outcome : Except EventError Unit × EventStores Payload) : Prop :=
  outcome = (.ok (), stores.insert event) ∧
      event.sequence = (stores.eventsOf event.tenantId event.runId).length + 1 ∨
    ∃ error, outcome = (.error error, stores) ∧ error ≠ .bus ∧ error ≠ .unacknowledged

theorem appendLocked_written [DecidableEq Payload] (kept : Kept service requests stores known)
  (writes : service.Writes requests appender (known appender) event) :
  Written stores event (stores.appendLocked event) := by
  have absent : stores.get event.eventId = none := by
    apply EventStores.get_eq_none
    rw [writes.1.named, kept.recorded, writes.2.1]
    rfl
  unfold EventStores.appendLocked
  rw [absent]
  by_cases unexpected :
    event.sequence ≠ (stores.eventsOf event.tenantId event.runId).length + 1
  · rw [if_pos unexpected]
    exact .inr ⟨_, rfl, nofun, nofun⟩
  rw [if_neg unexpected]
  exact .inl ⟨rfl, not_not.mp unexpected⟩

theorem commit_written (kept : Kept service requests stores known)
  (writes : service.Writes requests appender (known appender) event) :
  Written stores event (stores.commit event) := by
  unfold EventStores.commit
  by_cases unique : stores.unique event = true
  · rw [if_pos unique]
    refine .inl ⟨rfl, ?_⟩
    have rows := all_eq_true.mp unique
    have fresh : ∀ row ∈ stores.eventsOf event.tenantId event.runId,
      row.sequence ≠ event.sequence := by
      intro row member same
      obtain ⟨stored, tenant, run⟩ := EventStores.mem_eventsOf.mp member
      have checked := of_decide_eq_true (rows row stored)
      exact checked.2 ⟨tenant, run, same⟩
    have sequenced := writes.2.2
    have beyond := (kept.counted event.tenantId event.runId).beyond (by omega) fresh
    have seen := kept.seen appender
    rw [← writes.1.tenant, ← writes.1.run] at seen
    omega
  rw [if_neg unique]
  exact .inr ⟨_, rfl, nofun, nofun⟩

variable [DecidableEq Appender]

theorem kept_same (appender : Appender) (kept : Kept service requests stores known) :
  Kept service requests stores (update known appender (known appender)) := by
  rw [update_eq_self]
  exact kept

section

variable (kept : Kept service requests stores known)

include kept

theorem kept_seen : Kept service requests stores (update known appender
  { known appender with
    seen := (stores.eventsOf (requests appender).tenantId
      (requests appender).runId).length }) := by
  constructor
  · exact kept.counted
  · intro other
    by_cases same : other = appender
    · rw [same, update_self]
      exact kept.recorded appender
    rw [update_of_ne same]
    exact kept.recorded other
  intro other
  by_cases same : other = appender
  · rw [same, update_self]
  rw [update_of_ne same]
  exact kept.seen other

theorem kept_insert (writes : service.Writes requests appender (known appender) event)
  (next : event.sequence = (stores.eventsOf event.tenantId event.runId).length + 1) :
  Kept service requests (stores.insert event)
    (update known appender { known appender with stored := some event }) := by
  obtain ⟨own, nothing, _⟩ := writes
  constructor
  · intro tenantId runId
    apply EventStores.counted_insert (kept.counted tenantId runId)
    rintro ⟨rfl, rfl⟩
    exact next
  · intro other
    rw [EventStores.under_insert, kept.recorded]
    by_cases same : other = appender
    · rw [same, update_self, nothing, if_pos own.named]
      rfl
    have foreign : event.eventId ≠ service.idGenerator other := by
      rw [own.named]
      exact fun ids => same (service.idGenerator.injective ids).symm
    rw [update_of_ne same, if_neg foreign, append_nil]
  intro other
  have grown : (known other).seen ≤ ((stores.insert event).eventsOf (requests other).tenantId
    (requests other).runId).length := by
    rw [EventStores.eventsOf_insert, length_append]
    have before := kept.seen other
    omega
  by_cases same : other = appender
  · subst other
    rw [update_self]
    exact grown
  rw [update_of_ne same]
  exact grown

theorem settled_write (writes : service.Writes requests appender (known appender) event)
  (fault : Fault) {outcome : Except EventError Unit × EventStores Payload}
  (written : Written stores event outcome) :
  ∃ later, Wrote (known appender) event (stores.settle fault outcome).1 later ∧
    Kept service requests (stores.settle fault outcome).2
    (update known appender later) := by
  have idle := kept_same appender kept
  cases fault with
  | failed => exact ⟨known appender, ⟨nofun, rfl⟩, idle⟩
  | none =>
    rcases written with ⟨rfl, next⟩ | ⟨error, rfl, known_, other⟩
    · exact ⟨_, rfl, kept_insert kept writes next⟩
    refine ⟨known appender, ?_, idle⟩
    cases error with
    | bus => exact absurd rfl known_
    | unacknowledged => exact absurd rfl other
    | _ => exact ⟨nofun, rfl⟩
  | unacknowledged =>
    rcases written with ⟨rfl, next⟩ | ⟨error, rfl, _⟩
    · exact ⟨_, .inr rfl, kept_insert kept writes next⟩
    exact ⟨known appender, .inl rfl, idle⟩

theorem settled_read (fault : Fault) (op : EventOp Payload) (value : op.Answer)
  {told : Appending Payload} (heard : Learns (known appender) op (.ok value) told)
  (tells : Kept service requests stores (update known appender told))
  (refused : ∀ error, error ≠ .bus → Learns (known appender) op (.error error) (known appender)) :
  ∃ later, Learns (known appender) op (stores.settle fault (.ok value, stores)).1 later ∧
    Kept service requests (stores.settle fault (.ok value, stores)).2
    (update known appender later) := by
  cases fault with
  | none => exact ⟨told, heard, tells⟩
  | failed => exact ⟨known appender, refused .storage nofun, kept_same appender kept⟩
  | unacknowledged => exact ⟨known appender, refused .unacknowledged nofun, kept_same appender kept⟩

end

variable [DecidableEq Payload]

theorem answered (kept : Kept service requests stores known) (op : EventOp Payload)
  (fault : Fault) (admits : service.Admits requests appender (known appender) op) :
  ∃ later, Learns (known appender) op (stores.answer fault op).1 later ∧
    Kept service requests (stores.answer fault op).2
    (update known appender later) := by
  cases op with
  | listAfter repository tenantId runId afterSequence =>
    obtain ⟨rfl, rfl, rfl⟩ := admits
    have counted := kept.counted (requests appender).tenantId (requests appender).runId
    refine settled_read kept fault (.listAfter repository _ _ 0) _ ?_ (kept_seen kept)
      (fun _ other => ⟨other, rfl⟩)
    rw [counted.listAfter]
    exact ⟨counted.nextSequence, rfl⟩
  | appendLocked event => exact settled_write kept admits fault (appendLocked_written kept admits)
  | commit event => exact settled_write kept admits fault (commit_written kept admits)
  | get eventId =>
    obtain ⟨named, nothing⟩ := admits
    refine settled_read kept fault (.get eventId) _ ?_ (kept_same appender kept)
      (fun _ other => ⟨other, rfl⟩)
    refine ⟨?_, rfl⟩
    apply EventStores.get_eq_none
    rw [named, kept.recorded, nothing]
    rfl
  | publish event =>
    have published := kept_same appender (kept_publish event kept)
    cases fault with
    | none => exact ⟨known appender, rfl, published⟩
    | failed => exact ⟨known appender, ⟨rfl, rfl⟩, kept_same appender kept⟩
    | unacknowledged => exact ⟨known appender, ⟨rfl, rfl⟩, published⟩

theorem adheres : Pool.Adheres component (service.contract requests)
  (Kept service requests) (fun _ _ _ _ => True) := by
  intro stores known appender op fault kept _ admits
  exact answered kept op fault admits

end

variable [DecidableEq Payload] [DecidableEq Appender] [EmptyCollection Payload]

/-- In every run the sequences of each Run are `1..n`, an append that returned stored its event
and nothing else, and one that raised stored nothing unless it was the bus that failed. -/
theorem appends_ordered (service : EventService Appender Payload)
  (requests : Appender → AppendRequest Payload) (rounds : Appender → Nat)
  (schedule : List (Appender × Fault)) :
  let pool := (service.start requests rounds).run component schedule
  (∀ tenantId runId, pool.state.Counted tenantId runId) ∧
    (∀ appender event, pool.thread appender = .done event → service.Own requests appender event ∧
        pool.state.under (service.idGenerator appender) = [event]) ∧
    ∀ appender error, pool.thread appender = .raised error →
      pool.state.Left (service.idGenerator appender) error := by
  intro pool
  have empty : Kept service requests {} (fun _ => {}) := by
    constructor
    · intro _ _
      rfl
    · intro _
      rfl
    intro _
    exact Nat.zero_le _
  have ready : (service.start requests rounds).Ready (service.contract requests)
    (Kept service requests)
    (fun appender later event => later.stored = some event ∧ service.Own requests appender event)
    (fun _ => Failed) (fun _ => {}) :=
    ⟨empty, fun appender => wp_append (rounds appender)⟩
  obtain ⟨known, kept, threads⟩ := Pool.run_ready adheres ready schedule
    (Pool.along_of_forall (fun _ _ _ _ => trivial) _ schedule)
  refine ⟨kept.counted, ?_, ?_⟩
  · intro appender event returned
    have ended := threads appender
    rw [returned] at ended
    refine ⟨ended.2, ?_⟩
    rw [kept.recorded, ended.1]
    rfl
  intro appender error raised
  have ended := threads appender
  rw [raised] at ended
  have failed : Failed (known appender) error := ended
  unfold EventStores.Left
  rw [kept.recorded]
  cases error with
  | bus =>
    obtain ⟨event, stored⟩ := failed
    exact ⟨event, by rw [stored]; rfl⟩
  | unacknowledged => exact length_toList_le
  | _ =>
    have nothing : (known appender).stored = none := failed
    rw [nothing]
    rfl

theorem raised_append_stores :
  ¬∀ (service : EventService Unit (List String)) (requests : Unit → AppendRequest (List String))
    (rounds : Unit → Nat) (schedule : List (Unit × Fault)) (appender : Unit)
    (error : EventError),
    ((service.start requests rounds).run component schedule).thread appender = .raised error →
    ((service.start requests rounds).run component schedule).state.under
    (service.idGenerator appender) = [] := by
  intro claimed
  let service : EventService Unit (List String) :=
    { repository := .memory
      idGenerator := ⟨fun _ => "event-1", Function.injective_of_subsingleton _⟩
      clock := fun _ => 0
      traceContext := none }
  let request : AppendRequest (List String) :=
    { tenantId := "acme", runId := "run-1", sessionId := "session-1", eventType := "run.started" }
  have nothing := claimed service (fun _ => request) (fun _ => 1)
    [((), .none), ((), .none), ((), .failed)] () .bus rfl
  have stored : (((service.start (fun _ => request) fun _ => 1).run component
    [((), .none), ((), .none), ((), .failed)]).state.under "event-1").length = 1 := rfl
  have under : (((service.start (fun _ => request) fun _ => 1).run component
    [((), .none), ((), .none), ((), .failed)]).state.under "event-1") = [] := nothing
  rw [under] at stored
  cases stored

end EventService

end AgentHarness.EventLog
