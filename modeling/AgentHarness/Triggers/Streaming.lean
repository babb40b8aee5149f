import AgentHarness.Collections.Cursor
import AgentHarness.Triggers.TaskStream

/-!
What the streams of one client hand it, taken together.
-/

namespace AgentHarness.Triggers

open Agui Collections List Python
open TaskStream hiding sequence

inductive Content where
  | text (text : String)
  | artifact (artifactId name url mediaType : String)
  | status (timestamp : Nat)

def StreamFrame.content : StreamFrame → Option (Nat × Content)
  | .task _ _ => none
  | .text sequence sent _ _ => some (sequence, .text sent)
  | .artifact sequence artifactId name url mediaType =>
    some (sequence, .artifact artifactId name url mediaType)
  | .status sequence _ timestamp => some (sequence, .status timestamp)

def contents (frames : List StreamFrame) : List (Nat × Content) :=
  frames.filterMap StreamFrame.content

section

variable (python : Python) (artifactUrl : String → String)

def carried (event : Agui.RunEvent) : Option (Nat × Content) :=
  if event.type = "message.delta" then
    if deltaText python event = "" then none
    else some (event.sequence, .text (deltaText python event))
  else ((eventFrames python artifactUrl .running event).head?).bind StreamFrame.content

abbrev projection (events : List Agui.RunEvent) : List (Nat × Content) :=
  events.filterMap (carried python artifactUrl)

def held (stream : TaskStream) : List (Nat × Content) :=
  stream.pendingText.toList.map fun event => (event.sequence, .text (deltaText python event))

def gathered (stream : TaskStream) : List (Nat × Content) :=
  contents stream.frames ++ held python stream

end

section

variable {python : Python} {artifactUrl : String → String}

theorem contents_append (first second : List StreamFrame) :
  contents (first ++ second) = contents first ++ contents second :=
  filterMap_append

variable {event : Agui.RunEvent}

theorem contents_eventFrames (status : RunStatus) (other : event.type ≠ "message.delta") :
  contents (eventFrames python artifactUrl status event) =
    (carried python artifactUrl event).toList := by
  unfold carried eventFrames
  rw [if_neg other]
  split
  · dsimp only
    split <;> rfl
  split <;> rfl

theorem carried_sequence {item : Nat × Content}
  (carries : carried python artifactUrl event = some item) : item.1 = event.sequence := by
  unfold carried eventFrames at carries
  dsimp only at carries
  split at carries
  · split at carries
    · cases carries
    cases carries
    rfl
  split at carries
  · split at carries
    · cases carries
    cases carries
    rfl
  split at carries
  · cases carries
    rfl
  cases carries

variable (python) in
theorem gathered_flush (stream : TaskStream) (lastChunk : Bool) :
  contents (stream.flush python lastChunk).frames = gathered python stream ∧
    (stream.flush python lastChunk).pendingText = none := by
  unfold flush gathered held
  cases holds : stream.pendingText with
  | none => exact ⟨(append_nil _).symm, holds⟩
  | some event =>
    rw [contents_append]
    exact ⟨rfl, rfl⟩

variable (python artifactUrl) in
theorem gathered_handle (status : RunStatus) (event : Agui.RunEvent) (stream : TaskStream) :
  gathered python (stream.handle python artifactUrl status event) =
    gathered python stream ++ (carried python artifactUrl event).toList ∧
    (stream.handle python artifactUrl status event).sequence = event.sequence := by
  unfold handle
  by_cases delta : event.type = "message.delta"
  · rw [if_pos delta]
    unfold carried
    rw [if_pos delta]
    by_cases empty : deltaText python event = ""
    · rw [if_pos empty, if_pos empty]
      exact ⟨(append_nil _).symm, rfl⟩
    rw [if_neg empty, if_neg empty]
    refine ⟨?_, rfl⟩
    have sent := (gathered_flush python stream false).1
    rw [← sent]
    rfl
  rw [if_neg delta]
  refine ⟨?_, rfl⟩
  have flushed := gathered_flush python stream
    (event.type = "message.completed" || terminalEventTypes.contains event.type)
  rw [← contents_eventFrames status delta, ← flushed.1, ← contents_append]
  unfold gathered held
  rw [flushed.2]
  exact append_nil _

end

def Ends (event : Agui.RunEvent) : Prop := terminalEventTypes.contains event.type = true

section

variable {python : Python} {artifactUrl : String → String}

theorem terminal_handle {status : RunStatus} {event : Agui.RunEvent} {stream : TaskStream}
  (ended : (stream.handle python artifactUrl status event).terminal = true) :
  stream.terminal = true ∨ Ends event ∨ status = .waitingApproval := by
  have flushed (lastChunk : Bool) :
    (stream.flush python lastChunk).terminal = stream.terminal := by
    unfold flush
    split <;> rfl
  unfold handle at ended
  split at ended
  · split at ended
    · exact .inl ended
    rw [← flushed false]
    exact .inl ended
  dsimp only at ended
  rw [flushed] at ended
  simpa [Ends, or_assoc] using ended

variable (python artifactUrl) in
theorem gathered_batch (status : Nat → RunStatus) (events : List Agui.RunEvent)
  (stream : TaskStream) :
  gathered python (events.foldl (fun stream event =>
    stream.handle python artifactUrl (status event.sequence) event) stream) =
    gathered python stream ++ projection python artifactUrl events ∧
    (events.foldl (fun stream event =>
    stream.handle python artifactUrl (status event.sequence) event) stream).sequence =
    cursor (fun event : Agui.RunEvent => event.sequence) stream.sequence events ∧
    ((events.foldl (fun stream event =>
    stream.handle python artifactUrl (status event.sequence) event) stream).terminal = true →
    stream.terminal = true ∨ (∃ event ∈ events, Ends event) ∨
    ∃ sequence, status sequence = .waitingApproval) := by
  induction events generalizing stream with
  | nil => exact ⟨(append_nil _).symm, rfl, .inl⟩
  | cons event events ih =>
    obtain ⟨gathers, moves⟩ := gathered_handle python artifactUrl
      (status event.sequence) event stream
    obtain ⟨collected, moved, ended⟩ := ih
      (stream.handle python artifactUrl (status event.sequence) event)
    rw [foldl_cons]
    refine ⟨?_, ?_, ?_⟩
    · rw [collected, gathers, append_assoc, projection, projection, filterMap_cons]
      cases carried python artifactUrl event <;> rfl
    · rw [moved, moves, cursor_cons]
    intro terminal
    rcases ended terminal with here | ⟨later, member, ends⟩ | waits
    · rcases terminal_handle here with before | ends | waits
      · exact .inl before
      · exact .inr (.inl ⟨event, mem_cons_self, ends⟩)
      exact .inr (.inr ⟨_, waits⟩)
    · exact .inr (.inl ⟨later, mem_cons_of_mem _ member, ends⟩)
    exact .inr (.inr waits)

variable (python artifactUrl) in
structure Follows (log : RunLog) (start : Nat) (stopped : Prop) (stream : TaskStream)
    (read : List Agui.RunEvent) : Prop where
  split : listAfter log.events start = read ++ listAfter log.events stream.sequence
  gathers : gathered python stream = projection python artifactUrl read
  ended : stream.terminal = true → stopped ∨ ∃ event ∈ read, Ends event

variable {log : RunLog} {start : Nat} {stopped : Prop} {stream : TaskStream}
  {read : List Agui.RunEvent}

theorem follows_poll (follows : Follows python artifactUrl log start stopped stream read)
  {poll : Poll} (stored : poll.log <+: log.events)
  (waits : (∃ sequence, poll.status sequence = .waitingApproval) → stopped) :
  ∃ more, Follows python artifactUrl log start stopped
    (stream.poll python artifactUrl poll) (read ++ more) ∧
    ((stream.poll python artifactUrl poll).terminal = false → stream.terminal = false ∧
    ∀ event ∈ poll.log, event ∉ listAfter log.events
    (stream.poll python artifactUrl poll).sequence) := by
  unfold TaskStream.poll
  by_cases terminal : stream.terminal = true
  · rw [if_pos terminal]
    refine ⟨[], by rw [append_nil]; exact follows, fun going => ?_⟩
    rw [terminal] at going
    cases going
  rw [if_neg terminal]
  obtain ⟨later, whole⟩ := stored
  obtain ⟨collected, moved, ended⟩ := gathered_batch python artifactUrl
    poll.status (listAfter poll.log stream.sequence) stream
  have split : listAfter log.events stream.sequence =
    listAfter poll.log stream.sequence ++ listAfter later stream.sequence := by
    rw [← whole]
    exact filter_append _ _
  have ahead := filter_cursor log.ordered split
  refine ⟨listAfter poll.log stream.sequence, ⟨?_, ?_, ?_⟩, ?_⟩
  · rw [moved, follows.split, split, append_assoc]
    exact congrArg (fun rest => read ++ (_ ++ rest)) ahead.symm
  · rw [collected, follows.gathers]
    exact filterMap_append.symm
  · intro now
    rcases ended now with before | ⟨event, member, ends⟩ | waiting
    · exact absurd before terminal
    · exact .inr ⟨event, mem_append_right _ member, ends⟩
    exact .inl (waits waiting)
  refine fun _ => ⟨by simpa using terminal, fun event member => ?_⟩
  rw [moved]
  intro ahead'
  have behind : event ∈ later := by
    have unread := ahead'
    rw [listAfter, ahead] at unread
    exact mem_of_mem_filter unread
  have ordered := log.ordered
  rw [← whole] at ordered
  have less := (pairwise_append.mp ordered).2.2 event member event behind
  omega

theorem follows_polls (polls : List Poll)
  (follows : Follows python artifactUrl log start stopped stream read)
  (stored : ∀ poll ∈ polls, poll.log <+: log.events)
  (waits : ∀ poll ∈ polls, (∃ sequence, poll.status sequence = .waitingApproval) → stopped) :
  ∃ more, Follows python artifactUrl log start stopped
    (polls.foldl (TaskStream.poll python artifactUrl) stream) (read ++ more) ∧
    ((polls.foldl (TaskStream.poll python artifactUrl) stream).terminal = false →
    stream.terminal = false ∧ ∀ poll ∈ polls, ∀ event ∈ poll.log, event ∉ listAfter log.events
    (polls.foldl (TaskStream.poll python artifactUrl) stream).sequence) := by
  induction polls generalizing stream read with
  | nil =>
    refine ⟨[], by rw [append_nil]; exact follows, fun going => ⟨going, ?_⟩⟩
    exact fun _ member => (nomatch member)
  | cons poll polls ih =>
    obtain ⟨storedHere, storedLater⟩ := forall_mem_cons.mp stored
    obtain ⟨waitsHere, waitsLater⟩ := forall_mem_cons.mp waits
    obtain ⟨first, reads, here⟩ := follows_poll follows storedHere waitsHere
    obtain ⟨second, final, there⟩ := ih reads storedLater waitsLater
    refine ⟨first ++ second, by rw [← append_assoc]; exact final, fun going => ?_⟩
    obtain ⟨between, passed⟩ := there going
    obtain ⟨before, behind⟩ := here between
    refine ⟨before, forall_mem_cons.mpr ⟨fun event member ahead => ?_, passed⟩⟩
    have suffixed := reads.split.symm.trans final.split
    rw [append_assoc (read ++ first), append_cancel_left_eq] at suffixed
    refine behind event member ?_
    rw [suffixed]
    exact mem_append_right _ ahead

end

def sentTexts (frames : List StreamFrame) : List String :=
  frames.filterMap fun frame =>
    match frame with
    | .text _ sent _ _ => some sent
    | _ => none

def storedTexts (python : Python) (events : List Agui.RunEvent) : List String :=
  ((events.filter fun event => event.type = "message.delta").map (deltaText python)).filter
    fun text => text ≠ ""

def words : Nat × Content → Option String
  | (_, .text sent) => some sent
  | _ => none

section

variable {python : Python} {artifactUrl : String → String}

theorem sentTexts_eq (frames : List StreamFrame) :
  sentTexts frames = (contents frames).filterMap words := by
  unfold sentTexts contents
  rw [filterMap_filterMap]
  congr 1
  funext frame
  cases frame <;> rfl

theorem carried_words (event : Agui.RunEvent) : (carried python artifactUrl event).bind words =
    if event.type = "message.delta" ∧ deltaText python event ≠ "" then
      some (deltaText python event)
    else none := by
  unfold carried eventFrames
  by_cases delta : event.type = "message.delta"
  · by_cases empty : deltaText python event = ""
    · simp [delta, empty]
    simp [delta, empty, words]
  have silent : ¬ (event.type = "message.delta" ∧ deltaText python event ≠ "") :=
    fun both => delta both.1
  rw [if_neg delta, if_neg silent]
  dsimp only
  split
  · split <;> rfl
  split <;> rfl

variable (python artifactUrl) in
theorem storedTexts_eq (events : List Agui.RunEvent) :
  storedTexts python events = (projection python artifactUrl events).filterMap words := by
  unfold storedTexts
  rw [projection, filterMap_filterMap]
  induction events with
  | nil => rfl
  | cons event events ih =>
    rw [filterMap_cons, carried_words, ← ih]
    by_cases delta : event.type = "message.delta"
    · by_cases empty : deltaText python event = ""
      · simp [delta, empty]
      simp [delta, empty]
    simp [delta]

theorem join_filter (texts : List String) :
  String.join (texts.filter fun text => text ≠ "") = String.join texts := by
  induction texts with
  | nil => rfl
  | cons text texts ih =>
    by_cases empty : text = ""
    · simpa [empty] using ih
    simpa [empty] using ih

theorem join_storedTexts (events : List Agui.RunEvent) :
  String.join (storedTexts python events) = responseText python events := join_filter _

theorem lastId_eq (frames : List StreamFrame) :
  (lastId frames).getD 0 = cursor Prod.fst 0 (contents frames) := by
  have ids : frames.filterMap StreamFrame.id = (contents frames).map Prod.fst := by
    unfold contents
    rw [map_filterMap]
    congr 1
    funext frame
    cases frame <;> rfl
  unfold lastId cursor
  rw [ids, getLast?_map]

theorem eventSequence?_toString (number : Nat) :
  eventSequence? (toString number) = some number := by
  have spelled : (toString number).toList = Nat.toDigits 10 number := by
    simp [Nat.toString_eq_repr, Nat.toList_repr]
  have digits : (Nat.toDigits 10 number).all Char.isDigit = true :=
    all_eq_true.mpr fun char member => Nat.isDigit_of_mem_toDigits (by decide) (by decide) member
  unfold eventSequence?
  rw [spelled, if_pos ⟨Nat.toDigits_ne_nil, digits⟩,
    Nat.ofDigitChars_toDigits (by decide) (by decide)]

section

variable {log : RunLog}

variable (python artifactUrl) in
theorem projection_ascending (log : RunLog) :
  (projection python artifactUrl log.events).Pairwise fun first second => first.1 < second.1 := by
  refine log.ordered.filterMap _ fun first second less item carries other also => ?_
  rw [carried_sequence carries, carried_sequence also]
  exact less

theorem projection_after (events : List Agui.RunEvent) (start : Nat) :
  projection python artifactUrl (listAfter events start) =
    (projection python artifactUrl events).filter fun item => start < item.1 := by
  unfold projection listAfter
  rw [filterMap_filter, filter_filterMap]
  congr 1
  funext event
  cases carries : carried python artifactUrl event with
  | none => simp
  | some item => simp [carried_sequence carries, Option.filter]

theorem projection_before (events : List Agui.RunEvent) (sequence : Nat) :
  projection python artifactUrl (events.filter fun event => event.sequence < sequence) =
    (projection python artifactUrl events).filter fun item => item.1 < sequence := by
  unfold projection
  rw [filterMap_filter, filter_filterMap]
  congr 1
  funext event
  cases carries : carried python artifactUrl event with
  | none => simp
  | some item => simp [carried_sequence carries, Option.filter]

variable {got : List StreamFrame}

theorem projection_split (begins : contents got <+: projection python artifactUrl log.events) :
  projection python artifactUrl log.events = contents got ++
    projection python artifactUrl (listAfter log.events ((lastId got).getD 0)) := by
  obtain ⟨rest, whole⟩ := begins
  have positive : (projection python artifactUrl log.events).filter (fun item => 0 < item.1) =
    projection python artifactUrl log.events := by
    apply filter_eq_self.mpr
    intro item member
    obtain ⟨event, stored, carries⟩ := mem_filterMap.mp member
    have least := log.positive event stored
    simp only [carried_sequence carries, decide_eq_true_eq]
    omega
  rw [projection_after, lastId_eq,
    filter_cursor (projection_ascending _ _ log) (positive.trans whole.symm), whole]

variable (python artifactUrl) in
theorem follows_stream (connection : Connection) (start : Nat) (stopped : Prop)
  (stored : ∀ poll ∈ connection.polls, poll.log <+: log.events)
  (opened : connection.status.isTerminal = true ∨ connection.status = .waitingApproval → stopped)
  (waits : ∀ poll ∈ connection.polls,
    (∃ sequence, poll.status sequence = .waitingApproval) → stopped) :
  ∃ read, Follows python artifactUrl log start stopped
    (streamEvents python artifactUrl connection start) read ∧
    ((streamEvents python artifactUrl connection start).terminal = false →
    ∀ poll ∈ connection.polls, ∀ event ∈ poll.log, event ∉ listAfter log.events
    (streamEvents python artifactUrl connection start).sequence) := by
  obtain ⟨read, follows, passes⟩ := follows_polls connection.polls
    (⟨rfl, rfl, fun ended => .inl (opened (by simpa using ended))⟩ :
      Follows python artifactUrl log start stopped
        { sequence := start
          textStarted := (listAfter connection.prior 0).any fun event =>
            event.type = "message.delta" && event.sequence ≤ start
          terminal := connection.status.isTerminal || connection.status = .waitingApproval
          frames := [.task (taskState connection.status)
            (responseText python (listAfter connection.taskLog 0))] } []) stored waits
  exact ⟨read, follows, fun going => (passes going).2⟩

theorem begins_more (connection : Connection)
  (stored : ∀ poll ∈ connection.polls, poll.log <+: log.events)
  (begins : contents got <+: projection python artifactUrl log.events) :
  contents (got ++ (streamEvents python artifactUrl connection
    ((lastId got).getD 0)).frames.take connection.received) <+:
    projection python artifactUrl log.events := by
  obtain ⟨read, follows, _⟩ := follows_stream python artifactUrl
    connection ((lastId got).getD 0) True stored (fun _ => trivial) fun _ _ _ => trivial
  rw [contents_append, projection_split begins, prefix_append_right_inj, follows.split]
  have cut : contents ((streamEvents python artifactUrl connection
    ((lastId got).getD 0)).frames.take connection.received) <+:
      contents (streamEvents python artifactUrl connection ((lastId got).getD 0)).frames :=
    ( take_prefix _ _).filterMap _
  have sent : contents (streamEvents python artifactUrl connection
    ((lastId got).getD 0)).frames <+: projection python artifactUrl read := by
    rw [← follows.gathers]
    exact prefix_append _ _
  refine (cut.trans sent).trans ?_
  rw [projection, projection, filterMap_append]
  exact prefix_append _ _

variable {runId : String}

theorem subscribeTask_resumed {connection : Connection}
  (active : connection.status.isTerminal = false) :
  subscribeTask python artifactUrl runId connection ((lastId got).map toString) =
    .ok (streamEvents python artifactUrl connection ((lastId got).getD 0)).frames := by
  unfold subscribeTask
  rw [if_neg (by simp [active])]
  cases lastId got with
  | none => rfl
  | some sequence => simp only [Option.map_some, eventSequence?_toString, Option.getD_some]

theorem begins_resume (later : List Connection)
  (stored : ∀ connection ∈ later, ∀ poll ∈ connection.polls, poll.log <+: log.events)
  (begins : contents got <+: projection python artifactUrl log.events) :
  contents (resume python artifactUrl runId later got) <+:
    projection python artifactUrl log.events := by
  induction later generalizing got with
  | nil => exact begins
  | cons connection later ih =>
    obtain ⟨storedHere, storedLater⟩ := forall_mem_cons.mp stored
    rw [resume]
    cases active : connection.status.isTerminal with
    | true =>
      have refused : subscribeTask python artifactUrl runId connection
        ((lastId got).map toString) =
          .error ("Terminal task cannot be subscribed: " ++ runId) := if_pos active
      rw [refused]
      exact ih storedLater begins
    | false =>
      rw [subscribeTask_resumed active]
      exact ih storedLater (begins_more connection storedHere begins)

end

end

section

variable {python : Python} {artifactUrl : String → String} {log : RunLog} {event : Agui.RunEvent}

theorem carried_ends (ends : Ends event) :
  carried python artifactUrl event = some (event.sequence, .status event.timestamp) := by
  have named : event.type = "run.cancelled" ∨ event.type = "run.failed" ∨
    event.type = "run.rejected" ∨ event.type = "run.succeeded" ∨ event.type = "run.timed_out" := by
    simpa [Ends, terminalEventTypes] using ends
  unfold carried eventFrames
  rcases named with named | named | named | named | named <;> rw [named] <;> rfl

theorem status_mem {frames : List StreamFrame} {sequence timestamp : Nat}
  (member : (sequence, Content.status timestamp) ∈ contents frames) :
  ∃ state, .status sequence state timestamp ∈ frames := by
  obtain ⟨frame, among, content⟩ := mem_filterMap.mp member
  cases frame with
  | status sequence state timestamp =>
    cases content
    exact ⟨state, among⟩
  | task state responseText | text sequence sent append lastChunk
  | artifact sequence artifactId name url mediaType => cases content

theorem status_sent {start : Nat} {stopped : Prop} {stream : TaskStream} {read : List Agui.RunEvent}
  (follows : Follows python artifactUrl log start stopped stream read) (member : event ∈ read)
  (ends : Ends event) :
  ∃ state, .status event.sequence state event.timestamp ∈ stream.frames := by
  have carries : (event.sequence, Content.status event.timestamp) ∈ gathered python stream := by
    rw [follows.gathers]
    exact mem_filterMap.mpr ⟨event, member, carried_ends ends⟩
  rcases mem_append.mp carries with sent | waiting
  · exact status_mem sent
  obtain ⟨_, _, text⟩ := mem_map.mp waiting
  have impossible := congrArg Prod.snd text
  cases impossible

theorem status_reached {got : List StreamFrame} (connection : Connection)
  (stored : ∀ poll ∈ connection.polls, poll.log <+: log.events)
  (begins : contents got <+: projection python artifactUrl log.events)
  (active : connection.status.isTerminal = false) (opened : connection.status ≠ .waitingApproval)
  (runs : ∀ poll ∈ connection.polls, ∀ sequence, poll.status sequence ≠ .waitingApproval)
  {poll : Poll} (among : poll ∈ connection.polls) (seen : event ∈ poll.log) (ends : Ends event) :
  ∃ final ∈ log.events, Ends final ∧ ∃ state, .status final.sequence state final.timestamp ∈
    got ++ (streamEvents python artifactUrl connection ((lastId got).getD 0)).frames := by
  obtain ⟨read, follows, passes⟩ := follows_stream python artifactUrl
    connection ((lastId got).getD 0) False stored
    (fun stops => stops.elim (fun terminal => by rw [active] at terminal; cases terminal) opened)
    (fun poll member waits => waits.elim (runs poll member))
  have logged : ∀ found ∈ read, found ∈ log.events := by
    intro found member
    have ahead : found ∈ listAfter log.events ((lastId got).getD 0) := by
      rw [follows.split]
      exact mem_append_left _ member
    exact mem_of_mem_filter ahead
  have from_read : ∀ found ∈ read, Ends found → ∃ final ∈ log.events, Ends final ∧ ∃ state,
    .status final.sequence state final.timestamp ∈
      got ++ (streamEvents python artifactUrl connection ((lastId got).getD 0)).frames := by
    intro found member finishes
    obtain ⟨state, sent⟩ := status_sent follows member finishes
    exact ⟨found, logged found member, finishes, state, mem_append_right _ sent⟩
  cases terminal : (streamEvents python artifactUrl connection ((lastId got).getD 0)).terminal with
  | true =>
    rcases follows.ended terminal with impossible | ⟨found, member, finishes⟩
    · exact impossible.elim
    exact from_read found member finishes
  | false =>
    have behind := passes terminal poll among event seen
    have inLog : event ∈ log.events := (stored poll among).subset seen
    by_cases ahead : (lastId got).getD 0 < event.sequence
    · have unread : event ∈ listAfter log.events ((lastId got).getD 0) :=
        mem_filter.mpr ⟨inLog, by simpa using ahead⟩
      rw [follows.split] at unread
      rcases mem_append.mp unread with member | left
      · exact from_read event member ends
      exact absurd left behind
    have carries : (event.sequence, Content.status event.timestamp) ∈
      projection python artifactUrl log.events :=
      mem_filterMap.mpr ⟨event, inLog, carried_ends ends⟩
    rw [projection_split begins] at carries
    rcases mem_append.mp carries with sent | later
    · obtain ⟨state, among⟩ := status_mem sent
      exact ⟨event, inLog, ends, state, mem_append_left _ among⟩
    rw [projection_after] at later
    have less := (mem_filter.mp later).2
    exact absurd (by simpa using less) ahead

theorem resume_append {runId : String} (first second : List Connection) (got : List StreamFrame) :
  resume python artifactUrl runId (first ++ second) got =
    resume python artifactUrl runId second (resume python artifactUrl runId first got) := by
  induction first generalizing got with
  | nil => rfl
  | cons connection first ih =>
    rw [cons_append, resume, ih]
    rfl

variable {later : List Connection}

variable (python artifactUrl) in
theorem begins_receive (runId : String) {first : Connection}
  (stored : ∀ connection ∈ first :: later, ∀ poll ∈ connection.polls, poll.log <+: log.events) :
  contents (receive python artifactUrl runId first later) <+:
    projection python artifactUrl log.events := by
  obtain ⟨storedFirst, storedLater⟩ := forall_mem_cons.mp stored
  have nothing : contents [] <+: projection python artifactUrl log.events := nil_prefix
  exact begins_resume later storedLater (begins_more first storedFirst nothing)

variable (python artifactUrl) in
theorem receive_last (runId : String) {first last : Connection}
  (stored : ∀ connection ∈ first :: later, ∀ poll ∈ connection.polls, poll.log <+: log.events)
  (final : (first :: later).getLast? = some last) (active : last.status.isTerminal = false) :
  ∃ got, contents got <+: projection python artifactUrl log.events ∧
    receive python artifactUrl runId first later = got ++
    (streamEvents python artifactUrl last ((lastId got).getD 0)).frames.take last.received := by
  cases later using List.reverseRecOn with
  | nil =>
    cases final
    exact ⟨[], nil_prefix, rfl⟩
  | append_singleton later connection =>
    have same : connection = last := by
      rw [← cons_append, getLast?_concat] at final
      exact Option.some.inj final
    subst same
    refine ⟨receive python artifactUrl runId first later,
      begins_receive _ _ _ fun other member => ?_, ?_⟩
    · apply stored other
      rw [← cons_append]
      exact mem_append_left _ member
    rw [receive, resume_append, resume, resume, subscribeTask_resumed active]
    rfl

variable (python artifactUrl) in
/-- However often a client comes back, it gets the texts of the deltas in their order, each one
once.  Before a status it has got all the texts that are stored before it, so before the final one
the whole response; and a connection that is neither cut nor stopped reaches the final status. -/
theorem texts_streamed (runId : String) (log : RunLog) (first : Connection)
  (later : List Connection)
  (stored : ∀ connection ∈ first :: later, ∀ poll ∈ connection.polls, poll.log <+: log.events) :
  sentTexts (receive python artifactUrl runId first later) <+: storedTexts python log.events ∧
    (∀ before sequence state timestamp after, receive python artifactUrl runId first later =
    before ++ .status sequence state timestamp :: after →
    String.join (sentTexts before) =
    responseText python (log.events.filter fun event => event.sequence < sequence)) ∧
    ∀ last, (first :: later).getLast? = some last → last.status.isTerminal = false →
    last.status ≠ .waitingApproval →
    (∀ start, (streamEvents python artifactUrl last start).frames.length ≤ last.received) →
    (∀ poll ∈ last.polls, ∀ sequence, poll.status sequence ≠ .waitingApproval) →
    (∃ poll ∈ last.polls, ∃ event ∈ poll.log, Ends event) →
    ∃ final ∈ log.events, Ends final ∧ ∃ state, .status final.sequence state final.timestamp ∈
    receive python artifactUrl runId first later := by
  have begins := begins_receive python artifactUrl runId stored
  refine ⟨?_, ?_, ?_⟩
  · rw [sentTexts_eq, storedTexts_eq python artifactUrl]
    exact begins.filterMap _
  · intro before sequence state timestamp after split
    rw [split, contents_append] at begins
    obtain ⟨rest, whole⟩ := begins
    have parted : projection python artifactUrl log.events =
      contents before ++ (sequence, .status timestamp) :: (contents after ++ rest) := by
      rw [← whole, append_assoc]
      rfl
    have ascending := projection_ascending python artifactUrl log
    rw [parted] at ascending
    rw [← join_storedTexts, storedTexts_eq python artifactUrl, projection_before, parted,
      filter_before ascending, sentTexts_eq]
  rintro last final active opened uncut runs ⟨poll, among, event, seen, ends⟩
  obtain ⟨got, begun, received⟩ := receive_last python artifactUrl runId stored final active
  rw [received, take_of_length_le (uncut _)]
  exact status_reached last (stored last (mem_of_getLast? final)) begun active opened runs
    among seen ends

end

def answered : RunLog where
  events :=
    [loggedEvent 1 "run.running" [], loggedEvent 2 "message.delta" [("text", .string "Good ")],
      loggedEvent 3 "message.delta" [("text", .string "morning.")],
      loggedEvent 4 "run.succeeded" []]
  ordered := by decide
  positive := by decide

def dropped : Connection where
  status := .queued
  taskLog := []
  prior := []
  polls := [{ log := answered.events.take 3, status := fun _ => .running }]
  received := 2

def reopened (status : RunStatus) : Connection where
  status
  taskLog := answered.events.take 3
  prior := answered.events.take 3
  polls := [{ log := answered.events.take 3, status := fun _ => .running },
    { log := answered.events, status := fun _ => .succeeded }]
  received := 10

def fileUrl (artifactId : String) : String := "/artifacts/" ++ artifactId ++ "/content"

theorem reopened_stored (status : RunStatus) :
  ∀ connection ∈ [dropped, reopened status], ∀ poll ∈ connection.polls,
    poll.log <+: answered.events := by
  intro connection member poll among
  simp only [mem_cons, not_mem_nil, or_false] at member
  rcases member with rfl | rfl
  · rw [mem_singleton.mp among]
    exact take_prefix 3 _
  simp only [reopened, mem_cons, not_mem_nil, or_false] at among
  rcases among with rfl | rfl
  · exact take_prefix 3 _
  exact prefix_refl _

theorem texts_streamed_reopened :
  String.join (sentTexts ((receive plainPython fileUrl "run-1" dropped
    [reopened .running]).take 5)) = "Good morning." := by
  have whole := (texts_streamed plainPython fileUrl "run-1" answered dropped [reopened .running]
    (reopened_stored .running)).2.1
      ((receive plainPython fileUrl "run-1" dropped [reopened .running]).take 5) 4
      "TASK_STATE_COMPLETED" 0 [] (by decide +kernel)
  rw [whole]
  decide +kernel

/-- The Run is over when the client comes back: the response never reaches it as an update. -/
theorem texts_missed : (∀ connection ∈ [dropped, reopened .succeeded], ∀ poll ∈ connection.polls,
  poll.log <+: answered.events) ∧
  responseText plainPython (answered.events.filter fun event => event.sequence < 4) =
  "Good morning." ∧
  String.join (sentTexts (receive plainPython fileUrl "run-1" dropped
  [reopened .succeeded])) = "" := by
  refine ⟨reopened_stored .succeeded, ?_⟩
  decide +kernel

end AgentHarness.Triggers
