import AgentHarness.Agui.LiveActivity
import AgentHarness.Agui.Resumption

/-!
The live stream cut at an id, and the replay from there.
-/

namespace AgentHarness.Agui

open Text List Python

variable {char : Char} {number : Nat}

theorem isDigit_toDigits (member : char ∈ Nat.toDigits 10 number) : char.isDigit = true :=
  Nat.isDigit_of_mem_toDigits (by decide) (by decide) member

theorem plain_of_isDigit (digit : char.isDigit = true) :
  isSpace char = false ∧ char ≠ ':' ∧ char ≠ '_' ∧ char ≠ '-' ∧ char ≠ '+' := by
  have range : 48 ≤ char.toNat ∧ char.toNat ≤ 57 := by
    simp only [Char.isDigit, Bool.and_eq_true, decide_eq_true_eq, ge_iff_le,
      UInt32.le_iff_toNat_le] at digit
    exact digit
  refine ⟨?_, ?_, ?_, ?_, ?_⟩
  · unfold isSpace
    simp only [Bool.or_eq_false_iff, Bool.and_eq_false_iff, decide_eq_false_iff_not]
    omega
  all_goals
    rintro rfl
    revert digit
    decide

theorem isDecimal_digits {chars : List Char} (digits : ∀ char ∈ chars, char.isDigit = true)
  (nonempty : chars ≠ []) : isDecimal chars = true := by
  induction chars with
  | nil => exact absurd rfl nonempty
  | cons char rest ih =>
    have digit := digits char mem_cons_self
    have others : ∀ other ∈ rest, other.isDigit = true :=
      fun other member => digits other (mem_cons_of_mem _ member)
    cases rest with
    | nil => simpa [isDecimal] using digit
    | cons next rest =>
      have plain := (plain_of_isDigit (others next mem_cons_self)).2.2.1
      have tail := ih others (cons_ne_nil _ _)
      simp [isDecimal, plain, digit, tail]

theorem natural?_toString (number : Nat) : natural? (toString number) = some number := by
  have spelled : (toString number).toList = Nat.toDigits 10 number := by
    simp [Nat.toString_eq_repr, Nat.toList_repr]
  have digits : ∀ char ∈ (toString number).toList, char.isDigit = true := by
    intro char member
    rw [spelled] at member
    exact isDigit_toDigits member
  have decimal : decimal? (toString number).toList = some number := by
    unfold decimal?
    rw [if_pos (isDecimal_digits digits (by rw [spelled]; exact Nat.toDigits_ne_nil)),
      filter_eq_self.mpr (fun char member => by
        simpa using (plain_of_isDigit (digits char member)).2.2.1), spelled,
      Nat.ofDigitChars_toDigits (by decide) (by decide)]
  unfold natural?
  rw [stripSpace_eq_self fun char member => (plain_of_isDigit (digits char member)).1]
  split
  case h_1 chars head =>
      have sign := digits '-' (by rw [head]; exact mem_cons_self)
      exact absurd sign (by decide)
  case h_2 chars head =>
      have sign := digits '+' (by rw [head]; exact mem_cons_self)
      exact absurd sign (by decide)
  case h_3 => exact decimal

theorem toList_toString (number : Nat) : (toString number).toList = Nat.toDigits 10 number := by
  simp [Nat.toString_eq_repr, Nat.toList_repr]

theorem digits_toString (member : char ∈ (toString number).toList) : char.isDigit = true := by
  rw [toList_toString] at member
  exact isDigit_toDigits member

theorem takeWhile_toString (number : Nat) (rest : List Char) :
  ((toString number).toList ++ rest).takeWhile (· ≠ ':') =
    (toString number).toList ++ rest.takeWhile (· ≠ ':') := by
  apply takeWhile_append_of_pos
  intro char member
  simpa using (plain_of_isDigit (digits_toString member)).2.1

theorem cursor_given {text : String} (given : text ≠ "")
  (plain : ∀ char ∈ text.toList, isSpace char = false) :
  projectedEventCursor (some text) = readCursor text.toList := by
  have kept : ((some text).filter (· ≠ "")).getD "0" = text := by
    simp [Option.filter_some, given]
  have stripped := stripSpace_eq_self plain
  calc
    projectedEventCursor (some text) =
      readCursor (stripSpace (((some text).filter (· ≠ "")).getD "0")).toList := rfl
    _ = readCursor text.toList := by rw [kept, stripped]

theorem cursor_sequence (sequence : Nat) :
  projectedEventCursor (some (toString sequence)) = (sequence, 0) := by
  have nonempty : toString sequence ≠ "" := by
    intro empty
    have spelled := toList_toString sequence
    rw [empty] at spelled
    exact Nat.toDigits_ne_nil spelled.symm
  have whole := takeWhile_toString sequence []
  rw [takeWhile_nil, append_nil] at whole
  rw [cursor_given nonempty fun char member => (plain_of_isDigit (digits_toString member)).1]
  simp only [readCursor, whole, String.ofList_toList, natural?_toString, drop_length]

theorem cursor_child (sequence child : Nat) :
  projectedEventCursor (some (toString sequence ++ ":" ++ toString child)) = (sequence, child) := by
  have spelled : (toString sequence ++ ":" ++ toString child).toList =
    (toString sequence).toList ++ ':' :: (toString child).toList := by
    rw [String.toList_append, String.toList_append, append_assoc]
    rfl
  have nonempty : toString sequence ++ ":" ++ toString child ≠ "" := by
    intro empty
    rw [empty] at spelled
    have lengths := congrArg List.length spelled
    simp at lengths
  have plain : ∀ char ∈ (toString sequence ++ ":" ++ toString child).toList,
    isSpace char = false := by
    intro char member
    rw [spelled] at member
    rcases mem_append.mp member with first | second
    · exact (plain_of_isDigit (digits_toString first)).1
    rcases mem_cons.mp second with rfl | last
    · decide
    exact (plain_of_isDigit (digits_toString last)).1
  have start := takeWhile_toString sequence (':' :: (toString child).toList)
  rw [takeWhile_cons_of_neg (by simp), append_nil] at start
  rw [cursor_given nonempty plain, spelled]
  simp only [readCursor, start, String.ofList_toList, natural?_toString, drop_left]

theorem projectedEventCursor_eventId (sequence count index : Nat) :
  projectedEventCursor (some (eventId sequence count index)) =
    (sequence, if count = 1 then 0 else index + 1) := by
  unfold eventId
  split
  · exact cursor_sequence sequence
  exact cursor_child sequence (index + 1)

namespace Python

variable {python : Python} {live client : Coordinates}

theorem protectCall_mono {secured wider : List String} {event : RunEvent}
  (covered : ∀ call ∈ secured, call ∈ wider) :
  ∀ call ∈ python.protectCall secured event, call ∈ python.protectCall wider event := by
  intro call member
  unfold protectCall at member ⊢
  dsimp only at member ⊢
  split at member
  · rename_i protects
    rw [if_pos protects]
    rcases mem_insert_iff.mp member with rfl | earlier
    · exact mem_insert_self
    exact mem_insert_of_mem (covered call earlier)
  rename_i protects
  rw [if_neg protects]
  exact covered call member

theorem securedAfter_snoc (secured : List String) (events : List RunEvent) (event : RunEvent) :
  python.securedAfter secured (events ++ [event]) =
    python.protectCall (python.securedAfter secured events) event := by
  rw [securedAfter, foldl_append]
  rfl

theorem live_cons (before after : List RunEvent) (event : RunEvent) :
  python.live live (python.polled {} before) (event :: after) =
    python.frames live (python.redactEvent (python.securedAfter [] before) event)
    (python.redactInternalAgentAssetEvents [] (before ++ [event])) 0 ++
    python.live live (python.polled {} (before ++ [event])) after := by
  have seen : python.redactInternalAgentAssetEvents [] (before ++ [event]) =
    python.redactInternalAgentAssetEvents [] before ++
      [python.redactEvent (python.securedAfter [] before) event] :=
    redactInternalAgentAssetEvents_append python [] before [event]
  rw [Python.live, polled, polled, seen, securedAfter_snoc]
  rfl

theorem live_append (stream : LiveStream) (events more : List RunEvent) :
  python.live live stream (events ++ more) =
    python.live live stream events ++ python.live live (python.polled stream events) more := by
  induction events generalizing stream with
  | nil =>
    rw [nil_append, Python.live, nil_append, polled, redactInternalAgentAssetEvents, append_nil]
    rfl
  | cons event events ih =>
    rw [cons_append, Python.live, Python.live, ih, append_assoc]
    congr 3
    simp [polled, redactInternalAgentAssetEvents, securedAfter]

/-- The rounds of the live stream send what one pass over their events does, up to the first round
in which the Run ends. -/
theorem livePolls_joined (python : Python) (live : Coordinates) (stream : LiveStream)
  (polls : List (List RunEvent)) : python.livePolls live stream polls =
    python.live live stream (polls.take (polls.findIdx endsRun + 1)).flatten := by
  induction polls generalizing stream with
  | nil => rfl
  | cons events later ih =>
    rw [livePolls, findIdx_cons, take_succ_cons, flatten_cons, live_append]
    by_cases ended : endsRun events = true
    · rw [if_pos ended, ended]
      rfl
    rw [if_neg ended, ih, Bool.eq_false_iff.mpr ended]
    rfl

def replayed (python : Python) (client : Coordinates) (log started : List RunEvent)
  (events : List RunEvent) : List (String × BaseEvent) :=
  (python.redactInternalAgentAssetEvents (python.securedAfter [] started) events).flatMap
    fun event => python.frames client event (python.redactInternalAgentAssetEvents [] log) 0

theorem length_frames (coordinates : Coordinates) (event : RunEvent) (runEvents : List RunEvent)
  (delivered : Nat) : (python.frames coordinates event runEvents delivered).length =
    (python.projectStreamEvent event runEvents).length - delivered := by
  simp [frames]

variable (before started after : List RunEvent)

theorem replayed_cons (event : RunEvent) :
  replayed python client (before ++ event :: after) started (event :: after) =
    python.frames client (python.redactEvent (python.securedAfter [] started) event)
    (python.redactInternalAgentAssetEvents [] (before ++ event :: after)) 0 ++
    replayed python client ((before ++ [event]) ++ after) (started ++ [event]) after := by
  rw [replayed, redactInternalAgentAssetEvents, flatMap_cons, replayed, securedAfter_snoc,
    append_assoc]
  rfl

variable (python live client) in
theorem length_live_le : (python.live live (python.polled {} before) after).length ≤
    (replayed python client (before ++ after) started after).length := by
  induction after generalizing before started with
  | nil => exact Nat.zero_le _
  | cons event after ih =>
    have one := length_projectStreamEvent_le python event before started after
    have rest := ih (before ++ [event]) (started ++ [event])
    rw [live_cons, replayed_cons, length_append, length_append, length_frames, length_frames]
    omega

variable (python live client) in
theorem live_eq_replayed_iff
  (covered : ∀ call ∈ python.securedAfter [] started, call ∈ python.securedAfter [] before) :
  python.live live (python.polled {} before) after =
    replayed python client (before ++ after) started after ↔
    ∀ between later rest, after = between ++ later :: rest →
    Alike python live client (before ++ between) (started ++ between) later rest 0 := by
  induction after generalizing before started with
  | nil => simp [Python.live, replayed, redactInternalAgentAssetEvents]
  | cons event after ih =>
    have one := frames_alike event live client after covered
      (Nat.zero_le (python.projectStreamEvent
        (python.redactEvent (python.securedAfter [] before) event)
          (python.redactInternalAgentAssetEvents [] (before ++ [event]))).length)
    have firsts := length_projectStreamEvent_le python event before started after
    have rests := length_live_le python live client
      (before ++ [event]) (started ++ [event]) after
    have next := ih (before ++ [event]) (started ++ [event]) (by
      rw [securedAfter_snoc, securedAfter_snoc]
      exact protectCall_mono covered)
    rw [live_cons, replayed_cons, append_eq_append_iff_of_le (by
      rw [length_frames, length_frames]
      omega) rests, one, next]
    constructor
    · rintro ⟨here, later⟩ between other rest same
      cases between with
      | nil =>
        cases same
        rw [append_nil, append_nil]
        exact here
      | cons head tail =>
        cases same
        have found := later tail other rest rfl
        rw [append_assoc, append_assoc] at found
        exact found
    intro all
    refine ⟨?_, ?_⟩
    · have here := all [] event after rfl
      rw [append_nil, append_nil] at here
      exact here
    intro between other rest same
    have found := all (event :: between) other rest (by rw [same]; rfl)
    rw [append_assoc, append_assoc]
    exact found

end Python

structure RunLog where
  events : List RunEvent
  ordered : events.Pairwise fun first second => first.sequence < second.sequence
  positive : ∀ event ∈ events, 1 ≤ event.sequence

/-- An item of the live stream: the event it comes from, and its place in the projection. -/
structure Cut (python : Python) (log : RunLog) where
  before : List RunEvent
  event : RunEvent
  after : List RunEvent
  split : log.events = before ++ event :: after
  index : Nat
  within : index < (python.projectStreamEvent
    (python.redactEvent (python.securedAfter [] before) event)
      (python.redactInternalAgentAssetEvents [] (before ++ [event]))).length

namespace Cut

variable {python : Python} {log : RunLog}

def count (cut : Cut python log) : Nat :=
  (python.projectStreamEvent (python.redactEvent (python.securedAfter [] cut.before) cut.event)
    (python.redactInternalAgentAssetEvents [] (cut.before ++ [cut.event]))).length

def id (cut : Cut python log) : String := eventId cut.event.sequence cut.count cut.index

def delivered (cut : Cut python log) (live : Coordinates) : List (String × BaseEvent) :=
  python.live live {} cut.before ++
    (python.frames live (python.redactEvent (python.securedAfter [] cut.before) cut.event)
      (python.redactInternalAgentAssetEvents [] (cut.before ++ [cut.event])) 0).take
        (cut.index + 1)

def reread (cut : Cut python log) : List RunEvent := if cut.count = 1 then [] else [cut.event]

/-- The event of the cut and all events after it have the same left to send on both paths. -/
structure Resumable (cut : Cut python log) (live client : Coordinates) : Prop where
  here : cut.count ≠ 1 →
    Python.Alike python live client cut.before [] cut.event cut.after (cut.index + 1)
  later : ∀ between later rest, cut.after = between ++ later :: rest →
    Python.Alike python live client (cut.before ++ cut.event :: between) (cut.reread ++ between)
      later rest 0

variable (cut : Cut python log) {live client : Coordinates}

theorem sequences : (∀ event ∈ cut.before, event.sequence < cut.event.sequence) ∧
  (∀ event ∈ cut.after, cut.event.sequence < event.sequence) ∧ 1 ≤ cut.event.sequence := by
  have ordered := log.ordered
  rw [cut.split, pairwise_append] at ordered
  refine ⟨?_, ?_, ?_⟩
  · exact fun event member => ordered.2.2 event member cut.event mem_cons_self
  · exact (pairwise_cons.mp ordered.2.1).1
  apply log.positive
  rw [cut.split]
  exact mem_append_right _ mem_cons_self

theorem listAfter_all : listAfter log.events 0 = log.events := by
  apply filter_eq_self.mpr
  intro event member
  exact decide_eq_true (log.positive event member)

theorem listAfter_cursor : listAfter log.events cut.event.sequence = cut.after ∧
  listAfter log.events (cut.event.sequence - 1) = cut.event :: cut.after := by
  obtain ⟨earlier, later, positive⟩ := cut.sequences
  have befores : ∀ bound, cut.event.sequence ≤ bound + 1 →
    cut.before.filter (fun event => bound < event.sequence) = [] := by
    intro bound within
    apply filter_eq_nil_iff.mpr
    intro event member
    have less := earlier event member
    simp only [decide_eq_true_eq]
    omega
  have afters : ∀ bound, bound ≤ cut.event.sequence →
    cut.after.filter (fun event => bound < event.sequence) = cut.after := by
    intro bound within
    apply filter_eq_self.mpr
    intro event member
    have more := later event member
    simp only [decide_eq_true_eq]
    omega
  unfold listAfter
  rw [cut.split, filter_append, filter_append, befores _ (by omega),
    befores _ (by omega), nil_append, nil_append,
    filter_cons_of_neg (by simp), filter_cons_of_pos (by simp; omega),
    afters _ (Nat.le_refl _), afters _ (by omega)]
  exact ⟨rfl, rfl⟩

theorem redacted_later (secured : List String) :
  ∀ event ∈ python.redactInternalAgentAssetEvents secured cut.after,
    event.sequence ≠ cut.event.sequence := by
  have kept : ∀ (events : List RunEvent) (secured : List String),
    (python.redactInternalAgentAssetEvents secured events).map (·.sequence) =
      events.map (·.sequence) := by
    intro events
    induction events with
    | nil => exact fun _ => rfl
    | cons event events ih =>
      intro secured
      rw [Python.redactInternalAgentAssetEvents, map_cons, map_cons, ih]
      congr 1
      unfold redactEvent
      split <;> rfl
  intro event member same
  have there : event.sequence ∈ cut.after.map (·.sequence) := by
    rw [← kept cut.after secured]
    exact mem_map_of_mem member
  obtain ⟨other, later, equal⟩ := mem_map.mp there
  have more := cut.sequences.2.1 other later
  omega

theorem replay_id : python.replay client log.events (some cut.id) =
  (if cut.count = 1 then [] else python.frames client (python.redactEvent [] cut.event)
      (python.redactInternalAgentAssetEvents [] log.events) (cut.index + 1)) ++
    Python.replayed python client log.events cut.reread cut.after := by
  have tail : ∀ (secured : List String) (delivered : Nat),
    ((python.redactInternalAgentAssetEvents secured cut.after).flatMap fun event =>
      python.frames client event (python.redactInternalAgentAssetEvents [] log.events)
        (if event.sequence = cut.event.sequence then delivered else 0)) =
    (python.redactInternalAgentAssetEvents secured cut.after).flatMap fun event =>
      python.frames client event (python.redactInternalAgentAssetEvents [] log.events) 0 := by
    intro secured delivered
    apply flatMap_congr
    intro event member
    rw [if_neg (cut.redacted_later secured event member)]
  obtain ⟨without, with_⟩ := cut.listAfter_cursor
  unfold replay
  rw [id, projectedEventCursor_eventId]
  dsimp only
  rw [listAfter_all]
  unfold reread Python.replayed
  by_cases single : cut.count = 1
  · rw [if_pos single, if_pos single, if_pos single, if_neg (by simp), without, tail]
    rfl
  have sequence : (python.redactEvent [] cut.event).sequence = cut.event.sequence := by
    unfold redactEvent
    split <;> rfl
  rw [if_neg single, if_neg single, if_neg single, if_pos (Nat.succ_ne_zero _), with_,
    Python.redactInternalAgentAssetEvents, flatMap_cons, tail, if_pos sequence]
  rfl

/-- Cut anywhere, the live stream and the replay from there deliver what an uninterrupted stream
does, exactly when every event from the cut on has the same left to send on both paths. -/
theorem replay_continues (python : Python) (log : RunLog) (cut : Cut python log)
  (live client : Coordinates) :
  cut.delivered live ++ python.replay client log.events (some cut.id) =
    python.live live {} log.events ↔
    cut.Resumable live client := by
  have whole : python.live live {} log.events = cut.delivered live ++
    (python.frames live (python.redactEvent (python.securedAfter [] cut.before) cut.event)
      (python.redactInternalAgentAssetEvents [] (cut.before ++ [cut.event])) (cut.index + 1) ++
      python.live live (python.polled {} (cut.before ++ [cut.event])) cut.after) := by
    have rest : ∀ (event : RunEvent) (seen : List RunEvent) (delivered : Nat),
      (python.frames live event seen 0).drop delivered =
        python.frames live event seen delivered := by
      intro event seen delivered
      simp [Python.frames]
    rw [cut.split, Python.live_append, Python.live_cons, delivered, ← rest _ _ (cut.index + 1),
      append_assoc,
      ← append_assoc (List.take _ _), take_append_drop]
  have events : log.events = (cut.before ++ [cut.event]) ++ cut.after := by
    rw [append_assoc]
    exact cut.split
  have lengths := Python.length_live_le python live client
    (cut.before ++ [cut.event]) cut.reread cut.after
  have covered : ∀ call ∈ python.securedAfter [] cut.reread,
    call ∈ python.securedAfter [] (cut.before ++ [cut.event]) := by
    unfold reread
    split
    · exact fun call member => absurd member not_mem_nil
    rw [Python.securedAfter_snoc]
    exact Python.protectCall_mono fun call member => absurd member not_mem_nil
  have after := Python.live_eq_replayed_iff python live client
    (cut.before ++ [cut.event]) cut.reread cut.after covered
  rw [← events] at lengths after
  have laters : (∀ between later rest, cut.after = between ++ later :: rest →
    Python.Alike python live client ((cut.before ++ [cut.event]) ++ between)
      (cut.reread ++ between) later rest 0) ↔
    ∀ between later rest, cut.after = between ++ later :: rest →
      Python.Alike python live client (cut.before ++ cut.event :: between)
        (cut.reread ++ between) later rest 0 := by
    simp
  rw [whole, append_cancel_left_eq, replay_id, eq_comm]
  by_cases single : cut.count = 1
  · have nothing : python.frames live
      (python.redactEvent (python.securedAfter [] cut.before) cut.event)
      (python.redactInternalAgentAssetEvents [] (cut.before ++ [cut.event])) (cut.index + 1) =
        [] := by
      apply eq_nil_of_length_eq_zero
      rw [Python.length_frames]
      have counted : (python.projectStreamEvent
        (python.redactEvent (python.securedAfter [] cut.before) cut.event)
        (python.redactInternalAgentAssetEvents [] (cut.before ++ [cut.event]))).length = 1 :=
        single
      omega
    rw [if_pos single, nothing, nil_append, nil_append, after, laters]
    constructor
    · exact fun later => { here := fun many => absurd single many, later }
    exact fun resumable => resumable.later
  have one := Python.frames_alike cut.event live client cut.after
    (show ∀ call ∈ python.securedAfter [] [], call ∈ python.securedAfter [] cut.before from
      fun call member => absurd member not_mem_nil) cut.within
  have firsts := Python.length_projectStreamEvent_le python cut.event cut.before [] cut.after
  rw [← cut.split] at one firsts
  rw [if_neg single, append_eq_append_iff_of_le (by
    rw [Python.length_frames, Python.length_frames]
    exact Nat.sub_le_sub_right firsts _) lengths, after, laters]
  constructor
  · rintro ⟨here, later⟩
    exact { here := fun _ => one.mp here, later }
  exact fun resumable => ⟨one.mpr (resumable.here single), resumable.later⟩

end Cut

def approvedRead : RunLog where
  events :=
    [loggedEvent 1 "run.queued" [], loggedEvent 2 "tool.request"
        [("name", .string "read"), ("tool_call_id", .string "call-1"),
          ("arguments", .object [("file_path", .string "/workspace/claude.md")])],
      loggedEvent 3 "approval.approved" [("approval_id", .string "approval-1")],
      loggedEvent 4 "tool.result"
        [("tool_call_id", .string "call-1"), ("content", .string "the instructions")]]
  ordered := by decide
  positive := by decide

def approvalCut : Cut plainPython approvedRead where
  before := approvedRead.events.take 2
  event := loggedEvent 3 "approval.approved" [("approval_id", .string "approval-1")]
  after := approvedRead.events.drop 3
  split := rfl
  index := 1
  within := by decide +kernel

def resultContents (frames : List (String × BaseEvent)) : List String :=
  frames.filterMap fun frame =>
    match frame.2 with
    | .toolCallResult _ _ content => some content
    | _ => none

/-- From `3:2` the replay sends the instructions that the live stream had hidden. -/
theorem replay_exposes :
  let browser : Coordinates := { threadId := "thread-1", runId := "request-1" }
  approvalCut.id = "3:2" ∧ approvalCut.delivered browser ++
        plainPython.replay browser approvedRead.events (some approvalCut.id) ≠
      plainPython.live browser {} approvedRead.events := by
  refine ⟨by decide +kernel, ?_⟩
  intro same
  have contents := congrArg resultContents same
  revert contents
  decide +kernel

end AgentHarness.Agui
