import AgentHarness.Agui.Routes

/-!
One event under the live stream and under the replay: when the items that were not delivered are
the same.
-/

namespace AgentHarness.Agui

open Text Text.Json List BaseEvent Coordinates

variable {α : Type}

theorem drop_singleton_eq_iff {item item' : α} {count : Nat} :
  [item].drop count = [item'].drop count ↔ (count = 0 → item = item') := by
  cases count with
  | zero | succ count => simp

theorem drop_framed_eq_iff (opening : List α) {middle middle' : List α}
  {last last' : α} (count : Nat) (same : middle.length = middle'.length) :
  (opening ++ (middle ++ [last])).drop count = (opening ++ (middle' ++ [last'])).drop count ↔
    middle.drop (count - opening.length) = middle'.drop (count - opening.length) ∧
    (count ≤ opening.length + middle.length → last = last') := by
  have ends : (count - opening.length - middle.length = 0 → last = last') ↔
    (count ≤ opening.length + middle.length → last = last') := by
    constructor
    · exact fun given within => given (by omega)
    exact fun given none => given (by omega)
  rw [drop_append, drop_append, drop_append, drop_append, ← same,
    append_cancel_left_eq, ← ends, ← drop_singleton_eq_iff]
  constructor
  · intro equal
    exact append_inj equal (by simp [same])
  rintro ⟨middles, lasts⟩
  rw [middles, lasts]

theorem drop_mapIdx_eq_iff {α β γ : Type} (id : Nat → γ) (sent sent' : α → β)
  (items items' : List α) (count : Nat) :
  (items.mapIdx fun index item => (id index, sent item)).drop count =
    (items'.mapIdx fun index item => (id index, sent' item)).drop count ↔
    (items.map sent).drop count = (items'.map sent').drop count := by
  rw [List.ext_getElem?_iff, List.ext_getElem?_iff]
  apply forall_congr'
  intro index
  simp only [List.getElem?_drop, List.getElem?_mapIdx, List.getElem?_map]
  cases items[count + index]? <;> cases items'[count + index]? <;> simp

theorem append_eq_append_iff_of_le {first first' second second' : List α}
  (firsts : first.length ≤ first'.length) (seconds : second.length ≤ second'.length) :
  first ++ second = first' ++ second' ↔ first = first' ∧ second = second' := by
  constructor
  · intro same
    have lengths := congrArg List.length same
    rw [length_append, length_append] at lengths
    exact append_inj same (by omega)
  rintro ⟨rfl, rfl⟩
  rfl

namespace Python

variable {python : Python} {event : RunEvent} {coordinates live client : Coordinates}

theorem type_ne {named : String} (same : event.type = named) :
  ∀ type, named ≠ type → event.type ≠ type := by
  intro type different
  rw [same]
  exact different

def Unaddressed (items : List BaseEvent) : Prop :=
  ∀ coordinates : Coordinates, items.map coordinates.readdress = items

variable {items others : List BaseEvent}

theorem unaddressed_if {condition : Prop} [Decidable condition]
  (first : Unaddressed items) (second : Unaddressed others) :
  Unaddressed (if condition then items else others) := by
  split
  · exact first
  exact second

theorem unaddressed_append (first : Unaddressed items)
  (second : Unaddressed others) : Unaddressed (items ++ others) := by
  intro coordinates
  rw [map_append, first, second]

theorem unaddressed_activities (activities : List ActivityEvent) :
  Unaddressed (activities.map .activity) := by
  intro coordinates
  rw [map_map]
  exact map_congr_left fun _ _ => rfl

variable (python) in
theorem unaddressed_standard (queued : event.type ≠ "run.queued")
  (succeeded : event.type ≠ "run.succeeded") : Unaddressed (python.mapStandardEvent event) := by
  unfold mapStandardEvent
  rw [if_neg queued, if_neg succeeded]
  repeat' apply unaddressed_if
  all_goals exact fun _ => rfl

variable (python) in
theorem unaddressed_mapped (queued : event.type ≠ "run.queued")
  (succeeded : event.type ≠ "run.succeeded") (text artifact activity : Bool) :
  Unaddressed (python.mapHarnessEvent event text artifact activity) := by
  have nothing : Unaddressed [] := fun _ => rfl
  have standard := unaddressed_standard python queued succeeded
  have timeline := unaddressed_activities (python.activityProjection event)
  apply unaddressed_if
  · exact unaddressed_append (unaddressed_if timeline nothing) (unaddressed_if nothing standard)
  exact unaddressed_append (unaddressed_if nothing standard) (unaddressed_if timeline nothing)

def cardId (python : Python) (event : RunEvent) : String :=
  "harness-artifact-" ++ python.getStr event.payload "artifact_id" event.eventId

def cardRest (python : Python) (event : RunEvent) : List BaseEvent :=
  [.toolCallArgs (cardId python event) (dumps (.object
        (setMember (argumentsOf event.payload artifactFields) "run_id" (.string event.runId)))),
    .toolCallEnd (cardId python event),
    .toolCallResult ("tool-result-" ++ event.eventId) (cardId python event)
      (dumps (.object [("status", .string "ready")]))]

theorem artifactTool_eq : python.artifactTool event =
  .toolCallStart (cardId python event) "harness_present_artifact" (python.messageId event) ::
  cardRest python event := by
  rfl

theorem mapStandardEvent_ready (ready : event.type = "artifact.ready") :
  python.mapStandardEvent event = python.artifactTool event := by
  have subagent : hasPrefix "subagent." event.type ≠ true := by rw [ready]; decide
  have other := type_ne ready
  have neither : ∀ first second : String, event.type ≠ first → event.type ≠ second →
    ¬(event.type = first ∨ event.type = second) := by
    intro first second notFirst notSecond either
    exact either.elim notFirst notSecond
  unfold mapStandardEvent
  rw [if_neg (other _ (by decide)), if_neg (other _ (by decide)), if_neg (by
      rintro (type | type | type)
      · exact other _ (by decide) type
      · exact other _ (by decide) type
      exact other _ (by decide) type),
    if_neg (other _ (by decide)), if_neg (other _ (by decide)), if_neg (other _ (by decide)),
    if_neg (other _ (by decide)), if_neg (other _ (by decide)), if_neg (other _ (by decide)),
    if_neg (neither _ _ (other _ (by decide)) (other _ (by decide))), if_neg subagent,
    if_pos ready]

def beneath (messageId : String) (event : RunEvent) : RunEvent :=
  { event with payload := setMember event.payload "message_id" (.string messageId) }

theorem artifactCard_ready (ready : event.type = "artifact.ready") (messageId : String) :
  python.artifactCard messageId event =
    .toolCallStart (cardId python event) "harness_present_artifact" messageId ::
    cardRest python event := by
  have others : ∀ field ∈ artifactFields, field ≠ "message_id" := by decide
  have kept : argumentsOf (beneath messageId event).payload artifactFields =
    argumentsOf event.payload artifactFields := by
    apply filterMap_congr
    intro field member
    rw [beneath, member?_setMember_other (others field member)]
  have read : python.getStr (beneath messageId event).payload "artifact_id" event.eventId =
    python.getStr event.payload "artifact_id" event.eventId := by
    rw [getStr, getStr, beneath, member?_setMember_other (by decide)]
  have same : cardId python (beneath messageId event) = cardId python event :=
    congrArg (fun id => "harness-artifact-" ++ id) read
  have named : python.messageId (beneath messageId event) = messageId := by
    rw [Python.messageId, getStr, beneath, member?_setMember_self]
    rfl
  have mapped : python.mapHarnessEvent (beneath messageId event) false true false =
    python.artifactTool (beneath messageId event) := by
    have type : (beneath messageId event).type = "artifact.ready" := ready
    unfold mapHarnessEvent
    rw [mapStandardEvent_ready type, type]
    exact append_nil _
  have card : python.artifactCard messageId event =
    python.mapHarnessEvent (beneath messageId event) false true false := rfl
  rw [card, mapped, artifactTool_eq, named, same, cardRest, cardRest, kept, same]
  rfl

def cards (python : Python) (messageId : String) (artifacts : List RunEvent) : List BaseEvent :=
  artifacts.flatMap (python.artifactCard messageId)

variable {artifacts : List RunEvent}

theorem length_cards
  (ready : ∀ event ∈ artifacts, event.type = "artifact.ready") (messageId : String) :
  (cards python messageId artifacts).length = 4 * artifacts.length := by
  induction artifacts with
  | nil => rfl
  | cons event events ih =>
    have later := ih fun other member => ready other (mem_cons_of_mem _ member)
    unfold cards at later ⊢
    rw [flatMap_cons, length_append, later,
      artifactCard_ready (ready event mem_cons_self), length_cons]
    have three : (cardRest python event).length = 3 := rfl
    rw [three, length_cons]
    omega

theorem unaddressed_cards
  (ready : ∀ event ∈ artifacts, event.type = "artifact.ready") (messageId : String) :
  Unaddressed (cards python messageId artifacts) := by
  induction artifacts with
  | nil => exact fun _ => rfl
  | cons event events ih =>
    have later := ih fun other member => ready other (mem_cons_of_mem _ member)
    unfold cards at later ⊢
    rw [flatMap_cons, artifactCard_ready (ready event mem_cons_self)]
    exact unaddressed_append (fun _ => rfl) later

theorem drop_cards_eq_iff
  (ready : ∀ event ∈ artifacts, event.type = "artifact.ready") (messageId messageId' : String)
  (count : Nat) :
  (cards python messageId artifacts).drop count = (cards python messageId' artifacts).drop count ↔
    messageId = messageId' ∨ 4 * artifacts.length < count + 4 := by
  induction artifacts generalizing count with
  | nil => simp [cards]
  | cons event events ih =>
    have later := ih fun other member => ready other (mem_cons_of_mem _ member)
    have unfolded : ∀ messageId, cards python messageId (event :: events) =
      (.toolCallStart (cardId python event) "harness_present_artifact" messageId ::
        cardRest python event) ++ cards python messageId events := by
      intro messageId
      rw [cards, flatMap_cons, artifactCard_ready (ready event mem_cons_self)]
      rfl
    have three : (cardRest python event).length = 3 := rfl
    rw [unfolded, unfolded, length_cons]
    cases count with
    | zero =>
      simp only [drop_zero, cons_append, List.cons.injEq,
        toolCallStart.injEq, true_and, append_cancel_left_eq]
      constructor
      · exact fun both => .inl both.1
      intro either
      rcases either with same | short
      · exact ⟨same, by rw [same]⟩
      omega
    | succ count =>
      rw [cons_append, drop_succ_cons, cons_append, drop_succ_cons,
        drop_append, drop_append, append_cancel_left_eq, later, three]
      by_cases same : messageId = messageId'
      · simp [same]
      simp only [same, false_or]
      omega

theorem activity_of_item {item : ActivityItem} (found : python.activityItem event = some item)
  (queued : event.type ≠ "run.queued") :
  python.activityProjection event =
    [.delta (activityMessageId event.runId) ACTIVITY_TYPE (python.deltaPatch event item)] := by
  rw [activityProjection, found]
  dsimp only
  rw [if_neg queued]

theorem activityItem_run {status : ItemStatus} {title : String}
  (titled : runTitles event.type = some (status, title)) :
  python.activityItem event = some (python.runItem event status title) := by
  have untitled : ∀ type : String, runTitles type = none → event.type ≠ type := by
    intro type none same
    rw [same, none] at titled
    cases titled
  unfold activityItem
  rw [if_neg (untitled _ (by decide)), if_neg (untitled _ (by decide)),
    if_neg (untitled _ (by decide)), if_neg (untitled _ (by decide)),
    if_neg (untitled _ (by decide)), if_neg (untitled _ (by decide)),
    if_neg (untitled _ (by decide)), if_neg (untitled _ (by decide)),
    if_neg (untitled _ (by decide)), titled]

def finishing (type : String) : Bool :=
  ["run.succeeded", "run.failed", "run.rejected", "run.timed_out"].contains type

def closing (python : Python) (event : RunEvent) : BaseEvent :=
  if event.type = "run.succeeded" then .runFinished event.sessionId event.runId
  else
    .runError (python.getStr event.payload "message" event.type)
      (python.getStr event.payload "error_code" (removePrefix "run." event.type))

theorem mem_finishing (finishes : finishing event.type = true) :
  event.type = "run.succeeded" ∨ event.type = "run.failed" ∨ event.type = "run.rejected" ∨
    event.type = "run.timed_out" := by
  simpa [finishing] using finishes

variable (python) in
theorem mapHarnessEvent_finishing (finishes : finishing event.type = true) :
  ∃ item, python.mapHarnessEvent event true false true =
    [.activity (.delta (activityMessageId event.runId) ACTIVITY_TYPE
    (python.deltaPatch event item)), closing python event] := by
  have titled : ∃ status title, runTitles event.type = some (status, title) := by
    rcases mem_finishing finishes with type | type | type | type <;> rw [type] <;>
      exact ⟨_, _, rfl⟩
  have queued : event.type ≠ "run.queued" := by
    rcases mem_finishing finishes with type | type | type | type <;> rw [type] <;> decide
  have standard : python.mapStandardEvent event = [closing python event] := by
    unfold mapStandardEvent closing
    rw [if_neg queued]
    by_cases succeeded : event.type = "run.succeeded"
    · rw [if_pos succeeded, if_pos succeeded]
    rw [if_neg succeeded, if_neg succeeded,
      if_pos ((mem_finishing finishes).resolve_left succeeded)]
  have artifact : (event.type == "artifact.ready") = false := by
    rcases mem_finishing finishes with type | type | type | type <;> rw [type] <;> decide
  obtain ⟨status, title, found⟩ := titled
  refine ⟨python.runItem event status title, ?_⟩
  unfold mapHarnessEvent
  rw [standard, artifact, activity_of_item (activityItem_run found) queued]
  exact if_pos finishes

variable (python) in
theorem projectStreamEvent_finishing (finishes : finishing event.type = true) :
  ∃ item, ∀ runEvents, python.projectStreamEvent event runEvents =
    [.activity (.delta (activityMessageId event.runId) ACTIVITY_TYPE
    (python.deltaPatch event item)), .textMessageEnd (assistantId event.runId)] ++
    (cards python (python.responseMessageId event.runId runEvents) (readyArtifacts runEvents) ++
    [closing python event]) := by
  obtain ⟨item, mapped⟩ := mapHarnessEvent_finishing python finishes
  refine ⟨item, ?_⟩
  intro runEvents
  unfold projectStreamEvent
  rw [mapped]
  rcases mem_finishing finishes with type | type | type | type <;>
    simp [type, terminalArtifactProjection, cards]

variable (python) in
theorem projectStreamEvent_queued (queued : event.type = "run.queued") (runEvents : List RunEvent) :
  python.projectStreamEvent event runEvents =
    .runStarted event.sessionId event.runId :: .textMessageStart (assistantId event.runId) ::
    (python.activityProjection event).map .activity := by
  have standard : python.mapStandardEvent event = [.runStarted event.sessionId event.runId] :=
    if_pos queued
  have mapped : python.mapHarnessEvent event true false true =
    .runStarted event.sessionId event.runId ::
      (python.activityProjection event).map .activity := by
    unfold mapHarnessEvent
    rw [standard, queued]
    rfl
  unfold projectStreamEvent
  rw [mapped]
  exact if_pos queued

variable (python) in
theorem projectStreamEvent_other (queued : event.type ≠ "run.queued")
  (finishes : finishing event.type = false) (runEvents : List RunEvent) :
  python.projectStreamEvent event runEvents = python.projectStreamEvent event [] ∧
    Unaddressed (python.projectStreamEvent event runEvents) := by
  have types : event.type ≠ "run.succeeded" ∧ event.type ≠ "run.failed" ∧
    event.type ≠ "run.rejected" ∧ event.type ≠ "run.timed_out" := by
    simpa [finishing] using finishes
  have failing : ¬(event.type = "run.failed" ∨ event.type = "run.rejected" ∨
    event.type = "run.timed_out") := by
    simp [types]
  have plain := unaddressed_mapped python queued types.1 true false true
  unfold projectStreamEvent
  rw [if_neg queued, if_neg queued, if_neg failing, if_neg failing, if_pos types.1, if_pos types.1]
  refine ⟨rfl, ?_⟩
  exact unaddressed_if (unaddressed_append plain fun _ => rfl) plain

variable (python) in
theorem projectStreamEvent_result (result : event.type = "tool.result")
  (runEvents : List RunEvent) :
  python.projectStreamEvent event runEvents =
    [.toolCallResult ("tool-result-" ++ toString event.sequence)
    (python.getStr event.payload "tool_call_id" "") (dumps (.object event.payload)),
    .activity (.delta (activityMessageId event.runId) ACTIVITY_TYPE
    [.add "/items/-" (python.item (python.resultItem event))])] := by
  have other := type_ne result
  have untitled : runTitles event.type = none := by rw [result]; decide
  have item : python.activityItem event = some (python.resultItem event) := by
    simp [activityItem, result, show runTitles "tool.result" = none by decide]
  have patch : python.deltaPatch event (python.resultItem event) =
    [.add "/items/-" (python.item (python.resultItem event))] := by
    have noRun : hasPrefix "run." event.type = false := by rw [result]; decide
    rw [deltaPatch, noRun, if_neg (other _ (by decide))]
    rfl
  have standard : python.mapStandardEvent event =
    [.toolCallResult ("tool-result-" ++ toString event.sequence)
      (python.getStr event.payload "tool_call_id" "") (dumps (.object event.payload))] := by
    unfold mapStandardEvent
    rw [if_neg (other _ (by decide)), if_neg (other _ (by decide)), if_neg (by
        rintro (type | type | type)
        · exact other _ (by decide) type
        · exact other _ (by decide) type
        exact other _ (by decide) type),
      if_neg (other _ (by decide)), if_neg (other _ (by decide)), if_neg (other _ (by decide)),
      if_neg (other _ (by decide)), if_pos result]
  have mapped : python.mapHarnessEvent event true false true =
    python.mapStandardEvent event ++ (python.activityProjection event).map .activity := by
    unfold mapHarnessEvent
    rw [result]
    rfl
  unfold projectStreamEvent
  rw [mapped, standard, activity_of_item item (other _ (by decide)), patch]
  simp [result]

theorem metadata_result_eq_iff (toolCallId : Option Json)
  (summary summary' preview preview' : Option String) :
  metadata [("tool_call_id", toolCallId), ("result_summary", summary.map .string),
    ("result_preview", preview.map .string)] =
    metadata [("tool_call_id", toolCallId), ("result_summary", summary'.map .string),
    ("result_preview", preview'.map .string)] ↔
    summary = summary' ∧ preview = preview' := by
  have cut : ∀ (head : String × Option Json) (values values' : List (String × Option Json)),
    metadata (head :: values) = metadata (head :: values') ↔ metadata values = metadata values' := by
    intro head values values'
    have split : ∀ values, metadata (head :: values) = metadata [head] ++ metadata values :=
      fun values => List.filterMap_append (l := [head])
    rw [split values, split values', List.append_cancel_left_eq]
  rw [cut]
  cases summary <;> cases summary' <;> cases preview <;> cases preview' <;> simp [metadata]

def HiddenSummary : String := "内部 Skill / 提示词内容已隐藏"

variable (python event) in
theorem resultItem_hidden :
  python.item (python.resultItem { event with payload := hideContent event.payload }) =
    python.item (python.resultItem event) ↔
    python.toolResultSummary event.payload = some HiddenSummary ∧
    python.toolResultPreview event.payload = none := by
  obtain ⟨_, redacted, reason⟩ := member?_hideContent event.payload
  have summary : python.toolResultSummary (hideContent event.payload) = some HiddenSummary := by
    simp [toolResultSummary, isTrue, redacted, getText, reason, text?, HiddenSummary]
  have preview : python.toolResultPreview (hideContent event.payload) = none := by
    simp [toolResultPreview, isTrue, redacted]
  have call : member? (hideContent event.payload) "tool_call_id" =
    member? event.payload "tool_call_id" := by
    unfold hideContent
    rw [member?_setMember_other (by decide), member?_setMember_other (by decide),
      member?_setMember_other (by decide)]
  have failed : isSet (hideContent event.payload) "is_error" = isSet event.payload "is_error" := by
    unfold isSet hideContent
    rw [member?_setMember_other (by decide), member?_setMember_other (by decide),
      member?_setMember_other (by decide)]
  have shown := metadata_result_eq_iff (member? event.payload "tool_call_id")
    (some HiddenSummary) (python.toolResultSummary event.payload) none
    (python.toolResultPreview event.payload)
  have metadatas : (python.resultItem { event with payload := hideContent event.payload }).metadata =
      (python.resultItem event).metadata ↔
        python.toolResultSummary event.payload = some HiddenSummary ∧
          python.toolResultPreview event.payload = none := by
    rw [resultItem, resultItem]
    rw [call, summary, preview]
    exact shown.trans (and_congr eq_comm eq_comm)
  rw [← metadatas]
  constructor
  · intro same
    have read := congrArg (member? · "metadata") (Json.object.inj same)
    simpa [member?] using read
  intro same
  have status : (python.resultItem { event with payload := hideContent event.payload }).status =
      (python.resultItem event).status := by
    simp [resultItem, failed]
  have title : (python.resultItem { event with payload := hideContent event.payload }).title =
      (python.resultItem event).title := by
    simp [resultItem, failed]
  rw [item, item, same, status, title]
  rfl

variable {secured : List String}

theorem redactEvent_other (other : event.type ≠ "tool.result") :
  python.redactEvent secured event = event :=
  if_neg fun both => other both.1

theorem readyArtifacts_redacted (events : List RunEvent) :
  readyArtifacts (python.redactInternalAgentAssetEvents secured events) =
    readyArtifacts events := by
  induction events generalizing secured with
  | nil => rfl
  | cons event events ih =>
    have later := @ih (python.protectCall secured event)
    unfold readyArtifacts at later ⊢
    rw [redactInternalAgentAssetEvents]
    by_cases ready : event.type = "artifact.ready"
    · have same : python.redactEvent secured event = event :=
        redactEvent_other (by rw [ready]; decide)
      rw [same, List.filter_cons_of_pos (by simpa using ready),
        List.filter_cons_of_pos (by simpa using ready), later]
    rw [List.filter_cons_of_neg (by simpa using ready),
      List.filter_cons_of_neg (by simpa using ready), later]

theorem responseMessageId_redacted (runId : String) (events : List RunEvent) :
  python.responseMessageId runId (python.redactInternalAgentAssetEvents secured events) =
    python.responseMessageId runId events := by
  have texts : (python.redactInternalAgentAssetEvents secured events).map python.textMessageId =
    events.map python.textMessageId := by
    induction events generalizing secured with
    | nil => rfl
    | cons event events ih =>
      rw [redactInternalAgentAssetEvents, List.map_cons, List.map_cons, ih]
      by_cases result : event.type = "tool.result"
      · have silent : ∀ event : RunEvent, event.type = "tool.result" →
          python.textMessageId event = none := by
          intro event result
          simp [textMessageId, result]
        rw [silent _ (redactEvent_type.trans result), silent _ result]
      rw [redactEvent_other result]
  have read : ∀ events : List RunEvent, events.reverse.findSome? python.textMessageId =
    (events.map python.textMessageId).reverse.findSome? id := by
    intro events
    rw [← List.map_reverse, List.findSome?_map]
    rfl
  unfold responseMessageId
  rw [read, read, texts]

def callOf (python : Python) (event : RunEvent) : String :=
  python.getStr event.payload "tool_call_id" ""

/-- The items of an event that are left after some have been delivered are the same in the live
stream, which has seen the events before it, and in the replay, which has read those since its
start and looks at those after it as well. -/
structure Alike (python : Python) (live client : Coordinates) (before started : List RunEvent)
    (event : RunEvent) (after : List RunEvent) (delivered : Nat) : Prop where
  opening : event.type = "run.queued" → delivered = 0 → live = client
  finish : event.type = "run.succeeded" →
    delivered ≤ 4 * (readyArtifacts before).length + 2 → live = client
  result : event.type = "tool.result" → python.callOf event ∈ python.securedAfter [] before →
    python.callOf event ∉ python.securedAfter [] started →
      (delivered = 0 → hideContent event.payload = event.payload) ∧
        (delivered = 1 → python.toolResultSummary event.payload = some HiddenSummary ∧
          python.toolResultPreview event.payload = none)
  artifacts : finishing event.type = true → (∀ later ∈ after, later.type ≠ "artifact.ready") ∧
      (python.responseMessageId event.runId before =
          python.responseMessageId event.runId (before ++ event :: after) ∨
        4 * (readyArtifacts before).length < delivered + 2)

variable {seen all : List RunEvent}

theorem frames_eq_iff {first second : RunEvent}
  {delivered : Nat} (sequence : first.sequence = second.sequence)
  (within : delivered ≤ (python.projectStreamEvent first seen).length)
  (lengths : (python.projectStreamEvent first seen).length ≤
    (python.projectStreamEvent second all).length) :
  python.frames live first seen delivered = python.frames client second all delivered ↔
    (python.projectStreamEvent first seen).length =
    (python.projectStreamEvent second all).length ∧
    ((python.projectStreamEvent first seen).map live.readdress).drop delivered =
    ((python.projectStreamEvent second all).map client.readdress).drop delivered := by
  unfold frames
  dsimp only
  by_cases same : (python.projectStreamEvent first seen).length =
    (python.projectStreamEvent second all).length
  · rw [sequence, same, drop_mapIdx_eq_iff
      (eventId second.sequence (python.projectStreamEvent second all).length)]
    simp
  constructor
  · intro equal
    have counted := congrArg List.length equal
    simp only [length_drop, length_mapIdx] at counted
    omega
  exact fun both => absurd both.1 same

variable {before started after : List RunEvent} {delivered : Nat}

variable (python) in
theorem finishing_other (finishes : finishing event.type = true) :
  event.type ≠ "tool.result" ∧ event.type ≠ "run.queued" ∧ event.type ≠ "artifact.ready" ∧
    python.textMessageId event = none := by
  rcases mem_finishing finishes with type | type | type | type <;>
    simp [type, textMessageId]

variable (python before after) in
theorem read_finishing (finishes : finishing event.type = true) :
  readyArtifacts (before ++ [event]) = readyArtifacts before ∧
    readyArtifacts (before ++ event :: after) = readyArtifacts before ++ readyArtifacts after ∧
    python.responseMessageId event.runId (before ++ [event]) =
    python.responseMessageId event.runId before := by
  obtain ⟨_, _, noArtifact, silent⟩ := finishing_other python finishes
  refine ⟨?_, ?_, ?_⟩
  · simp [readyArtifacts, noArtifact]
  · simp [readyArtifacts, noArtifact]
  simp [responseMessageId, silent]

variable {events : List RunEvent}

theorem ready_of_mem : ∀ event ∈ readyArtifacts events, event.type = "artifact.ready" := by
  intro event member
  simpa using (mem_filter.mp member).2

theorem readyArtifacts_nil_iff :
  readyArtifacts events = [] ↔ ∀ event ∈ events, event.type ≠ "artifact.ready" := by
  simp [readyArtifacts]

variable (python before started event after) in
theorem length_projectStreamEvent_le :
  (python.projectStreamEvent (python.redactEvent (python.securedAfter [] before) event)
    (python.redactInternalAgentAssetEvents [] (before ++ [event]))).length ≤
    (python.projectStreamEvent (python.redactEvent (python.securedAfter [] started) event)
    (python.redactInternalAgentAssetEvents [] (before ++ event :: after))).length := by
  by_cases finishes : finishing event.type = true
  · obtain ⟨noResult, _⟩ := finishing_other python finishes
    obtain ⟨item, shape⟩ := projectStreamEvent_finishing python finishes
    obtain ⟨ready, all, _⟩ := read_finishing python before after finishes
    rw [redactEvent_other noResult, redactEvent_other noResult, shape, shape,
      readyArtifacts_redacted, readyArtifacts_redacted, ready, all]
    simp only [length_append]
    rw [length_cards ready_of_mem, length_cards, length_append]
    · omega
    intro event member
    rcases mem_append.mp member with first | second
    · exact ready_of_mem event first
    exact ready_of_mem event second
  by_cases queued : event.type = "run.queued"
  · have noResult : event.type ≠ "tool.result" := by rw [queued]; decide
    rw [redactEvent_other noResult, redactEvent_other noResult,
      projectStreamEvent_queued python queued, projectStreamEvent_queued python queued]
  by_cases result : event.type = "tool.result"
  · rw [projectStreamEvent_result python (redactEvent_type.trans result),
      projectStreamEvent_result python (redactEvent_type.trans result)]
    exact Nat.le_refl _
  rw [redactEvent_other result, redactEvent_other result,
    (projectStreamEvent_other python queued (by simpa using finishes) _).1]
  exact Nat.le_of_eq (congrArg List.length
    (projectStreamEvent_other python queued (by simpa using finishes) _).1.symm)

theorem alike_finishing (finishes : finishing event.type = true)
  (within : delivered ≤ 4 * (readyArtifacts before).length + 3) :
  python.frames live event (python.redactInternalAgentAssetEvents [] (before ++ [event]))
    delivered =
    python.frames client event
    (python.redactInternalAgentAssetEvents [] (before ++ event :: after)) delivered ↔
    Alike python live client before started event after delivered := by
  obtain ⟨noResult, noQueued, _⟩ := finishing_other python finishes
  obtain ⟨item, shape⟩ := projectStreamEvent_finishing python finishes
  obtain ⟨ready, all, named⟩ := read_finishing python before after finishes
  have lengths := length_projectStreamEvent_le python event before started after
  have cardsOf : ∀ event ∈ readyArtifacts before ++ readyArtifacts after,
    event.type = "artifact.ready" := by
    intro event member
    rcases mem_append.mp member with first | second
    · exact ready_of_mem event first
    exact ready_of_mem event second
  rw [redactEvent_other noResult, redactEvent_other noResult] at lengths
  have size : (python.projectStreamEvent event
    (python.redactInternalAgentAssetEvents [] (before ++ [event]))).length =
      4 * (readyArtifacts before).length + 3 := by
    rw [shape, readyArtifacts_redacted, ready, length_append, length_append,
      length_cards ready_of_mem]
    simp
    omega
  have size' : (python.projectStreamEvent event
    (python.redactInternalAgentAssetEvents [] (before ++ event :: after))).length =
      4 * ((readyArtifacts before).length + (readyArtifacts after).length) + 3 := by
    rw [shape, readyArtifacts_redacted, all, length_append, length_append,
      length_cards cardsOf, length_append]
    simp
    omega
  rw [frames_eq_iff rfl (by omega) lengths, size, size']
  have none_iff : 4 * (readyArtifacts before).length + 3 =
    4 * ((readyArtifacts before).length + (readyArtifacts after).length) + 3 ↔
      ∀ later ∈ after, later.type ≠ "artifact.ready" := by
    rw [← readyArtifacts_nil_iff, ← length_eq_zero_iff]
    omega
  rw [none_iff]
  have closes : live.readdress (closing python event) = client.readdress (closing python event) ↔
    (event.type = "run.succeeded" → live = client) := by
    unfold closing
    by_cases succeeded : event.type = "run.succeeded"
    · rw [if_pos succeeded]
      simp only [readdress, runFinished.injEq, succeeded, forall_const]
      constructor
      · rintro ⟨thread, run⟩
        cases live
        cases client
        cases thread
        cases run
        rfl
      rintro rfl
      exact ⟨rfl, rfl⟩
    rw [if_neg succeeded]
    exact ⟨fun _ type => absurd type succeeded, fun _ => rfl⟩
  have rests : (∀ later ∈ after, later.type ≠ "artifact.ready") → (((python.projectStreamEvent event
          (python.redactInternalAgentAssetEvents [] (before ++ [event]))).map
            live.readdress).drop delivered =
        ((python.projectStreamEvent event
          (python.redactInternalAgentAssetEvents [] (before ++ event :: after))).map
            client.readdress).drop delivered ↔
        (python.responseMessageId event.runId before =
          python.responseMessageId event.runId (before ++ event :: after) ∨
          4 * (readyArtifacts before).length < delivered + 2) ∧
        (delivered ≤ 4 * (readyArtifacts before).length + 2 → event.type = "run.succeeded" →
          live = client)) := by
    intro last
    rw [shape, shape, readyArtifacts_redacted, readyArtifacts_redacted, ready, all,
      readyArtifacts_nil_iff.mpr last, append_nil, responseMessageId_redacted,
      responseMessageId_redacted, named, map_append, map_append, map_append,
      map_append, unaddressed_cards ready_of_mem, unaddressed_cards ready_of_mem]
    have opening : ∀ coordinates : Coordinates,
      [BaseEvent.activity (.delta (activityMessageId event.runId) ACTIVITY_TYPE
        (python.deltaPatch event item)), .textMessageEnd (assistantId event.runId)].map
          coordinates.readdress =
        [.activity (.delta (activityMessageId event.runId) ACTIVITY_TYPE
          (python.deltaPatch event item)), .textMessageEnd (assistantId event.runId)] :=
      fun _ => rfl
    rw [opening, opening, map_singleton, map_singleton, drop_framed_eq_iff _ _ (by
      rw [length_cards ready_of_mem, length_cards ready_of_mem]),
      drop_cards_eq_iff ready_of_mem, closes, length_cards ready_of_mem]
    have places : 4 * (readyArtifacts before).length < delivered - 2 + 4 ↔
      4 * (readyArtifacts before).length < delivered + 2 := by
      omega
    have counts : delivered ≤ 2 + 4 * (readyArtifacts before).length ↔
      delivered ≤ 4 * (readyArtifacts before).length + 2 := by
      omega
    exact and_congr (or_congr Iff.rfl places) (imp_congr counts Iff.rfl)
  constructor
  · rintro ⟨last, rest⟩
    obtain ⟨names, same⟩ := (rests last).mp rest
    exact
      { opening := fun queued => absurd queued noQueued
        finish := fun succeeded within => same within succeeded
        result := fun result => absurd result noResult
        artifacts := fun _ => ⟨last, names⟩ }
  intro alike
  obtain ⟨last, names⟩ := alike.artifacts finishes
  exact ⟨last, (rests last).mpr ⟨names, fun within succeeded => alike.finish succeeded within⟩⟩

theorem alike_queued (queued : event.type = "run.queued")
  (lengths : delivered ≤ (python.projectStreamEvent event
    (python.redactInternalAgentAssetEvents [] (before ++ [event]))).length) :
  python.frames live event (python.redactInternalAgentAssetEvents [] (before ++ [event]))
    delivered =
    python.frames client event
    (python.redactInternalAgentAssetEvents [] (before ++ event :: after)) delivered ↔
    Alike python live client before started event after delivered := by
  have shape := projectStreamEvent_queued python queued
  have same := (shape (python.redactInternalAgentAssetEvents [] (before ++ [event]))).trans
    (shape (python.redactInternalAgentAssetEvents [] (before ++ event :: after))).symm
  have plain := unaddressed_activities (python.activityProjection event)
  rw [frames_eq_iff rfl lengths (Nat.le_of_eq (congrArg List.length same)), ← same, shape]
  simp only [map_cons, plain live, plain client, true_and]
  have other := type_ne queued
  have finishes : finishing event.type = false := by rw [queued]; decide
  constructor
  · intro equal
    refine
      { opening := ?_, finish := fun succeeded => absurd succeeded (other _ (by decide))
        result := fun result => absurd result (other _ (by decide))
        artifacts := fun done => by rw [finishes] at done; cases done }
    rintro _ rfl
    have heads := (List.cons.inj equal).1
    simp only [readdress, runStarted.injEq] at heads
    cases live
    cases client
    cases heads.1
    cases heads.2
    rfl
  intro alike
  cases delivered with
  | zero => rw [alike.opening queued rfl]
  | succ count =>
    rw [drop_succ_cons, drop_succ_cons]
    rfl

theorem alike_exposed (result : event.type = "tool.result")
  (hidden : python.callOf event ∈ python.securedAfter [] before)
  (exposed : python.callOf event ∉ python.securedAfter [] started) (within : delivered ≤ 2) :
  python.frames live { event with payload := hideContent event.payload } seen delivered =
    python.frames client event all delivered ↔
    Alike python live client before started event after delivered := by
  have type : ({ event with payload := hideContent event.payload } : RunEvent).type =
      "tool.result" := result
  have shape := projectStreamEvent_result python type seen
  have shape' := projectStreamEvent_result python result all
  rw [frames_eq_iff (by rfl) (by rw [shape]; exact within) (by rw [shape, shape']; rfl), shape,
    shape']
  have other := type_ne result
  have finishes : finishing event.type = false := by rw [result]; decide
  have exact_iff : Alike python live client before started event after delivered ↔
    ((delivered = 0 → hideContent event.payload = event.payload) ∧
      (delivered = 1 → python.toolResultSummary event.payload = some HiddenSummary ∧
        python.toolResultPreview event.payload = none)) := by
    constructor
    · exact fun alike => alike.result result hidden exposed
    intro same
    exact
      { opening := fun queued => absurd queued (other _ (by decide))
        finish := fun succeeded => absurd succeeded (other _ (by decide))
        result := fun _ _ _ => same
        artifacts := fun done => by rw [finishes] at done; cases done }
  rw [exact_iff]
  have card := resultItem_hidden python event
  match delivered, within with
  | 0, _ =>
    simp only [drop_zero, forall_const, Nat.zero_ne_one, false_implies, and_true]
    constructor
    · rintro ⟨_, equal⟩
      have heads := (List.cons.inj equal).1
      simp only [readdress, toolCallResult.injEq] at heads
      have texts := congrArg String.toList heads.2.2
      simp only [dumps, String.toList_ofList] at texts
      exact (render_object_inj (congrArg (fun text => text ++ []) texts)).1
    intro same
    have whole : ({ event with payload := hideContent event.payload } : RunEvent) = event := by
      rw [same]
    rw [whole, same]
    exact ⟨rfl, rfl⟩
  | 1, _ =>
    simp only [Nat.one_ne_zero, false_implies, forall_const, true_and]
    rw [← card]
    constructor
    · rintro ⟨_, equal⟩
      have heads := (List.cons.inj equal).1
      simpa [readdress] using heads
    intro same
    rw [same]
    exact ⟨rfl, by simp [readdress]⟩
  | 2, _ =>
    constructor
    · exact fun _ => ⟨nofun, nofun⟩
    exact fun _ => ⟨rfl, rfl⟩

theorem frames_other (queued : event.type ≠ "run.queued")
  (finishes : finishing event.type = false) (seen all : List RunEvent) :
  python.frames live event seen delivered = python.frames client event all delivered := by
  obtain ⟨shape, plain⟩ := projectStreamEvent_other python queued finishes seen
  obtain ⟨shape', _⟩ := projectStreamEvent_other python queued finishes all
  have sent : ∀ coordinates : Coordinates, ∀ item ∈ python.projectStreamEvent event [],
    coordinates.readdress item = item := by
    intro coordinates item member
    rw [shape] at plain
    have mapped := plain coordinates
    exact map_inj_left.mp (mapped.trans (map_id _).symm) item member
  unfold frames
  dsimp only
  rw [shape, shape']
  congr 1
  apply ext_getElem?
  intro index
  rw [getElem?_mapIdx, getElem?_mapIdx]
  cases found : (python.projectStreamEvent event [])[index]? with
  | none => rfl
  | some item =>
    have member := mem_of_getElem? found
    rw [Option.map_some, Option.map_some, sent live item member, sent client item member]

theorem alike_other (queued : event.type ≠ "run.queued") (finishes : finishing event.type = false)
  (covered : event.type = "tool.result" → python.callOf event ∈ python.securedAfter [] before →
    python.callOf event ∈ python.securedAfter [] started) :
  Alike python live client before started event after delivered where
  opening type := absurd type queued
  finish type := by
    rw [type] at finishes
    exact absurd finishes (by decide)
  result type hidden exposed := absurd (covered type hidden) exposed
  artifacts done := by
    rw [finishes] at done
    cases done

variable (live client event after) in
theorem frames_alike (from_start : ∀ call ∈ python.securedAfter [] started,
    call ∈ python.securedAfter [] before)
  (within : delivered ≤ (python.projectStreamEvent
    (python.redactEvent (python.securedAfter [] before) event)
    (python.redactInternalAgentAssetEvents [] (before ++ [event]))).length) :
  python.frames live (python.redactEvent (python.securedAfter [] before) event)
    (python.redactInternalAgentAssetEvents [] (before ++ [event])) delivered =
    python.frames client (python.redactEvent (python.securedAfter [] started) event)
    (python.redactInternalAgentAssetEvents [] (before ++ event :: after)) delivered ↔
    Alike python live client before started event after delivered := by
  by_cases result : event.type = "tool.result"
  · have other := type_ne result
    have finishes : finishing event.type = false := by rw [result]; decide
    have redacted : ∀ secured : List String, python.redactEvent secured event =
        if python.callOf event ∈ secured then
          { event with payload := hideContent event.payload } else event := by
      intro secured
      have same : python.protectCall secured event = secured :=
        if_neg fun both => other _ (by decide) both.1
      rw [redactEvent, same]
      simp [result, callOf]
    rw [projectStreamEvent_result python (redactEvent_type.trans result)] at within
    by_cases hidden : python.callOf event ∈ python.securedAfter [] before
    · by_cases again : python.callOf event ∈ python.securedAfter [] started
      · rw [redacted, redacted, if_pos hidden, if_pos again]
        have same : ∀ hidden : RunEvent, hidden.type = event.type → python.frames live hidden
                (python.redactInternalAgentAssetEvents [] (before ++ [event])) delivered =
              python.frames client hidden
                (python.redactInternalAgentAssetEvents [] (before ++ event :: after)) delivered := by
          intro hidden type
          rw [← type] at finishes other
          exact frames_other (other _ (by decide)) finishes _ _
        exact iff_of_true (same _ rfl)
          (alike_other (other _ (by decide)) finishes fun _ _ => again)
      rw [redacted, redacted, if_pos hidden, if_neg again]
      exact alike_exposed result hidden again within
    have exposed : python.callOf event ∉ python.securedAfter [] started :=
      fun member => hidden (from_start _ member)
    rw [redacted, redacted, if_neg hidden, if_neg exposed]
    exact iff_of_true (frames_other (other _ (by decide)) finishes _ _)
      (alike_other (other _ (by decide)) finishes fun _ member => absurd member hidden)
  rw [redactEvent_other result] at within
  rw [redactEvent_other result, redactEvent_other result]
  by_cases finishes : finishing event.type = true
  · obtain ⟨item, shape⟩ := projectStreamEvent_finishing python finishes
    obtain ⟨ready, _⟩ := read_finishing python before after finishes
    rw [shape, readyArtifacts_redacted, ready, length_append, length_append,
      length_cards ready_of_mem, length_cons, length_cons, length_cons,
      length_nil] at within
    exact alike_finishing finishes (by omega)
  have plain : finishing event.type = false := by simpa using finishes
  by_cases queued : event.type = "run.queued"
  · exact alike_queued queued within
  exact iff_of_true (frames_other queued plain _ _)
    (alike_other queued plain fun type => absurd type result)

end Python

end AgentHarness.Agui
