import AgentHarness.Agui.Activity

/-!
The activity that a client puts together from the stream, against the one built from the log.
-/

namespace AgentHarness.Agui

open Text Text.Json Option

namespace Python

variable {python : Python} {event first : RunEvent} {item : ActivityItem}

theorem pointer_items : pointer "/items/-" = some ["items", "-"] := by decide

theorem pointer_status : pointer "/status" = some ["status"] := by decide

variable {key : String}

theorem pointer_metric (plain : Unescaped key.toList) :
  pointer ("/metrics/" ++ key) = some ["metrics", key] := by
  have spelled : ("/metrics/" ++ key).toList = '/' :: ("metrics".toList ++ '/' :: key.toList) := by
    rw [String.toList_append]
    rfl
  rw [pointer_slash spelled, referenceTokens_slash _ (by decide), referenceTokens_unescaped plain]
  simp

theorem add_to_items (status : ItemStatus) (items : List Json) (metrics value : Json) :
  PatchOperation.apply (python.activity first status (.array items) metrics)
    (.add "/items/-" value) =
    some (python.activity first status (.array (items ++ [value])) metrics) := by
  simp [PatchOperation.apply, pointer_items, activity, add, member?, setMember]

theorem replace_status (status next : ItemStatus) (items metrics : Json) :
  PatchOperation.apply (python.activity first status items metrics)
    (.replace "/status" (.string next.value)) =
    some (python.activity first next items metrics) := by
  simp [PatchOperation.apply, pointer_status, activity, replace, member?, setMember]

theorem add_metric (status : ItemStatus) (items value : Json) (metrics : Payload)
  (plain : Unescaped key.toList) :
  PatchOperation.apply (python.activity first status items (.object metrics))
    (.add ("/metrics/" ++ key) value) =
    some (python.activity first status items (.object (setMember metrics key value))) := by
  have below : Json.add value ["metrics", key]
    (python.activity first status items (.object metrics)) =
      (Json.add value [key] (.object metrics)).map fun metrics =>
        python.activity first status items metrics := by
    rw [activity, add_below (show member? _ _ = some (.object metrics) by simp [member?])]
    simp [setMember, activity]
  rw [PatchOperation.apply, pointer_metric plain, Option.bind_some, below, add_member,
    Option.map_some]

theorem add_metrics (python : Python) (first : RunEvent) (status : ItemStatus) (items : Json)
  (values : Payload) (plain : ∀ value ∈ values, Unescaped value.1.toList) (metrics : Payload) :
  applyPatch (values.map fun value => .add ("/metrics/" ++ value.1) value.2)
    (python.activity first status items (.object metrics)) =
    some (python.activity first status items (.object (updateMembers metrics values))) := by
  induction values generalizing metrics with
  | nil => rfl
  | cons value values ih =>
    have later := ih (fun other member => plain other (List.mem_cons_of_mem _ member))
      (setMember metrics value.1 value.2)
    rw [List.map_cons, applyPatch, List.foldlM_cons,
      add_metric status items value.2 metrics (plain value List.mem_cons_self)]
    exact later

theorem activityItem_queued (queued : event.type = "run.queued") :
  python.activityItem event = some (python.queuedItem event) :=
  if_pos queued

theorem activityItem_result (result : event.type = "runtime.result") :
  python.activityItem event = some (python.outcomeItem event) := by
  have untitled : runTitles "runtime.result" = none := by decide
  have noSubagent : hasPrefix "subagent." "runtime.result" = false := by decide
  simp [activityItem, result, untitled, noSubagent]

theorem mem_metadata {values : List (String × Option Json)} {value : String × Json}
  (member : value ∈ metadata values) : value.1 ∈ values.map Prod.fst := by
  obtain ⟨given, there, kept⟩ := List.mem_filterMap.mp member
  split at kept
  · cases kept
  · cases kept
  cases kept
  exact List.mem_map_of_mem there

theorem outcomeItem_plain :
  ∀ value ∈ (python.outcomeItem event).metadata, Unescaped value.1.toList := by
  intro value member
  have named := mem_metadata member
  simp only [List.map_cons, List.map_nil, List.mem_cons, List.not_mem_nil, or_false] at named
  rcases named with name | name | name | name | name <;> (rw [name]; decide)

/-- The activity of the Run that begins with `first`, as the events so far fold into it. -/
def shown (python : Python) (first : RunEvent) (folded : Folded) : Json :=
  python.activity first folded.status (.array (folded.items.map python.item))
    (.object folded.metrics)

theorem applyPatch_deltaPatch (folded : Folded) (found : python.activityItem event = some item) :
  applyPatch (python.deltaPatch event item) (python.shown first folded) =
    some (python.shown first (python.foldEvent folded event)) := by
  have added : applyPatch [.add "/items/-" (python.item item)] (python.shown first folded) =
      some (python.shown first { folded with items := folded.items ++ [item] }) := by
    rw [applyPatch, List.foldlM_cons, shown, add_to_items]
    simp [shown]
  by_cases result : event.type = "runtime.result"
  · have own : item = python.outcomeItem event :=
      Option.some.inj (found.symm.trans (activityItem_result result))
    have noRun : hasPrefix "run." event.type = false := by rw [result]; decide
    have metrics := add_metrics python first item.status
      (.array ((folded.items ++ [item]).map python.item)) item.metadata
      (own ▸ outcomeItem_plain) folded.metrics
    rw [deltaPatch, noRun, if_neg Bool.false_ne_true, if_pos result, List.append_nil,
      applyPatch_append, added, Option.bind_some, applyPatch, List.foldlM_cons, shown,
      replace_status]
    refine Eq.trans metrics ?_
    simp [foldEvent, found, result, shown]
  by_cases run : hasPrefix "run." event.type = true
  · rw [deltaPatch, if_pos run, if_neg result, List.append_nil, applyPatch_append, added,
      Option.bind_some, applyPatch, List.foldlM_cons, shown, replace_status]
    simp [foldEvent, found, result, run, shown]
  rw [deltaPatch, if_neg run, if_neg result, List.append_nil, List.append_nil, added]
  simp [foldEvent, found, result, run, shown]

def Shows (python : Python) (first : RunEvent) (folded : Folded)
  (messages : ActivityMessages) : Prop :=
  messages (activityMessageId first.runId) = some (python.shown first folded)

variable {messages : ActivityMessages} {folded : Folded}

theorem shows_event (shows : python.Shows first folded messages) (later : event.type ≠ "run.queued")
  (sameRun : event.runId = first.runId) :
  ∃ messages', receiveAll messages (python.activityProjection event) = some messages' ∧
    python.Shows first (python.foldEvent folded event) messages' := by
  unfold activityProjection
  cases found : python.activityItem event with
  | none =>
    refine ⟨messages, rfl, ?_⟩
    rw [foldEvent, found]
    exact shows
  | some item =>
    dsimp only
    rw [if_neg later, sameRun]
    refine ⟨Function.update messages (activityMessageId first.runId)
      (some (python.shown first (python.foldEvent folded event))), ?_, Function.update_self ..⟩
    rw [receiveAll, List.foldlM_cons, receive, shows, bind_some, applyPatch_deltaPatch folded found]
    rfl

theorem shows_events {events : List RunEvent} (shows : python.Shows first folded messages)
  (later : ∀ event ∈ events, event.type ≠ "run.queued" ∧ event.runId = first.runId) :
  ∃ messages', receiveAll messages (events.flatMap python.activityProjection) = some messages' ∧
    python.Shows first (events.foldl python.foldEvent folded) messages' := by
  induction events generalizing folded messages with
  | nil => exact ⟨messages, rfl, shows⟩
  | cons event events ih =>
    obtain ⟨other, sameRun⟩ := later event List.mem_cons_self
    obtain ⟨next, received, showsNext⟩ := shows_event shows other sameRun
    obtain ⟨last, rest, showsLast⟩ :=
      ih showsNext fun other member => later other (List.mem_cons_of_mem _ member)
    refine ⟨last, ?_, showsLast⟩
    rw [List.flatMap_cons, receiveAll, List.foldlM_append]
    rw [receiveAll] at received rest
    rw [received]
    exact rest

theorem shows_queued (python : Python) (queued : first.type = "run.queued")
  (messages : ActivityMessages) :
  ∃ messages', receiveAll messages (python.activityProjection first) = some messages' ∧
    python.Shows first (python.foldEvent {} first) messages' := by
  have noResult : first.type ≠ "runtime.result" := by rw [queued]; decide
  have run : hasPrefix "run." first.type = true := by rw [queued]; decide
  refine ⟨Function.update messages (activityMessageId first.runId) _, ?_, Function.update_self ..⟩
  rw [activityProjection, activityItem_queued queued]
  dsimp only
  rw [if_pos queued]
  simp [receiveAll, receive, shown, foldEvent, activityItem_queued queued, noResult, run,
    queuedItem]

theorem buildRunActivity_queued {raw events : List RunEvent}
  (redacted : python.redactInternalAgentAssetEvents [] raw = first :: events)
  (queued : first.type = "run.queued") :
  python.buildRunActivity raw =
    some (python.shown first ((first :: events).foldl python.foldEvent {})) := by
  have grows : ∀ (events : List RunEvent) (folded : Folded), folded.items ≠ [] →
    (events.foldl python.foldEvent folded).items ≠ [] := by
    intro events
    induction events with
    | nil => exact fun _ => id
    | cons event events ih =>
      intro folded nonempty
      apply ih
      rw [foldEvent]
      split
      · exact nonempty
      simp
  have nonempty := grows events (python.foldEvent {} first) (by
    simp [foldEvent, activityItem_queued queued])
  have found : ((first :: events).find? fun event => event.type = "run.queued") = some first :=
    List.find?_cons_of_pos (by simp [queued])
  unfold buildRunActivity
  rw [redacted]
  dsimp only
  rw [found, List.foldl_cons, if_neg (by simpa using nonempty)]
  rfl

/-- In a log with one `run.queued`, at its beginning, the stream's patches put the activity of the
log together, and redacting the log once more changes nothing. -/
theorem activity_followed (python : Python) (first : RunEvent) (rest : List RunEvent)
  (queued : first.type = "run.queued")
  (once : ∀ event ∈ rest, event.type ≠ "run.queued" ∧ event.runId = first.runId) :
  ∃ messages, receiveAll (fun _ => none)
    ((python.redactInternalAgentAssetEvents [] (first :: rest)).flatMap
    python.activityProjection) = some messages ∧
    (messages (activityMessageId first.runId)).isSome ∧
    messages (activityMessageId first.runId) =
    python.buildRunActivity (python.redactInternalAgentAssetEvents [] (first :: rest)) ∧
    messages (activityMessageId first.runId) = python.buildRunActivity (first :: rest) := by
  obtain ⟨opening, events, split, same, later⟩ : ∃ opening events,
    python.redactInternalAgentAssetEvents [] (first :: rest) = opening :: events ∧
      (opening.type = "run.queued" ∧ opening.runId = first.runId) ∧
      ∀ event ∈ events, event.type ≠ "run.queued" ∧ event.runId = first.runId :=
    ⟨_, _, rfl, ⟨redactEvent_type.trans queued, redactEvent_runId⟩,
      forall_redacted (fun type runId => type ≠ "run.queued" ∧ runId = first.runId) once⟩
  obtain ⟨started, received, showsFirst⟩ := shows_queued python same.1 fun _ => none
  obtain ⟨messages, followed, shows⟩ := shows_events showsFirst fun event member =>
    ⟨(later event member).1, (later event member).2.trans same.2.symm⟩
  rw [Shows, same.2] at shows
  have again := redactInternalAgentAssetEvents_idempotent python [] (first :: rest)
  rw [split] at again
  refine ⟨messages, ?_, ?_, ?_, ?_⟩
  · rw [split, List.flatMap_cons, receiveAll, List.foldlM_append]
    rw [receiveAll] at received followed
    rw [received]
    exact followed
  · rw [shows, isSome_some]
  · rw [shows, split, buildRunActivity_queued again same.1, List.foldl_cons]
  rw [shows, buildRunActivity_queued split same.1, List.foldl_cons]

end Python

def plainPython : Python :=
  { repr := dumps, dumpsIndented := dumps, lower := id, casefold := id, maskSecrets := id
    isoformat := fun _ => "1970-01-01T00:00:00+00:00" }

def loggedEvent (sequence : Nat) (type : String) (payload : Payload) : RunEvent :=
  { eventId := "event-" ++ toString sequence, runId := "run-1", sessionId := "thread-1"
    tenantId := "tenant-1", sequence, type, timestamp := 0, payload, traceId := none
    spanId := none }

def loggedRead : List RunEvent := [loggedEvent 2 "tool.request"
      [("name", .string "read"), ("tool_call_id", .string "call-1"),
        ("arguments", .object [("file_path", .string "/workspace/claude.md")])],
    loggedEvent 3 "tool.result"
      [("tool_call_id", .string "call-1"), ("content", .string "the instructions")],
    loggedEvent 4 "runtime.result" [("num_turns", natural 2), ("stop_reason", .string "end_turn")],
    loggedEvent 5 "run.succeeded" []]

theorem activity_followed_read : ∃ messages, receiveAll (fun _ => none)
  ((plainPython.redactInternalAgentAssetEvents []
  (loggedEvent 1 "run.queued" [] :: loggedRead)).flatMap
  plainPython.activityProjection) = some messages ∧
  (messages "activity-run-1").isSome ∧
  messages "activity-run-1" = plainPython.buildRunActivity
  (plainPython.redactInternalAgentAssetEvents []
  (loggedEvent 1 "run.queued" [] :: loggedRead)) ∧
  messages "activity-run-1" =
  plainPython.buildRunActivity (loggedEvent 1 "run.queued" [] :: loggedRead) :=
  Python.activity_followed plainPython (loggedEvent 1 "run.queued" []) loggedRead rfl (by decide)

def itemCount : Json → Option Nat
  | .object members => ((member? members "items").bind items?).map List.length
  | _ => none

/-- A second `run.queued` starts the stream's activity anew, and the built one goes on. -/
theorem activity_requeued :
  let log := [loggedEvent 1 "run.queued" [], loggedEvent 2 "run.queued" []]
  plainPython.redactInternalAgentAssetEvents [] log = log ∧ ∀ messages,
      receiveAll (fun _ => none) (log.flatMap plainPython.activityProjection) = some messages →
        messages "activity-run-1" ≠ plainPython.buildRunActivity log := by
  refine ⟨rfl, ?_⟩
  intro messages received same
  have followed : (receiveAll (fun _ => none)
    ([loggedEvent 1 "run.queued" [], loggedEvent 2 "run.queued" []].flatMap
      plainPython.activityProjection)).bind (fun messages =>
        (messages "activity-run-1").bind itemCount) = some 1 := by
    decide +kernel
  have built : (plainPython.buildRunActivity
    [loggedEvent 1 "run.queued" [], loggedEvent 2 "run.queued" []]).bind itemCount = some 2 := by
    decide +kernel
  rw [received, bind_some, same, built] at followed
  cases followed

end AgentHarness.Agui
