import Mathlib.Data.List.Infix
import Mathlib.Logic.Relation

/-!
The verdict on a recorded run, and how far it depends on where the assistant's text is cut.
-/

namespace AgentHarness.Evals

open List

/-- A value of a payload; of one that is no text, its truth and its `str` are read. -/
inductive PayloadValue where
  | text (value : String)
  | other (truthy : Bool) (shown : String)

namespace PayloadValue

/-- `str(value)` of a true value. -/
def shown? : PayloadValue → Option String
  | text value => if value = "" then none else some value
  | other truthy shown => if truthy then some shown else none

def text? : PayloadValue → Option String
  | text value => if value = "" then none else some value
  | other _ _ => none

end PayloadValue

/-- `_event_payload`: what is missing is `None`. -/
structure RunEvent where
  type : String
  payload : String → PayloadValue

structure EvalExpectation (Duration : Type) where
  (terminalStatuses requiredTools forbiddenTools requiredSubagents forbiddenSubagents : List String)
  (minConcurrentSubagents maxConcurrentSubagents : Option Nat)
  outputContains : List String
  approvalRequired : Bool
  maxDurationSeconds : Duration

structure EvalCase (Duration : Type) where
  id : String
  expect : EvalExpectation Duration

structure RecordedRun (Duration : Type) where
  (runId status : String)
  durationSeconds : Duration
  events : List RunEvent

structure EvalCaseResult (Duration : Type) where
  (caseId runId status : String)
  durationSeconds : Duration
  passed : Bool
  (failures tools : List String)
  approvalRequested : Bool
  subagents : List String
  peakConcurrentSubagents : Nat

def requestedTools (events : List RunEvent) : List String :=
  events.filterMap fun event =>
    if event.type = "tool.request" then (event.payload "name").shown? else none

structure Delegations where
  subagents : List String := []
  active : List String := []
  peak : Nat := 0

/-- `payload.get("alias") or payload.get("task_type")`, if it is a text. -/
def RunEvent.alias? (event : RunEvent) : Option String :=
  match (event.payload "alias").shown? with
  | some _ => (event.payload "alias").text?
  | none => (event.payload "task_type").text?

def Delegations.observe (seen : Delegations) (event : RunEvent) : Delegations :=
  if event.type = "subagent.started" then
    let named := match event.alias? with
      | some name => if name ∈ seen.subagents then seen.subagents else seen.subagents ++ [name]
      | none => seen.subagents
    match (event.payload "task_id").text? with
    | some taskId =>
      let active := if taskId ∈ seen.active then seen.active else taskId :: seen.active
      { subagents := named, active, peak := max seen.peak active.length }
    | none => { seen with subagents := named }
  else if event.type = "subagent.completed" ∨ event.type = "subagent.failed" then
    match event.payload "task_id" with
    | .text taskId => { seen with active := seen.active.filter (· ≠ taskId) }
    | .other _ _ => seen
  else seen

def delegations (events : List RunEvent) : Delegations := events.foldl Delegations.observe {}

def outputTexts (events : List RunEvent) : List (List Char) :=
  events.filterMap fun event =>
    if event.type = "message.delta" ∨ event.type = "message.completed" then
      (event.payload "text").shown?.map String.toList
    else none

def recordedOutput (events : List RunEvent) : List Char := ['\n'].intercalate (outputTexts events)

section

variable {Duration : Type} [LT Duration] [DecidableLT Duration]

/-- `seconds` is the text of a duration, with one digit after the point. -/
def evaluateRecordedRun (seconds : Duration → String) (case : EvalCase Duration)
  (run : RecordedRun Duration) : EvalCaseResult Duration :=
  let expect := case.expect
  let tools := requestedTools run.events
  let seen := delegations run.events
  let approvalRequested := run.events.any (·.type = "approval.requested")
  let output := recordedOutput run.events
  let failures :=
    (if run.status ∈ expect.terminalStatuses then [] else ["unexpected status: " ++ run.status]) ++
    ((expect.requiredTools.filter (· ∉ tools)).map ("missing required tool: " ++ ·)) ++
    ((expect.forbiddenTools.filter (· ∈ tools)).map ("forbidden tool used: " ++ ·)) ++
    ((expect.requiredSubagents.filter (· ∉ seen.subagents)).map
      ("missing required subagent: " ++ ·)) ++
    ((expect.forbiddenSubagents.filter (· ∈ seen.subagents)).map
      ("forbidden subagent used: " ++ ·)) ++
    ((expect.minConcurrentSubagents.filter (seen.peak < ·)).toList.map fun least =>
      "subagent peak concurrency below " ++ toString least ++ ": " ++ toString seen.peak) ++
    ((expect.maxConcurrentSubagents.filter (· < seen.peak)).toList.map fun most =>
      "subagent peak concurrency exceeded " ++ toString most ++ ": " ++ toString seen.peak) ++
    ((expect.outputContains.filter (¬ ·.toList <:+: output)).map ("output missing text: " ++ ·)) ++
    (if expect.approvalRequired && !approvalRequested then ["expected an approval request"]
      else []) ++
    (if !expect.approvalRequired && approvalRequested then ["unexpected approval request"]
      else []) ++
    (if expect.maxDurationSeconds < run.durationSeconds then
      ["duration exceeded " ++ seconds expect.maxDurationSeconds ++ "s: " ++
        seconds run.durationSeconds ++ "s"]
      else [])
  { caseId := case.id, runId := run.runId, status := run.status
    durationSeconds := run.durationSeconds, passed := failures.isEmpty, failures, tools
    approvalRequested, subagents := seen.subagents, peakConcurrentSubagents := seen.peak }

def delta (text : String) : RunEvent where
  type := "message.delta"
  payload key := if key = "text" then .text text else .other false "None"

/-- The same log with one cut more in the assistant's text. -/
inductive Cut : List RunEvent → List RunEvent → Prop
  | between (before after : List RunEvent) (first second : String) :
    Cut (before ++ delta (first ++ second) :: after)
      (before ++ delta first :: delta second :: after)

abbrev SameText : List RunEvent → List RunEvent → Prop := Relation.EqvGen Cut

/-- All that the verdict reads of a log, but for the places of the cuts. -/
structure SameReads (events others : List RunEvent) : Prop where
  tools : requestedTools events = requestedTools others
  delegations : delegations events = delegations others
  approval : events.any (·.type = "approval.requested") = others.any (·.type = "approval.requested")
  text : (outputTexts events).flatten = (outputTexts others).flatten

variable {events others : List RunEvent} {text : String}

theorem outputTexts_delta : outputTexts (delta text :: events) =
  (if text = "" then [] else [text.toList]) ++ outputTexts events := by
  by_cases empty : text = "" <;> simp [outputTexts, delta, PayloadValue.shown?, empty]

theorem outputTexts_append :
  outputTexts (events ++ others) = outputTexts events ++ outputTexts others :=
  filterMap_append

theorem Cut.sameReads (cut : Cut events others) : SameReads events others := by
  obtain ⟨before, after, first, second⟩ := cut
  constructor
  · simp [requestedTools, delta]
  · simp [Evals.delegations, Delegations.observe, delta]
  · simp [delta]
  simp only [outputTexts_append, outputTexts_delta]
  by_cases empty : first = "" <;> by_cases blank : second = "" <;> simp [empty, blank]

theorem SameText.sameReads (same : SameText events others) : SameReads events others := by
  induction same with
  | rel _ _ cut => exact cut.sameReads
  | refl _ => exact ⟨rfl, rfl, rfl, rfl⟩
  | symm _ _ _ reads =>
    exact ⟨reads.tools.symm, reads.delegations.symm, reads.approval.symm, reads.text.symm⟩
  | trans _ _ _ _ _ reads next =>
    exact ⟨reads.tools.trans next.tools, reads.delegations.trans next.delegations,
      reads.approval.trans next.approval, reads.text.trans next.text⟩

theorem mem_recordedOutput {char : Char} (letter : char ≠ '\n') :
  char ∈ recordedOutput events ↔ char ∈ (outputTexts events).flatten := by
  unfold recordedOutput
  generalize outputTexts events = texts
  induction texts with
  | nil => simp [List.intercalate]
  | cons text texts ih =>
    cases texts with
    | nil => simp [List.intercalate]
    | cons next texts =>
      rw [intercalate_cons_cons, mem_append, mem_append, ih]
      simp [letter]

variable {seconds : Duration → String} {case : EvalCase Duration} {run : RecordedRun Duration}

theorem evaluate_eq_iff (same : SameReads run.events events) :
  evaluateRecordedRun seconds case { run with events } = evaluateRecordedRun seconds case run ↔
    ∀ text ∈ case.expect.outputContains,
    (text.toList <:+: recordedOutput events ↔ text.toList <:+: recordedOutput run.events) := by
  obtain ⟨tools, delegated, approval, _⟩ := same
  constructor
  · intro equal text expected
    have failures := congrArg EvalCaseResult.failures equal
    simp only [evaluateRecordedRun, ← tools, ← delegated, ← approval, append_cancel_right_eq,
      append_cancel_left_eq] at failures
    have missing := map_injective_iff.mpr
      (fun first second same => by simpa using same) failures
    have listed := congrArg (text ∈ ·) missing
    simpa [expected] using not_congr (iff_of_eq listed)
  intro found
  have missing : case.expect.outputContains.filter (¬ ·.toList <:+: recordedOutput events) =
    case.expect.outputContains.filter (¬ ·.toList <:+: recordedOutput run.events) :=
    filter_congr fun text expected => decide_eq_decide.mpr (not_congr (found text expected))
  simp only [evaluateRecordedRun, ← tools, ← delegated, ← approval, missing]

def Uncuttable (text : String) : Prop := text.length ≤ 1 ∧ text ≠ "\n"

theorem Uncuttable.infix_iff (uncuttable : Uncuttable text)
  (same : (outputTexts events).flatten = (outputTexts others).flatten) :
  text.toList <:+: recordedOutput events ↔ text.toList <:+: recordedOutput others := by
  obtain ⟨short, letter⟩ := uncuttable
  rcases shape : text.toList with _ | ⟨char, _ | ⟨next, rest⟩⟩
  · simp
  · have plain : char ≠ '\n' := by
      rintro rfl
      exact letter (String.toList_inj.mp shape)
    rw [singleton_infix_iff, singleton_infix_iff, mem_recordedOutput plain,
      mem_recordedOutput plain, same]
  rw [← String.length_toList, shape] at short
  simp at short

theorem outputTexts_nil : outputTexts [] = [] := rfl

theorem recordedOutput_one (text : String) : recordedOutput [delta text] = text.toList := by
  rw [recordedOutput, outputTexts_delta, outputTexts_nil]
  by_cases empty : text = "" <;> simp [List.intercalate, empty]

theorem recordedOutput_two {first second : String} (begins : first ≠ "") (goesOn : second ≠ "") :
  recordedOutput [delta first, delta second] = first.toList ++ '\n' :: second.toList := by
  rw [recordedOutput, outputTexts_delta, outputTexts_delta, outputTexts_nil]
  simp [List.intercalate, begins, goesOn]

theorem not_infix_cut {char next : Char} {rest : List Char}
  (oneLine : '\n' ∉ char :: next :: rest) :
  ¬ char :: next :: rest <:+: char :: '\n' :: next :: rest := by
  rw [infix_cons_iff]
  rintro (start | inside)
  · obtain ⟨_, start⟩ := cons_prefix_cons.mp start
    obtain ⟨rfl, _⟩ := cons_prefix_cons.mp start
    simp at oneLine
  have same := inside.eq_of_length (by simp)
  cases same
  simp at oneLine

theorem exists_cut (cuttable : ¬ Uncuttable text) :
  ∃ first second, text.toList <:+: recordedOutput [delta first, delta second] ↔
    ¬ text.toList <:+: recordedOutput [delta (first ++ second)] := by
  by_cases lines : '\n' ∈ text.toList
  · -- the cut stands for the newline, which the whole text lacks
    obtain ⟨before, after, shape⟩ := append_of_mem lines
    refine ⟨String.ofList ('.' :: before), String.ofList (after ++ ['.']), ?_⟩
    have found : text.toList <:+: '.' :: before ++ '\n' :: (after ++ ['.']) :=
      ⟨['.'], ['.'], by rw [shape]; simp⟩
    have missing : ¬ text.toList <:+: '.' :: before ++ (after ++ ['.']) := by
      intro inside
      have fewer := inside.sublist.count_le '\n'
      have dot : ('.' == '\n') = false := by decide
      simp only [shape, count_append, count_cons, count_nil, dot, beq_self_eq_true,
        Bool.false_eq_true, ↓reduceIte] at fewer
      omega
    rw [recordedOutput_one,
      recordedOutput_two (by simp [String.ext_iff]) (by simp [String.ext_iff])]
    simp only [String.toList_append, String.toList_ofList]
    exact iff_of_true found missing
  rcases shape : text.toList with _ | ⟨char, _ | ⟨next, rest⟩⟩
  · exact absurd ⟨by simp [← String.length_toList, shape], by rintro rfl; simp at lines⟩ cuttable
  · exact absurd ⟨by simp [← String.length_toList, shape], by rintro rfl; simp at lines⟩ cuttable
  refine ⟨String.ofList [char], String.ofList (next :: rest), ?_⟩
  rw [recordedOutput_one, recordedOutput_two (by simp [String.ext_iff]) (by simp [String.ext_iff])]
  rw [shape] at lines
  simpa using not_infix_cut lines

/-- The verdict of a case is the same however the assistant's text is cut, as long as no more
than single letters are expected in it. -/
theorem evaluate_sameText_iff (seconds : Duration → String) (case : EvalCase Duration) :
  (∀ (run : RecordedRun Duration) (events : List RunEvent), SameText run.events events →
    evaluateRecordedRun seconds case { run with events } = evaluateRecordedRun seconds case run) ↔
    ∀ text ∈ case.expect.outputContains, Uncuttable text := by
  constructor
  · intro same text expected
    by_contra cuttable
    obtain ⟨first, second, differs⟩ := exists_cut cuttable
    have cut : SameText [delta (first ++ second)] [delta first, delta second] :=
      .rel _ _ (.between [] [] first second)
    let run : RecordedRun Duration :=
      ⟨"", "", case.expect.maxDurationSeconds, [delta (first ++ second)]⟩
    have reads : SameReads run.events _ := cut.sameReads
    have found := (evaluate_eq_iff reads).mp (same run _ cut) text expected
    exact iff_not_self (found.symm.trans differs)
  intro uncuttable run events same
  rw [evaluate_eq_iff (SameText.sameReads same)]
  intro text expected
  exact (uncuttable text expected).infix_iff (SameText.sameReads same).text.symm

end

/-- The report is found in one piece and not in two. -/
theorem evaluate_recut_differs :
  ¬ ∀ (case : EvalCase Nat) (run : RecordedRun Nat) (events : List RunEvent),
    SameText run.events events → evaluateRecordedRun toString case { run with events } =
    evaluateRecordedRun toString case run := by
  intro same
  let case : EvalCase Nat :=
    { id := "report"
      expect := ⟨["succeeded"], [], [], [], [], none, none, ["report"], false, 120⟩ }
  have equal := same case ⟨"run", "succeeded", 1, [delta "report"]⟩ [delta "rep", delta "ort"]
    (.rel _ _ (.between [] [] "rep" "ort"))
  revert equal
  exact fun equal => absurd (congrArg EvalCaseResult.passed equal) (by decide)

end AgentHarness.Evals
