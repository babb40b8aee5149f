import AgentHarness.Agui.Activity

/-!
The texts of a model that reach the event log, in one block or in the deltas of a stream.
-/

namespace AgentHarness.Runtime.MessageMapper

open Agui Text List

inductive Block
  | text (text : String)
  | toolUse (id name : String) (input : Json)
  | toolResult (toolUseId : String) (content : Json) (isError : Bool)

structure AssistantMessage where
  parentToolUseId : Option String := none
  content : List Block

/-- `textDelta` is the text of a delta of the type `text_delta`. -/
structure StreamEvent where
  parentToolUseId : Option String := none
  type : Option String := none
  textDelta : Option String := none

inductive RuntimeEvent
  | messageStart
  | messageCompleted
  | messageDelta (text : String)
  | subagentDelta (parentToolUseId text : String)
  | toolRequest (toolCallId name : String) (arguments : Json)
  | toolResult (toolCallId : String) (content : Json) (isError : Bool)

def RuntimeEvent.deltaText : RuntimeEvent → String
  | .messageDelta text | .subagentDelta _ text => text
  | _ => ""

variable (python : Python)

def safeToolResultContent (content : Json) : Json :=
  let rendered := python.lower (python.repr content)
  if occursIn "tool result is internal metadata" rendered ∧
      (occursIn "agentid" rendered ∨ occursIn "output_file" rendered) then
    .string "[Internal tool metadata omitted]"
  else content

def textEvent (parentToolUseId : Option String) (text : String) : RuntimeEvent :=
  match parentToolUseId with
  | some parent => .subagentDelta parent (python.safeModelText text)
  | none => .messageDelta (python.safeModelText text)

def mapBlock (parentToolUseId : Option String) : Block → Option RuntimeEvent
  | .text text => some (textEvent python parentToolUseId text)
  | .toolUse id name input =>
    if parentToolUseId.isSome then none else some (.toolRequest id name input)
  | .toolResult id content isError =>
    if parentToolUseId.isSome then none
    else some (.toolResult id (safeToolResultContent python content) isError)

/-- `_map_assistant`. -/
def mapAssistant (message : AssistantMessage) : List RuntimeEvent :=
  message.content.filterMap (mapBlock python message.parentToolUseId)

/-- `_map_stream`. -/
def mapStream (event : StreamEvent) : List RuntimeEvent :=
  let bounds : List RuntimeEvent :=
    if event.parentToolUseId.isSome then []
    else if event.type = some "message_start" then [.messageStart]
    else if event.type = some "message_stop" then [.messageCompleted]
    else []
  bounds ++ (event.textDelta.map (textEvent python event.parentToolUseId)).toList

def textOf (events : List RuntimeEvent) : String := String.join (events.map (·.deltaText))

def errorText : String := "模型服务拒绝了本轮请求。请打开运行详情查看状态，并稍后重试。"

def contentRejectedText : String := "模型服务拒绝了本轮上下文，可能由输入或外部检索内容触发。" ++ "请重新运行，或缩小主题与时间范围。"

def markers : List String :=
  ["content exists risk", "content risk", "api error:", "failed to authenticate. api error:",
    "failed to connect to api:"]

def Diagnostic (text : String) : Prop :=
  let normalized := python.lower (stripSpace text)
  (occursIn "content exists risk" normalized || occursIn "content risk" normalized) = true ∨
    ["api error:", "failed to authenticate. api error:", "failed to connect to api:"].any
      (hasPrefix · normalized) = true

instance (text : String) : Decidable (Diagnostic python text) := instDecidableOr

def safeChars : List Char := errorText.toList ++ contentRejectedText.toList

def LowersSafe : Prop :=
  ∀ text : String, (∀ char ∈ text.toList, char ∈ safeChars) → python.lower text = text

variable {python} {text : String} {pieces : List String}

theorem safeModelText_plain (plain : ¬ Diagnostic python text) :
  python.safeModelText text = text := by
  obtain ⟨accepted, clean⟩ := not_or.mp plain
  rw [Python.safeModelText, if_neg accepted, if_neg clean]

def safeTexts : List String := [errorText, contentRejectedText]

theorem safeTexts_made : ∀ safe ∈ safeTexts, safe.toList = '模' :: safe.toList.tail ∧
  '模' ∉ safe.toList.tail ∧ 'i' ∉ safe.toList ∧
  (safe.toList.all fun char => char.toLower = char) = true ∧
  ∀ other ∈ safeTexts, other.toList <+: safe.toList → other = safe := by
  decide +kernel

theorem mem_safeChars {char : Char} :
  char ∈ safeChars ↔ ∃ safe ∈ safeTexts, char ∈ safe.toList := by
  simp [safeChars, safeTexts]

theorem safeModelText_diagnostic (diagnostic : Diagnostic python text) :
  python.safeModelText text ∈ safeTexts := by
  unfold Python.safeModelText
  dsimp only
  split
  · exact mem_cons_of_mem _ mem_cons_self
  next accepted =>
    rw [if_pos (diagnostic.resolve_left accepted)]
    exact mem_cons_self

def foreign (text : String) : Nat := text.toList.countP (· ∉ safeChars)

theorem foreign_append (first second : String) :
  foreign (first ++ second) = foreign first + foreign second := by
  simp [foreign, countP_append]

theorem suffix_of_mem {rest chars : List Char} (member : rest ∈ suffixes chars) :
  rest <:+ chars := by
  induction chars with
  | nil =>
    cases mem_singleton.mp member
    exact suffix_rfl
  | cons char chars ih =>
    obtain rfl | later := mem_cons.mp member
    · exact suffix_rfl
    exact (ih later).trans (suffix_cons char chars)

theorem stripSpace_subset : (stripSpace text).toList ⊆ text.toList := by
  intro char member
  rw [stripSpace, String.toList_ofList, mem_reverse] at member
  exact (dropWhile_suffix _).subset (mem_reverse.mp ((dropWhile_suffix _).subset member))

theorem mem_of_occursIn {needle : String} (found : occursIn needle text = true) :
  needle.toList ⊆ text.toList := by
  obtain ⟨suffix, among, starts⟩ := any_eq_true.mp found
  exact fun char member =>
    (suffix_of_mem among).subset (( isPrefixOf_iff_prefix.mp starts).subset member)

theorem foreign_pos (lowers : LowersSafe python) (diagnostic : Diagnostic python text) :
  0 < foreign text := by
  refine Nat.pos_of_ne_zero fun none => ?_
  have safe : ∀ char ∈ (stripSpace text).toList, char ∈ safeChars := by
    intro char member
    simpa using countP_eq_zero.mp none char (stripSpace_subset member)
  have marked : ∃ marker ∈ markers, marker.toList ⊆ (stripSpace text).toList := by
    unfold Diagnostic at diagnostic
    rw [lowers _ safe] at diagnostic
    simp only [Bool.or_eq_true, any_cons, any_nil, Bool.or_false] at diagnostic
    rcases diagnostic with (found | found) | found | found | found
    · exact ⟨_, by simp [markers], mem_of_occursIn found⟩
    · exact ⟨_, by simp [markers], mem_of_occursIn found⟩
    all_goals exact ⟨_, by simp [markers], ( isPrefixOf_iff_prefix.mp found).subset⟩
  obtain ⟨marker, among, inside⟩ := marked
  have letter : ∀ marker ∈ markers, 'i' ∈ marker.toList := by simp [markers]
  obtain ⟨text, listed, member⟩ := mem_safeChars.mp (safe 'i' (inside (letter marker among)))
  exact (safeTexts_made text listed).2.2.1 member

theorem foreign_safe (lowers : LowersSafe python) (text : String) :
  foreign (python.safeModelText text) ≤ foreign text ∧
    (foreign (python.safeModelText text) = foreign text → ¬ Diagnostic python text) := by
  by_cases diagnostic : Diagnostic python text
  · have none : foreign (python.safeModelText text) = 0 := by
      refine countP_eq_zero.mpr fun char member => ?_
      simpa using mem_safeChars.mpr ⟨_, safeModelText_diagnostic diagnostic, member⟩
    have some := foreign_pos lowers diagnostic
    rw [none]
    exact ⟨Nat.zero_le _, fun same => absurd same (Nat.ne_of_lt some)⟩
  rw [safeModelText_plain diagnostic]
  exact ⟨Nat.le_refl _, fun _ => diagnostic⟩

theorem foreign_join (lowers : LowersSafe python) (pieces : List String) :
  foreign (String.join (pieces.map python.safeModelText)) ≤ foreign (String.join pieces) ∧
    (foreign (String.join (pieces.map python.safeModelText)) = foreign (String.join pieces) →
      ∀ piece ∈ pieces, ¬ Diagnostic python piece) := by
  induction pieces with
  | nil => simp
  | cons piece pieces ih =>
    have own := foreign_safe lowers piece
    rw [map_cons, String.join_cons, String.join_cons, foreign_append, foreign_append,
      forall_mem_cons]
    exact ⟨by omega, fun same => ⟨own.2 (by omega), ih.2 (by omega)⟩⟩

theorem alone_of_append {safe other : String} {before after : List Char}
  (first : safe ∈ safeTexts) (second : other ∈ safeTexts)
  (same : before ++ (other.toList ++ after) = safe.toList) : before = [] ∧ after = [] := by
  obtain ⟨shape, absent, _, _, only⟩ := safeTexts_made safe first
  have spelled := (safeTexts_made other second).1
  cases before with
  | cons char before =>
    rw [shape, spelled, cons_append, cons.injEq] at same
    exact absurd (same.2 ▸ by simp) absent
  | nil =>
    have starts : other.toList <+: safe.toList := ⟨after, same⟩
    rw [only other second starts, nil_append] at same
    exact ⟨rfl, by simpa using same⟩

theorem join_filled {change : String → String} (empty : change "" = "") (pieces : List String) :
  String.join ((pieces.filter (· ≠ "")).map change) = String.join (pieces.map change) := by
  induction pieces with
  | nil => rfl
  | cons piece pieces ih =>
    by_cases blank : piece = ""
    · rw [filter_cons_of_neg (by simpa using blank), ih, map_cons, String.join_cons, blank, empty,
        String.empty_append]
    rw [filter_cons_of_pos (by simpa using blank), map_cons, map_cons, String.join_cons,
      String.join_cons, ih]

theorem eq_nil_of_join (filled : ∀ piece ∈ pieces, piece ≠ "")
  (nothing : (String.join (pieces.map python.safeModelText)).toList = []) : pieces = [] := by
  cases pieces with
  | nil => rfl
  | cons piece pieces =>
    rw [map_cons, String.join_cons, String.toList_append, append_eq_nil_iff] at nothing
    have own := String.toList_eq_nil_iff.mp nothing.1
    by_cases diagnostic : Diagnostic python piece
    · have spelled := (safeTexts_made _ (safeModelText_diagnostic diagnostic)).1
      rw [nothing.1] at spelled
      cases spelled
    rw [safeModelText_plain diagnostic] at own
    exact absurd own (filled piece mem_cons_self)

theorem join_safe_iff (lowers : LowersSafe python) (pieces : List String) :
  String.join (pieces.map python.safeModelText) = python.safeModelText (String.join pieces) ↔
    (¬ Diagnostic python (String.join pieces) ∧ ∀ piece ∈ pieces, ¬ Diagnostic python piece) ∨
      pieces.filter (· ≠ "") = [String.join pieces] := by
  have blank : ¬ Diagnostic python "" := fun diagnostic =>
    absurd (foreign_pos lowers diagnostic) (Nat.lt_irrefl 0)
  have empty := safeModelText_plain blank
  constructor
  · intro same
    by_cases diagnostic : Diagnostic python (String.join pieces)
    · right
      have safe := safeModelText_diagnostic diagnostic
      have some : ∃ piece ∈ pieces, Diagnostic python piece := by
        by_contra! clean
        have kept : String.join (pieces.map python.safeModelText) = String.join pieces := by
          rw [map_congr_left fun piece member => safeModelText_plain (clean piece member), map_id']
        exact (foreign_safe lowers _).2 (congrArg foreign (same.symm.trans kept)) diagnostic
      obtain ⟨piece, among, own⟩ := some
      have filled : piece ∈ pieces.filter (· ≠ "") :=
        mem_filter.mpr ⟨among, decide_eq_true fun none => blank (none ▸ own)⟩
      obtain ⟨before, after, split⟩ := append_of_mem filled
      have others : ∀ other ∈ before ++ piece :: after, other ≠ "" := by
        intro other member
        rw [← split] at member
        exact of_decide_eq_true (mem_filter.mp member).2
      have whole := congrArg String.toList ((join_filled empty pieces).trans same)
      rw [split, map_append, map_cons, String.join_append, String.join_cons, String.toList_append,
        String.toList_append] at whole
      obtain ⟨first, last⟩ := alone_of_append safe (safeModelText_diagnostic own) whole
      have joined := @join_filled id rfl pieces
      rw [eq_nil_of_join (fun other member => others other (mem_append_left _ member)) first,
        eq_nil_of_join (fun other member =>
          others other (mem_append_right _ (mem_cons_of_mem _ member))) last, nil_append] at split
      rw [split, map_id, map_id, String.join_cons, String.join_nil, String.append_empty] at joined
      rw [split, ← joined]
    rw [safeModelText_plain diagnostic] at same
    exact .inl ⟨diagnostic, (foreign_join lowers pieces).2 (congrArg foreign same)⟩
  rintro (⟨plain, clean⟩ | alone)
  · rw [safeModelText_plain plain, map_congr_left fun piece member =>
      safeModelText_plain (clean piece member), map_id']
  rw [← join_filled empty, alone, map_singleton, String.join_cons, String.join_nil,
    String.append_empty]

theorem textOf_streamed (parent : Option String) (pieces : List String) :
  textOf (pieces.flatMap fun piece =>
    mapStream python { parentToolUseId := parent, textDelta := some piece }) =
    String.join (pieces.map python.safeModelText) := by
  have one : ∀ piece, mapStream python { parentToolUseId := parent, textDelta := some piece } =
      [textEvent python parent piece] := fun _ => by simp [mapStream]
  have own : ∀ piece, (textEvent python parent piece).deltaText = python.safeModelText piece :=
    fun _ => by cases parent <;> rfl
  simp only [one, ← map_eq_flatMap, textOf, map_map]
  exact congrArg String.join (map_congr_left fun piece _ => own piece)

/-- The deltas of a text say what its block says if there is one delta, or no diagnostic. -/
theorem streamed_iff (python : Python) (lowers : LowersSafe python) (parent : Option String)
  (pieces : List String) :
  textOf (pieces.flatMap fun piece =>
      mapStream python { parentToolUseId := parent, textDelta := some piece }) =
    textOf (mapAssistant python
      { parentToolUseId := parent, content := [.text (String.join pieces)] }) ↔
    (¬ Diagnostic python (String.join pieces) ∧ ∀ piece ∈ pieces, ¬ Diagnostic python piece) ∨
      pieces.filter (· ≠ "") = [String.join pieces] := by
  rw [textOf_streamed, ← join_safe_iff lowers]
  have block : textOf (mapAssistant python
      { parentToolUseId := parent, content := [.text (String.join pieces)] }) =
      python.safeModelText (String.join pieces) := by
    cases parent <;> simp [mapAssistant, mapBlock, textEvent, textOf, RuntimeEvent.deltaText]
  rw [block]

def lowercase : Python where
  repr _ := ""
  dumpsIndented _ := ""
  lower text := String.ofList (text.toList.map Char.toLower)
  casefold := id
  maskSecrets := id
  isoformat _ := ""

theorem lowersSafe_lowercase : LowersSafe lowercase := by
  intro text safe
  have same : text.toList.map Char.toLower = text.toList.map id := by
    refine map_congr_left fun char member => ?_
    obtain ⟨text, listed, own⟩ := mem_safeChars.mp (safe char member)
    obtain ⟨_, _, _, caseless, _⟩ := safeTexts_made text listed
    exact of_decide_eq_true (all_eq_true.mp caseless char own)
  unfold lowercase
  dsimp only
  rw [same, map_id, String.ofList_toList]

def halves : List String := ["API Err", "or: 429 quota of org-7 exceeded"]

theorem streamed_iff_halves :
  textOf (halves.flatMap fun piece => mapStream lowercase { textDelta := some piece }) =
    textOf (mapAssistant lowercase { content := [.text (String.join halves)] }) ↔
    (¬ Diagnostic lowercase (String.join halves) ∧
      ∀ piece ∈ halves, ¬ Diagnostic lowercase piece) ∨
      halves.filter (· ≠ "") = [String.join halves] :=
  streamed_iff lowercase lowersSafe_lowercase none halves

theorem diagnostic_streamed :
  textOf (halves.flatMap fun piece => mapStream lowercase { textDelta := some piece }) =
      "API Error: 429 quota of org-7 exceeded" ∧
    textOf (mapAssistant lowercase { content := [.text (String.join halves)] }) = errorText := by
  decide +kernel

end AgentHarness.Runtime.MessageMapper
