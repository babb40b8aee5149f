import AgentHarness.EventLog.Repository
import AgentHarness.Text.JsonPatch
import AgentHarness.Text.Substrings

/-!
The redaction of internal agent assets in the events of a Run.
-/

namespace AgentHarness.Agui

open Text Text.Json List

abbrev Payload := List (String × Json)

abbrev RunEvent := EventLog.RunEvent Payload

structure Python where
  /-- `repr` of a list or a dict. -/
  repr : Json → String
  /-- `json.dumps` with `ensure_ascii=False` and `indent=2`. -/
  dumpsIndented : Json → String
  (lower casefold : String → String)
  /-- The three substitutions of `redact_text`. -/
  maskSecrets : String → String
  /-- `isoformat` of a UTC time, ending in `+00:00`. -/
  isoformat : Nat → String

def nonzero (token : NumberToken) : Bool :=
  (token.text.takeWhile fun char => char != 'e').any fun char =>
    ('1' ≤ char && char ≤ '9') || char == 'I' || char == 'N'

/-- `bool(value)`. -/
def truthy : Json → Bool
  | .null => false
  | .bool value => value
  | .number token => nonzero token
  | .string text => text != ""
  | .array items => !items.isEmpty
  | .object members => !members.isEmpty

/-- `bool(payload.get(name))`. -/
def isSet (payload : Payload) (name : String) : Bool := ((member? payload name).map truthy).getD false

def text? : Json → Option String
  | .string text => some text
  | _ => none

/-- `payload.get(name)` where it is a `str`. -/
def getText (payload : Payload) (name : String) : Option String := (member? payload name).bind text?

def INTERNAL_AGENT_ASSET_REDACTION : String := "[Internal Skill or prompt content hidden]"

def INTERNAL_AGENT_ASSET_MARKER : String := "internal_agent_asset_access"

def readingCommands : List String := ["cat ", "sed ", "head ", "tail ", "grep ", "rg ", "awk "]

def assetMarkers : List String :=
  ["/.claude/skills/", ".claude/skills/", "/.claude/agents/", ".claude/agents/",
    "/.harness-runtime/", ".harness-runtime/", "/prompts/system.md", "prompts/system.md",
    "/systemprompt.md", "systemprompt.md", "/system-prompt.md", "system-prompt.md",
    "/system_prompt.md", "system_prompt.md", "/claude.md", "claude.md"]

namespace Python

variable (python : Python)

/-- `str(value)`. -/
def str : Json → String
  | .null => "None"
  | .bool true => "True"
  | .bool false => "False"
  | .number token => String.ofList token.text
  | .string text => text
  | value => python.repr value

variable (payload : Payload)

/-- `str(payload.get(name, default))`. -/
def getStr (name default : String) : String := ((member? payload name).map python.str).getD default

/-- The texts of a request that may name an asset; `none` for a tool that reads nothing. -/
def assetCandidates : Option (List String) :=
  match member? payload "arguments" with
  | some (.object arguments) =>
    let name := python.casefold (python.getStr payload "name" "")
    if name = "read" then
      some (((member? arguments "file_path").or (member? arguments "path")).bind text?).toList
    else if name = "bash" then
      (getText arguments "command").bind fun command =>
        if readingCommands.any (occursIn · (python.casefold command)) then some [command] else none
    else none
  | _ => none

def internalAgentAssetAccess : Bool :=
  let marked := isSet payload INTERNAL_AGENT_ASSET_MARKER
  match python.assetCandidates payload with
  | none => marked
  | some candidates =>
    (candidates.any fun candidate =>
      assetMarkers.any (occursIn · (python.casefold (replaceChar '\\' '/' candidate)))) || marked

/-- `{**payload, "content": …, "redacted": True, "redaction_reason": …}`. -/
def hideContent : Payload :=
  setMember
    (setMember (setMember payload "content" (.string INTERNAL_AGENT_ASSET_REDACTION))
      "redacted" (.bool true))
    "redaction_reason" (.string "internal_agent_asset")

def protectCall (secured : List String) (event : RunEvent) : List String :=
  let toolCallId := python.getStr event.payload "tool_call_id" ""
  if event.type = "tool.request" ∧ toolCallId ≠ "" ∧
      python.internalAgentAssetAccess event.payload = true then
    secured.insert toolCallId
  else secured

def redactEvent (secured : List String) (event : RunEvent) : RunEvent :=
  if event.type = "tool.result" ∧
      python.getStr event.payload "tool_call_id" "" ∈ python.protectCall secured event then
    { event with payload := hideContent event.payload }
  else event

/-- The loop of `redact_internal_agent_asset_events`, from the calls protected so far. -/
def redactInternalAgentAssetEvents (secured : List String) : List RunEvent → List RunEvent
  | [] => []
  | event :: events =>
    python.redactEvent secured event ::
      redactInternalAgentAssetEvents (python.protectCall secured event) events

def securedAfter (secured : List String) (events : List RunEvent) : List String :=
  events.foldl python.protectCall secured

variable {python} {secured : List String} {event : RunEvent}

theorem member?_hideContent :
  member? (hideContent payload) "content" = some (.string INTERNAL_AGENT_ASSET_REDACTION) ∧
    member? (hideContent payload) "redacted" = some (.bool true) ∧
    member? (hideContent payload) "redaction_reason" = some (.string "internal_agent_asset") := by
  unfold hideContent
  rw [member?_setMember_other (by decide), member?_setMember_other (by decide),
    member?_setMember_self, member?_setMember_other (by decide), member?_setMember_self,
    member?_setMember_self]
  exact ⟨rfl, rfl, rfl⟩

theorem hideContent_idempotent : hideContent (hideContent payload) = hideContent payload := by
  obtain ⟨content, redacted, reason⟩ := member?_hideContent payload
  rw [hideContent, setMember_of_member? content, setMember_of_member? redacted,
    setMember_of_member? reason]

theorem getStr_hideContent : python.getStr (hideContent payload) "tool_call_id" "" =
  python.getStr payload "tool_call_id" "" := by
  unfold getStr hideContent
  rw [member?_setMember_other (by decide), member?_setMember_other (by decide),
    member?_setMember_other (by decide)]

@[simp] theorem redactEvent_type : (python.redactEvent secured event).type = event.type := by
  unfold redactEvent
  split <;> rfl

@[simp] theorem redactEvent_runId : (python.redactEvent secured event).runId = event.runId := by
  unfold redactEvent
  split <;> rfl

theorem protectCall_redactEvent : python.protectCall secured (python.redactEvent secured event) =
  python.protectCall secured event := by
  by_cases result : event.type = "tool.result"
  · have other : event.type ≠ "tool.request" := by rw [result]; decide
    have changed : (python.redactEvent secured event).type ≠ "tool.request" := by
      rw [redactEvent_type]
      exact other
    rw [protectCall, protectCall, if_neg fun both => changed both.1, if_neg fun both =>
      other both.1]
  rw [redactEvent, if_neg fun both => result both.1]

theorem redactEvent_idempotent : python.redactEvent secured (python.redactEvent secured event) =
  python.redactEvent secured event := by
  by_cases hides : event.type = "tool.result" ∧
    python.getStr event.payload "tool_call_id" "" ∈ python.protectCall secured event
  · have hidden : python.redactEvent secured event =
        { event with payload := hideContent event.payload } := if_pos hides
    have kept : python.protectCall secured (python.redactEvent secured event) =
      python.protectCall secured event := protectCall_redactEvent
    rw [hidden] at kept ⊢
    rw [redactEvent, if_pos, hideContent_idempotent]
    rw [kept, getStr_hideContent]
    exact hides
  have same : python.redactEvent secured event = event := if_neg hides
  rw [same, same]

theorem redactInternalAgentAssetEvents_idempotent (python : Python) (secured : List String)
  (events : List RunEvent) :
  python.redactInternalAgentAssetEvents secured
    (python.redactInternalAgentAssetEvents secured events) =
    python.redactInternalAgentAssetEvents secured events := by
  induction events generalizing secured with
  | nil => rfl
  | cons event events ih =>
    simp [redactInternalAgentAssetEvents, redactEvent_idempotent, protectCall_redactEvent, ih]

theorem redactInternalAgentAssetEvents_append (python : Python) (secured : List String)
  (events more : List RunEvent) :
  python.redactInternalAgentAssetEvents secured (events ++ more) =
    python.redactInternalAgentAssetEvents secured events ++
    python.redactInternalAgentAssetEvents (python.securedAfter secured events) more := by
  induction events generalizing secured with
  | nil => rfl
  | cons event events ih => simp [redactInternalAgentAssetEvents, ih, securedAfter]

theorem forall_redacted (property : String → String → Prop) {events : List RunEvent}
  (every : ∀ event ∈ events, property event.type event.runId) :
  ∀ event ∈ python.redactInternalAgentAssetEvents secured events,
    property event.type event.runId := by
  induction events generalizing secured with
  | nil => exact every
  | cons event events ih =>
    intro redacted member
    rcases mem_cons.mp member with rfl | later
    · rw [redactEvent_type, redactEvent_runId]
      exact every event mem_cons_self
    exact ih (fun other there => every other (mem_cons_of_mem _ there)) redacted later

end Python

end AgentHarness.Agui
