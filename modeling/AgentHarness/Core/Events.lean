import Mathlib.Data.List.Induction
import AgentHarness.Core.Run

/-!
The durable event log of one Run.
-/

namespace AgentHarness

/-- An event type with the part of its payload that is read back; `taskId` is `""`
when the payload has no text there. -/
inductive EventType where
  | run (status : RunStatus)
  | runRecovered (fromStatus : RunStatus)
  | runResumed
  | subagentStarted (taskId : String)
  | subagentCompleted (taskId : String)
  | subagentFailed (taskId : String)
  | approval (status : ApprovalStatus) (approvalId : String)
  | toolRequest (toolCallId : String) (stagedInputRead : Bool)
  | toolResult (toolCallId : String)
  | toolAllowed (toolCallId : String)
  | messageStart
  | messageDelta
  | messageCompleted
  | artifactReady (sourcePath : String)
  | other (name : String)
  deriving DecidableEq

structure RunEvent where
  type : EventType
  errorCode : Option ErrorCode := none
  /-- `payload["reaper"] == "stuck-run"`. -/
  reaper : Bool := false

namespace RunEvent

def announced (event : RunEvent) : Option RunStatus :=
  match event.type with
  | .run status => if status.isTerminal then some status else none
  | _ => none

def subagent (event : RunEvent) : Option String :=
  match event.type with
  | .subagentStarted taskId | .subagentCompleted taskId | .subagentFailed taskId => some taskId
  | _ => none

variable {event : RunEvent}

theorem announced_eq_none (other : ∀ status, event.type ≠ .run status) :
  event.announced = none := by
  unfold announced
  split
  · rename_i status same
    exact absurd same (other status)
  rfl

theorem announced_terminal {status : RunStatus} (announced : event.announced = some status) :
  event.type = .run status ∧ status.isTerminal = true := by
  unfold RunEvent.announced at announced
  split at announced
  · rename_i named same
    split at announced
    · rename_i terminal
      cases announced
      exact ⟨same, terminal⟩
    cases announced
  cases announced

end RunEvent

def trackSubagent (active : List String) (event : RunEvent) : List String :=
  match event.type with
  | .subagentStarted taskId => if taskId = "" ∨ taskId ∈ active then active else active ++ [taskId]
  | .subagentCompleted taskId | .subagentFailed taskId => active.filter (· ≠ taskId)
  | _ => active

/-- `active` of `_fail_active_subagents`, in the order of the started events. -/
def activeSubagents (events : List RunEvent) : List String := events.foldl trackSubagent []

def terminalRunEvents (events : List RunEvent) : List RunEvent :=
  events.filter fun event => event.announced.isSome

variable {event : RunEvent} {events : List RunEvent}

theorem terminalRunEvents_silent (silent : event.announced = none) :
  terminalRunEvents (events ++ [event]) = terminalRunEvents events := by
  simp [terminalRunEvents, silent]

variable {status : RunStatus}

theorem terminalRunEvents_announcing (announced : event.announced = some status) :
  terminalRunEvents (events ++ [event]) = terminalRunEvents events ++ [event] := by
  simp [terminalRunEvents, announced]

theorem mem_terminalRunEvents (member : event ∈ events)
  (announced : event.announced = some status) : event ∈ terminalRunEvents events :=
  List.mem_filter.mpr ⟨member, by rw [announced]; rfl⟩

end AgentHarness
