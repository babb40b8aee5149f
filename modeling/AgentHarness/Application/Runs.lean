import AgentHarness.Core.Ports

/-!
Queueing and cancelling a Run.
-/

namespace AgentHarness

open Interaction Program Ports

structure RunService where
  admission : Bool := false
  task : String

namespace RunService

variable (service : RunService)

/-- The end of `create`, once the Run is stored. -/
def announceQueued : RunProgram Unit := do
  append (.run .queued)
  call (.enqueue service.task)

def completeCancellation (requestedFrom : RunStatus) (current : Run) : RunProgram Run :=
  if requestedFrom = .provisioning ∨ requestedFrom = .running then done current
  else do
    let status ← ensure (transition current.status .cancelled)
    let updatedAt ← call .clock
    let cancelled := { current with status, updatedAt, fencingToken := current.fencingToken + 1 }
    let changed ← call (.compareAndSet .cancelCompletion .cancelling cancelled)
    if changed then
      append (.run .cancelled)
      serviceIf service.admission .releaseSubject
      done cancelled
    else
      let latest ← call (.getRun .observed)
      if latest.status.isTerminal then done latest
      else raised (.conflict .cancellationCompletionRaced)

def requestCancellation (current : Run) : RunProgram Run := do
  let status ← ensure (transition current.status .cancelling)
  let updatedAt ← call .clock
  let cancelling := { current with status, updatedAt, fencingToken := current.fencingToken + 1 }
  let changed ← call (.compareAndSet .cancelRequest current.status cancelling)
  if changed then
    append (.run .cancelling)
    service.completeCancellation current.status cancelling
  else
    let latest ← call (.getRun .carried)
    if latest.status.isTerminal then done latest
    else if latest.status ≠ .cancelling then raised (.conflict .cancellationRequestRaced)
    else service.completeCancellation current.status latest

def cancel : RunProgram Run := do
  let current ← call (.getRun .carried)
  if current.status.isTerminal then
    (serviceIf service.admission .releaseSubject).bind fun _ => done current
  else if current.status = .cancelling then done current
  else service.requestCancellation current

end RunService

end AgentHarness
