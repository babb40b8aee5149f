import AgentHarness.Collections.Dict

/-!
The session locks of `worker_loop`.

The loop creates a child for every task it takes, with the lock of the task's session, which it
makes on demand and counts the users of.  A child stands at one of its awaits; between two of them
it runs alone.  A loop that has been told to stop just takes no more tasks.
-/

namespace AgentHarness.WorkerLoop

open Collections

structure RunTask where
  (tenantId runId : String)
  /-- Absent from the tasks that were enqueued before workers were concurrent. -/
  sessionId : Option String
  deriving DecidableEq

/-- `(task.tenant_id, task.session_id or task.run_id)`. -/
def RunTask.sessionKey (task : RunTask) : String × String :=
  (task.tenantId, (task.sessionId.filter fun sessionId => sessionId ≠ "").getD task.runId)

/-- Where a child stands in `execute_task`. -/
inductive Phase where
  | created
  /-- At `async with session_lock`. -/
  | waiting
  /-- At `executor.execute`, with the lock. -/
  | executing
  /-- At `queue.retry`, once the execution has escaped. -/
  | retrying
  /-- At `_wait_for_work`, after the retry. -/
  | pausing
  | acknowledging
  /-- At `await heartbeat`, in the `finally` block. -/
  | closing
  | ended
  deriving DecidableEq

structure Child where
  task : RunTask
  lock : Nat
  phase : Phase
  deriving DecidableEq

structure Loop where
  sessionLocks : Dict (String × String) Nat := Dict.empty
  sessionUsers : Dict (String × String) Nat := Dict.empty
  holders : Dict Nat Nat := Dict.empty
  children : Dict Nat Child := Dict.empty
  active : List Nat := []
  objects : Nat := 0
  spawned : Nat := 0

/-- What can happen next.  Which child goes on, what is delivered and what fails is not the
loop's own choice. -/
inductive Event where
  /-- `dequeue` has returned the task. -/
  | deliver (task : RunTask)
  /-- The await of the child is over; `escaped` says that it raised an `Exception`. -/
  | resume (child : Nat) (escaped : Bool)
  /-- `CancelledError` is raised in the child. -/
  | cancel (child : Nat)
  | reap

namespace Loop

variable (loop : Loop)

def spawn (task : RunTask) : Loop :=
  let sessionLocks := loop.sessionLocks.setDefault task.sessionKey loop.objects
  { loop with
    sessionLocks
    sessionUsers := loop.sessionUsers.set task.sessionKey
      ((loop.sessionUsers.get? task.sessionKey).getD 0 + 1)
    children := loop.children.set loop.spawned
      { task, lock := (sessionLocks.get? task.sessionKey).getD loop.objects, phase := .created }
    active := loop.active ++ [loop.spawned], objects := loop.objects + 1
    spawned := loop.spawned + 1 }

def move (id : Nat) (child : Child) (phase : Phase) : Loop :=
  { loop with children := loop.children.set id { child with phase } }

/-- The child leaves the `async with` block. -/
def unlock (child : Child) : Loop := { loop with holders := loop.holders.erase child.lock }

/-- The end of the `finally` block; without an entry the subtraction raises a `KeyError`. -/
def drop (key : String × String) : Loop :=
  match loop.sessionUsers.get? key with
  | none => loop
  | some users =>
    if users - 1 = 0 then
      { loop with
        sessionUsers := loop.sessionUsers.erase key, sessionLocks := loop.sessionLocks.erase key }
    else { loop with sessionUsers := loop.sessionUsers.set key (users - 1) }

def proceed (id : Nat) (child : Child) (escaped : Bool) : Loop :=
  match child.phase with
  | .created => loop.move id child .waiting
  | .waiting =>
    match loop.holders.get? child.lock with
    | some _ => loop
    | none => { loop.move id child .executing with holders := loop.holders.set child.lock id }
  | .executing => (loop.unlock child).move id child (if escaped then .retrying else .acknowledging)
  | .retrying => loop.move id child .pausing
  | .pausing | .acknowledging => loop.move id child .closing
  | .closing => (loop.drop child.task.sessionKey).move id child .ended
  | .ended => loop

/-- A child that has not run yet, or is in its `finally` block, ends without dropping its share. -/
def interrupt (id : Nat) (child : Child) : Loop :=
  match child.phase with
  | .created | .closing => loop.move id child .ended
  | .executing => (loop.unlock child).move id child .closing
  | .waiting | .retrying | .pausing | .acknowledging => loop.move id child .closing
  | .ended => loop

def step (concurrency : Nat) (loop : Loop) : Event → Loop
  | .deliver task => if concurrency ≤ loop.active.length then loop else loop.spawn task
  | .resume id escaped =>
    match loop.children.get? id with
    | none => loop
    | some child => loop.proceed id child escaped
  | .cancel id =>
    match loop.children.get? id with
    | none => loop
    | some child => loop.interrupt id child
  | .reap =>
    { loop with
      active := loop.active.filter fun id =>
        decide ((loop.children.get? id).map (fun child => child.phase) ≠ some .ended) }

def run (concurrency : Nat) (events : List Event) : Loop := events.foldl (step concurrency) {}

end Loop

end AgentHarness.WorkerLoop
