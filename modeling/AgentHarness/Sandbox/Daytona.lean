import AgentHarness.Collections.Dict
import AgentHarness.Interaction.Pool

/-!
The Daytona sandbox provider of several worker processes, with session reuse on.

A step is what one coroutine does between two awaits. A lock that is released wakes its first
waiter and is free until that waiter runs.
-/

namespace AgentHarness.Sandbox

open Collections Interaction Program

structure SessionKey where
  (tenantId sessionId : String)
  deriving DecidableEq

abbrev LockId := Nat

/-- An `asyncio.Lock`, with the session that it was made for. -/
structure SessionLock where
  key : SessionKey
  holder : Option Nat := none
  waiters : List Nat := []

/-- `_SandboxEntry`; the number tells two objects apart. -/
structure SandboxEntry where
  entryId : Nat
  sandboxId : String
  owned : Bool
  sessionKey : Option SessionKey
  deriving DecidableEq

structure SandboxLease where
  entry : SandboxEntry
  sessionLock : Option LockId
  reusable : Bool

/-- The dictionaries of one process, and the attributes of its entries that change. -/
structure DaytonaSandboxProvider where
  sandboxes : Dict String SandboxEntry := Dict.empty
  leases : Dict String SandboxLease := Dict.empty
  sessionSandboxes : Dict SessionKey String := Dict.empty
  sessionLocks : Dict SessionKey LockId := Dict.empty
  releasedAt : Dict Nat Nat := Dict.empty
  recoveryUntil : Dict Nat Nat := Dict.empty

structure Processes where
  providers : Nat → DaytonaSandboxProvider := fun _ => {}
  locks : Dict LockId SessionLock := Dict.empty
  madeLocks : Nat := 0
  madeEntries : Nat := 0
  /-- History: who has a lease on which session's sandbox. -/
  outstanding : List (Nat × SessionKey × String) := []

/-- What is fixed along a run: the process of each coroutine, the sessions that the sandboxes are
named after, and the settings. -/
structure DaytonaPlatform where
  workers : Nat
  worker : Nat → Fin workers
  sessionOf : String → Option SessionKey
  deleteOnDestroy : Bool
  (idleTimeout warmPoolMaxSessions recoveryRetention : Nat)

inductive DaytonaError where
  | notFound
  | conflict
  | failed (type : String)
  | cancelled
  deriving DecidableEq

inductive SandboxName where
  | session (key : SessionKey)
  | explicit (sandboxId : String)

inductive Parting where
  | parked
  | cleaned

inductive DaytonaOp where
  | enter (key : SessionKey)
  | resume (lock : LockId)
  | cancel (lock : LockId)
  | abandon (lock : LockId)
  | get (name : SandboxName)
  | create (key : SessionKey)
  | start (sandboxId : String)
  | stop (sandboxId : String)
  | delete (sandboxId : String)
  | healthcheck (sandboxId : String)
  | removeTree (sandboxId : String)
  | warm (key : SessionKey)
  | leaseExplicit (sandboxId : String)
  | leaseCreated (key : SessionKey) (sandboxId : String) (lock : LockId)
  | leaseWarm (entry : SandboxEntry) (lock : LockId)
  | popLease (sandboxId : String)
  | part (entry : SandboxEntry) (parting : Parting)
  | dropEntry (entry : SandboxEntry)
  | leave (lease : SandboxLease)
  | excess
  | expired
  | stillWarm (entry : SandboxEntry) (releasedBefore : Option Nat)
  | leaveReaper (key : SessionKey) (lock : LockId)

namespace DaytonaOp

abbrev Answer : DaytonaOp → Type
  | enter _ => LockId × Bool
  | resume _ => Bool
  | get _ | create _ => String
  | healthcheck _ => Bool
  | warm _ => Option SandboxEntry
  | popLease _ => Option SandboxLease
  | excess => List SandboxEntry
  | expired => Nat × List SandboxEntry
  | stillWarm _ _ => Bool
  | _ => Unit

def isRemote : DaytonaOp → Bool
  | get _ | create _ | start _ | stop _ | delete _ | healthcheck _ | removeTree _ => true
  | _ => false

end DaytonaOp

abbrev DaytonaProgram (α : Type) := Program DaytonaOp DaytonaOp.Answer DaytonaError α

namespace Processes

variable (processes : Processes)

def provider (worker : Nat) : DaytonaSandboxProvider := processes.providers worker

def withProvider (worker : Nat) (provider : DaytonaSandboxProvider) : Processes :=
  { processes with providers := Function.update processes.providers worker provider }

def isLocked (lock : LockId) : Bool :=
  (processes.locks.get? lock).any fun state => state.holder.isSome

/-- `lock.acquire()` up to its first await: a free lock is taken unless somebody waits for it. -/
def acquire (task : Nat) (lock : LockId) : Bool × Processes :=
  match processes.locks.get? lock with
  | none => (false, processes)
  | some state =>
    if state.holder = none ∧ state.waiters = [] then
      (true,
        { processes with locks := processes.locks.set lock { state with holder := some task } })
    else
      (false,
        { processes with
          locks := processes.locks.set lock { state with waiters := state.waiters ++ [task] } })

/-- `setdefault` and `acquire`. -/
def enter (worker task : Nat) (key : SessionKey) : (LockId × Bool) × Processes :=
  match (processes.provider worker).sessionLocks.get? key with
  | some lock =>
    let reply := processes.acquire task lock
    ((lock, reply.1), reply.2)
  | none =>
    let lock := processes.madeLocks
    let provider := processes.provider worker
    let made :=
      { processes.withProvider worker
          { provider with sessionLocks := provider.sessionLocks.set key lock } with
        madeLocks := processes.madeLocks + 1
        locks := processes.locks.set lock { key } }
    let reply := made.acquire task lock
    ((lock, reply.1), reply.2)

def resume (task : Nat) (lock : LockId) : Bool × Processes :=
  match processes.locks.get? lock with
  | none => (false, processes)
  | some state =>
    if state.holder = none ∧ state.waiters.head? = some task then
      (true,
        { processes with
          locks := processes.locks.set lock
            { state with holder := some task, waiters := state.waiters.tail } })
    else (false, processes)

def cancel (task : Nat) (lock : LockId) : Processes :=
  match processes.locks.get? lock with
  | none => processes
  | some state =>
    { processes with
      locks := processes.locks.set lock
        { state with waiters := state.waiters.filter (· ≠ task) } }

def release (lock : LockId) : Processes :=
  match processes.locks.get? lock with
  | none => processes
  | some state => { processes with locks := processes.locks.set lock { state with holder := none } }

def dropEntry (worker : Nat) (entry : SandboxEntry) : Processes :=
  let provider := processes.provider worker
  let forgotten := { provider with sandboxes := provider.sandboxes.erase entry.sandboxId }
  match entry.sessionKey with
  | none => processes.withProvider worker forgotten
  | some key =>
    let unnamed :=
      if provider.sessionSandboxes.get? key = some entry.sandboxId then
        { forgotten with sessionSandboxes := provider.sessionSandboxes.erase key }
      else forgotten
    match provider.sessionLocks.get? key with
    | none => processes.withProvider worker unnamed
    | some lock =>
      if processes.isLocked lock then processes.withProvider worker unnamed
      else
        processes.withProvider worker
          { unnamed with sessionLocks := provider.sessionLocks.erase key }

def forgetLock (worker : Nat) (key : SessionKey) (lock : LockId) : Processes :=
  let provider := processes.provider worker
  if provider.sessionSandboxes.get? key = none ∧ processes.isLocked lock = false then
    processes.withProvider worker
      { provider with sessionLocks := provider.sessionLocks.erase key }
  else processes

/-- The `finally` block of `destroy`. -/
def leave (worker : Nat) (lease : SandboxLease) : Processes :=
  match lease.sessionLock with
  | none => processes
  | some lock =>
    let released := processes.release lock
    match lease.entry.sessionKey with
    | none => released
    | some key => released.forgetLock worker key lock

def isWarm (provider : DaytonaSandboxProvider) (now : Nat) (entry : SandboxEntry) : Bool :=
  (provider.releasedAt.get? entry.entryId).isSome &&
    (provider.recoveryUntil.get? entry.entryId).all fun until' => until' ≤ now

def releasedBy (provider : DaytonaSandboxProvider) (cutoff : Nat) (entry : SandboxEntry) : Bool :=
  (provider.releasedAt.get? entry.entryId).any fun released => released ≤ cutoff

def excess (provider : DaytonaSandboxProvider) (now limit : Nat) : List SandboxEntry :=
  let warm := (provider.sandboxes.values.filter (isWarm provider now)).mergeSort (fun first second =>
    (provider.releasedAt.get? first.entryId).getD 0 ≤
      (provider.releasedAt.get? second.entryId).getD 0)
  warm.take (warm.length - limit)

end Processes

structure DaytonaInput where
  now : Nat := 0
  sandboxId : String := ""
  healthy : Bool := true
  failure : Option DaytonaError := none

namespace DaytonaPlatform

variable (processes : Processes)

def lease (task worker : Nat) (entry : SandboxEntry) (lock : LockId) : Processes :=
  let provider := processes.provider worker
  { processes.withProvider worker
      { provider with
        leases := provider.leases.set entry.sandboxId
          { entry, sessionLock := some lock, reusable := true }
        releasedAt := provider.releasedAt.erase entry.entryId } with
    outstanding := (entry.sessionKey.map fun key => (task, key, entry.sandboxId)).toList ++
      processes.outstanding }

def leaseCreated (task worker : Nat) (key : SessionKey) (sandboxId : String) (lock : LockId) :
  Processes :=
  let provider := processes.provider worker
  let entry : SandboxEntry :=
    { entryId := processes.madeEntries, sandboxId, owned := true, sessionKey := some key }
  let adopted :=
    { processes.withProvider worker
        { provider with
          sandboxes := provider.sandboxes.set sandboxId entry
          sessionSandboxes := provider.sessionSandboxes.set key sandboxId } with
      madeEntries := processes.madeEntries + 1 }
  lease adopted task worker entry lock

def leaseExplicit (worker : Nat) (sandboxId : String) : Processes :=
  let provider := processes.provider worker
  let entry : SandboxEntry :=
    { entryId := processes.madeEntries, sandboxId, owned := false, sessionKey := none }
  { processes.withProvider worker
      { provider with
        sandboxes := provider.sandboxes.set sandboxId entry
        leases := provider.leases.set sandboxId { entry, sessionLock := none, reusable := false } } with
    madeEntries := processes.madeEntries + 1 }

def popLease (task worker : Nat) (sandboxId : String) : Option SandboxLease × Processes :=
  let provider := processes.provider worker
  (provider.leases.get? sandboxId,
    { processes.withProvider worker { provider with leases := provider.leases.erase sandboxId } with
      outstanding := processes.outstanding.filter (fun held => held.1 ≠ task) })

variable (platform : DaytonaPlatform)

def part (processes : Processes) (worker now : Nat) (entry : SandboxEntry) : Parting → Processes
  | .parked =>
    let provider := processes.provider worker
    let recovery := max ((provider.recoveryUntil.get? entry.entryId).getD now)
      (now + platform.recoveryRetention)
    processes.withProvider worker
      { provider with
        releasedAt := provider.releasedAt.set entry.entryId now
        recoveryUntil := provider.recoveryUntil.set entry.entryId recovery }
  | .cleaned =>
    let provider := processes.provider worker
    processes.withProvider worker
      { provider with releasedAt := provider.releasedAt.set entry.entryId now }

def expired (provider : DaytonaSandboxProvider) (now : Nat) : Nat × List SandboxEntry :=
  let cutoff := now - platform.idleTimeout
  (cutoff, provider.sandboxes.values.filter (fun entry =>
    Processes.isWarm provider now entry && Processes.releasedBy provider cutoff entry))

def stillWarm (provider : DaytonaSandboxProvider) (now : Nat) (entry : SandboxEntry)
  (releasedBefore : Option Nat) : Bool :=
  decide (provider.sandboxes.get? entry.sandboxId = some entry) &&
    Processes.isWarm provider now entry &&
      releasedBefore.all fun cutoff => Processes.releasedBy provider cutoff entry

def locate (input : DaytonaInput) (key : SessionKey) : Except DaytonaError String :=
  if platform.sessionOf input.sandboxId = some key then .ok input.sandboxId else .error .notFound

def answer (task : Nat) (input : DaytonaInput) (processes : Processes) :
    (op : DaytonaOp) → Except DaytonaError op.Answer × Processes
  | .enter key =>
    let reply := processes.enter (platform.worker task) task key
    (.ok reply.1, reply.2)
  | .resume lock =>
    let reply := processes.resume task lock
    (.ok reply.1, reply.2)
  | .cancel lock => (.ok (), processes.cancel task lock)
  | .abandon lock => (.ok (), processes.release lock)
  | .get (.session key) | .create key => (platform.locate input key, processes)
  | .get (.explicit _) => (.ok input.sandboxId, processes)
  | .start _ | .stop _ | .delete _ | .removeTree _ => (.ok (), processes)
  | .healthcheck _ => (.ok input.healthy, processes)
  | .warm key =>
    let provider := processes.provider (platform.worker task)
    (.ok ((provider.sessionSandboxes.get? key).bind provider.sandboxes.get?), processes)
  | .leaseExplicit sandboxId => (.ok (), leaseExplicit processes (platform.worker task) sandboxId)
  | .leaseCreated key sandboxId lock =>
    (.ok (), leaseCreated processes task (platform.worker task) key sandboxId lock)
  | .leaseWarm entry lock => (.ok (), lease processes task (platform.worker task) entry lock)
  | .popLease sandboxId =>
    let reply := popLease processes task (platform.worker task) sandboxId
    (.ok reply.1, reply.2)
  | .part entry parting =>
    (.ok (), platform.part processes (platform.worker task) input.now entry parting)
  | .dropEntry entry => (.ok (), processes.dropEntry (platform.worker task) entry)
  | .leave given => (.ok (), processes.leave (platform.worker task) given)
  | .excess =>
    (.ok (Processes.excess (processes.provider (platform.worker task)) input.now
      platform.warmPoolMaxSessions), processes)
  | .expired =>
    (.ok (platform.expired (processes.provider (platform.worker task)) input.now), processes)
  | .stillWarm entry releasedBefore =>
    (.ok (stillWarm (processes.provider (platform.worker task)) input.now entry releasedBefore),
      processes)
  | .leaveReaper key lock =>
    (.ok (), (processes.release lock).forgetLock (platform.worker task) key lock)

def respond (task : Nat) (input : DaytonaInput) (processes : Processes) (op : DaytonaOp) :
  Except DaytonaError op.Answer × Processes :=
  match input.failure, op.isRemote with
  | some error, true => (.error error, processes)
  | _, _ => platform.answer task input processes op

def component : Component DaytonaOp DaytonaOp.Answer DaytonaError Nat Processes DaytonaInput where
  respond := platform.respond

end DaytonaPlatform

abbrev ask (op : DaytonaOp) : DaytonaProgram op.Answer := Program.perform op fun answer => answer

def caught {α : Type} (program : DaytonaProgram α) : DaytonaProgram (Except DaytonaError α) :=
  (program.bind fun value => done (.ok value)).catching fun error => done (.error error)

def await (lock : LockId) : Nat → DaytonaProgram Unit
  | 0 => (ask (.cancel lock)).bind fun _ => raised .cancelled
  | turns + 1 => do
      let acquired ← ask (.resume lock)
      if acquired then done () else await lock turns

def acquireLock (turns : Nat) (key : SessionKey) : DaytonaProgram LockId := do
  let entered ← ask (.enter key)
  if entered.2 then done entered.1
  else (await entered.1 turns).bind fun _ => done entered.1

namespace DaytonaPlatform

variable (platform : DaytonaPlatform)

/-- The `try` block of `_retire`. -/
def stopAndDelete (entry : SandboxEntry) : DaytonaProgram Unit := do
  ask (.stop entry.sandboxId)
  if platform.deleteOnDestroy && entry.owned then ask (.delete entry.sandboxId) else done ()

def retire (entry : SandboxEntry) : DaytonaProgram Unit := do
  (platform.stopAndDelete entry).catching (fun error =>
    if error = .notFound then done () else raised error)
  ask (.dropEntry entry)

def findOrCreate (key : SessionKey) : DaytonaProgram String := do
  match ← caught (ask (.get (.session key))) with
  | .ok sandboxId => do
      ask (.start sandboxId)
      done sandboxId
  | .error .notFound => do
      match ← caught (ask (.create key)) with
      | .ok sandboxId => done sandboxId
      | .error .conflict => do
          let sandboxId ← ask (.get (.session key))
          ask (.start sandboxId)
          done sandboxId
      | .error error => raised error
  | .error error => raised error

/-- `_create_session_sandbox`, and the lease of the new entry. -/
def createAndLease (key : SessionKey) (lock : LockId) : DaytonaProgram String := do
  let sandboxId ← findOrCreate key
  ask (.leaseCreated key sandboxId lock)
  done sandboxId

/-- `_acquire_session_entry`, and the lease of the entry. -/
def acquireSession (key : SessionKey) (lock : LockId) : DaytonaProgram String := do
  match ← ask (.warm key) with
  | none => createAndLease key lock
  | some entry => do
      let healthy ← ask (.healthcheck entry.sandboxId)
      if healthy then do
        ask (.leaseWarm entry lock)
        done entry.sandboxId
      else do
        platform.retire entry
        createAndLease key lock

def provision (turns : Nat) (key : SessionKey) (existing : Option String) : DaytonaProgram String :=
  match existing with
  | some name => do
      let sandboxId ← ask (.get (.explicit name))
      ask (.start sandboxId)
      ask (.leaseExplicit sandboxId)
      done sandboxId
  | none => do
      let lock ← acquireLock turns key
      (platform.acquireSession key lock).catching (fun error =>
        (ask (.abandon lock)).bind fun _ => raised error)

def reapWarmEntry (turns : Nat) (entry : SandboxEntry) (releasedBefore : Option Nat) :
  DaytonaProgram Unit :=
  match entry.sessionKey with
  | none => done ()
  | some key => do
      let lock ← acquireLock turns key
      ensuring
        (do
          let warm ← ask (.stillWarm entry releasedBefore)
          if warm then platform.retire entry else done ())
        (ask (.leaveReaper key lock))

def reapAll (turns : Nat) (entries : List SandboxEntry) (releasedBefore : Option Nat) :
  DaytonaProgram Unit :=
  each entries (fun entry =>
    (platform.reapWarmEntry turns entry releasedBefore).catching (fun error =>
      if error = .cancelled then raised error else done ()))

def evictExcessWarm (turns : Nat) : DaytonaProgram Unit := do
  let entries ← ask .excess
  platform.reapAll turns entries none

def reapExpired (turns : Nat) : DaytonaProgram Unit := do
  let found ← ask .expired
  platform.reapAll turns found.2 (some found.1)
  platform.evictExcessWarm turns

/-- The lease of a session after its workspace was cleaned or kept; the answer says whether the
warm entries are counted again. -/
def partSession (lease : SandboxLease) (preserve : Bool) : DaytonaProgram Bool :=
  if preserve then (ask (.part lease.entry .parked)).bind fun _ => done true
  else do
    match ← caught (ask (.removeTree lease.entry.sandboxId)) with
    | .ok _ => (ask (.part lease.entry .cleaned)).bind fun _ => done true
    | .error .cancelled => raised .cancelled
    | .error _ => do
        ask (.dropEntry lease.entry)
        (platform.retire lease.entry).catching (fun error =>
          if error = .cancelled then raised error else done ())
        done false

def partExplicit (lease : SandboxLease) (preserve : Bool) : DaytonaProgram Bool := do
  ask (.dropEntry lease.entry)
  ask (.stop lease.entry.sandboxId)
  if platform.deleteOnDestroy && lease.entry.owned && !preserve then
    (ask (.delete lease.entry.sandboxId)).bind fun _ => done false
  else done false

def destroy (turns : Nat) (sandboxId : String) (preserve : Bool) : DaytonaProgram Unit := do
  match ← ask (.popLease sandboxId) with
  | none => done ()
  | some lease => do
      let evict ← ensuring
        (if lease.reusable then platform.partSession lease preserve
        else platform.partExplicit lease preserve)
        (ask (.leave lease))
      if evict then platform.evictExcessWarm turns else done ()

end DaytonaPlatform

inductive SandboxCall where
  | run (turns : Nat) (key : SessionKey) (existing : Option String) (preserve : Bool)
  | reapExpired (turns : Nat)

def DaytonaPlatform.serve (platform : DaytonaPlatform) : SandboxCall → DaytonaProgram Unit
  | .run turns key existing preserve =>
    (platform.provision turns key existing).bind (fun sandboxId =>
      platform.destroy turns sandboxId preserve)
  | .reapExpired turns => platform.reapExpired turns

abbrev SandboxPool := Pool DaytonaOp DaytonaOp.Answer DaytonaError Nat Processes Unit

def sandboxPool (platform : DaytonaPlatform) (calls : Nat → SandboxCall) : SandboxPool where
  state := {}
  thread task := platform.serve (calls task)

end AgentHarness.Sandbox
