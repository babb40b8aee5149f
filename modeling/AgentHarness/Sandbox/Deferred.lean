import AgentHarness.Collections.Dict
import AgentHarness.Interaction.Pool

/-!
The provider that defers a remote sandbox until a tool runs.
-/

namespace AgentHarness.Deferred

open Collections Interaction

/-- A lease object; `destroy` takes it out of the table, and tasks may still hold it. -/
abbrev Lease := Nat

abbrev Remote := Nat

abbrev Change := Nat

inductive DeferredError where
  /-- `ValueError`: the deferred sandbox handle is not active. -/
  | notActive
  | directory
  /-- The backend fails, or the task is cancelled while it waits. -/
  | interrupted

def mayMutateWorkspace (argv : List String) : Bool :=
  match argv with
  | [] => false
  | "bash" :: _ => true
  | "python3" :: "-c" :: _ :: operation :: _ => operation = "write" || operation = "edit"
  | _ => false

def bundlePythonTool (runner path encoded : String) : List String :=
  ["python3", "-c", runner, path, encoded]

inductive DeferredOp where
  | acquireSlot
  | releaseSlot
  /-- `tempfile.mkdtemp`. -/
  | makePath
  | storeLease (sandboxId : String)
  /-- The first lines of `_ensure_remote`. -/
  | lookUp (sandboxId : String)
  | enter (lease : Lease)
  | leave (lease : Lease)
  | readRemote (lease : Lease)
  | provisionRemote (lease : Lease)
  | prepareRemote (lease : Lease) (remote : Remote)
  | keepRemote (lease : Lease) (remote : Remote)
  | markDirty (sandboxId : String)
  | executeRemote (lease : Lease) (remote : Remote) (argv : List String)
  /-- The first lines of `collect`. -/
  | inspect (sandboxId : String)
  | collectRemote (lease : Lease) (remote : Remote)
  | popLease (sandboxId : String)
  | destroyRemote (remote : Remote)
  /-- `shutil.rmtree` of the handle's path. -/
  | removePath (sandboxId : String)

abbrev DeferredOp.Answer : DeferredOp → Type
  | .makePath => String
  | .lookUp _ => Lease × Option Remote
  | .readRemote _ => Option Remote
  | .provisionRemote _ => Remote
  | .inspect _ => Lease × Option Remote × Bool
  | .popLease _ => Option (Lease × Option Remote)
  | _ => Unit

abbrev DeferredProgram := Program DeferredOp DeferredOp.Answer DeferredError

namespace DeferredPort

abbrev call (op : DeferredOp) : DeferredProgram op.Answer :=
  Program.perform op fun answer => answer

end DeferredPort

open Program DeferredPort

def provision : DeferredProgram Unit := do
  call .acquireSlot
  let sandboxId ← (call .makePath).catching (fun error =>
    (call .releaseSlot).bind fun _ => raised error)
  call (.storeLease sandboxId)

/-- The body of `async with lease.lock`. -/
def ensureLocked (lease : Lease) : DeferredProgram Remote := do
  match ← call (.readRemote lease) with
  | some remote => return remote
  | none =>
    let provisioned ← call (.provisionRemote lease)
    (call (.prepareRemote lease provisioned)).catching (fun error =>
      (call (.destroyRemote provisioned)).bind fun _ => raised error)
    call (.keepRemote lease provisioned)
    return provisioned

variable (sandboxId : String)

/-- `_ensure_remote`, with the lease that it looked up. -/
def ensureRemote : DeferredProgram (Lease × Remote) := do
  let (lease, remote) ← call (.lookUp sandboxId)
  match remote with
  | some remote => return (lease, remote)
  | none =>
    call (.enter lease)
    let remote ← (ensureLocked lease).ensuring (call (.leave lease))
    return (lease, remote)

def execute (argv : List String) : DeferredProgram Unit := do
  let (lease, remote) ← ensureRemote sandboxId
  if mayMutateWorkspace argv then call (.markDirty sandboxId) else done ()
  call (.executeRemote lease remote argv)

def collect : DeferredProgram Unit := do
  let (lease, remote, workspaceMayBeDirty) ← call (.inspect sandboxId)
  match remote, workspaceMayBeDirty with
  | some remote, true => call (.collectRemote lease remote)
  | _, _ => done ()

def destroy : DeferredProgram Unit := do
  match ← call (.popLease sandboxId) with
  | none => call (.removePath sandboxId)
  | some (_, remote) =>
    let destroyed : DeferredProgram Unit :=
      match remote with
      | none => done ()
      | some remote => call (.destroyRemote remote)
    destroyed.ensuring ((call (.removePath sandboxId)).bind fun _ => call .releaseSlot)

inductive DeferredRequest where
  | provision
  | execute (sandboxId : String) (argv : List String)
  | collect (sandboxId : String)
  | destroy (sandboxId : String)

def DeferredRequest.serve : DeferredRequest → DeferredProgram Unit
  | .provision => Deferred.provision
  | .execute sandboxId argv => Deferred.execute sandboxId argv
  | .collect sandboxId => Deferred.collect sandboxId
  | .destroy sandboxId => Deferred.destroy sandboxId

structure LeaseRecord where
  remote : Option Remote := none
  workspaceMayBeDirty : Bool := false
  made : List Change := []
  gathered : List Change := []

structure DeferredState where
  maxActiveRuns : Nat := 2
  heldSlots : Nat := 0
  /-- The names of all local directories, and who made each; a name is not chosen twice. -/
  names : Dict String Nat := Dict.empty
  leases : Dict String Lease := Dict.empty
  records : Lease → LeaseRecord := fun _ => {}
  held : Dict Lease Nat := Dict.empty
  nextLease : Lease := 0
  nextRemote : Remote := 0
  provisioned : List (Remote × Lease) := []
  /-- The remote sandboxes for which the backend's `destroy` has been called. -/
  destroyed : List Remote := []
  /-- The tasks that have found a lease without a remote sandbox and are about to get it one; no
  program reads it. -/
  getting : List (Nat × Lease) := []
  /-- The tasks that hold a slot for which no lease stands; no program reads it. -/
  between : List Nat := []
  /-- The task that took a lease out of the table; no program reads it. -/
  poppedBy : Dict Lease Nat := Dict.empty
  /-- What commands had changed when a collection began; no program reads it. -/
  asked : Dict Nat (Lease × List Change) := Dict.empty

structure DeferredInput where
  failed : Bool := false
  newId : String := ""
  changes : List Change := []

namespace DeferredState

def update (state : DeferredState) (lease : Lease) (change : LeaseRecord → LeaseRecord) :
  DeferredState :=
  { state with records := Function.update state.records lease (change (state.records lease)) }

def attempt (input : DeferredInput) (state : DeferredState) {α : Type}
  (reply : Except DeferredError α × DeferredState) : Except DeferredError α × DeferredState :=
  if input.failed then (.error .interrupted, state) else reply

def acknowledged (input : DeferredInput) : Except DeferredError Unit :=
  if input.failed then .error .interrupted else .ok ()

def respond (actor : Nat) (input : DeferredInput) (state : DeferredState) :
    (op : DeferredOp) → Except DeferredError op.Answer × DeferredState
  | .acquireSlot =>
    attempt input state (.ok (),
      { state with
        heldSlots := state.heldSlots + 1, between := actor :: state.between })
  | .releaseSlot =>
    (.ok (),
      { state with
        heldSlots := state.heldSlots - 1, between := state.between.erase actor })
  | .makePath =>
    if input.failed ∨ (state.names.get? input.newId).isSome then (.error .directory, state)
    else (.ok input.newId, { state with names := state.names.set input.newId actor })
  | .storeLease sandboxId =>
    (.ok (),
      { state with
        leases := state.leases.set sandboxId state.nextLease
        records := Function.update state.records state.nextLease {}
        nextLease := state.nextLease + 1, between := state.between.erase actor })
  | .lookUp sandboxId =>
    match state.leases.get? sandboxId with
    | none => (.error .notActive, state)
    | some lease =>
      (.ok (lease, (state.records lease).remote), if (state.records lease).remote = none then
          { state with getting := (actor, lease) :: state.getting }
        else state)
  | .enter lease =>
    if input.failed then
      (.error .interrupted, { state with getting := state.getting.erase (actor, lease) })
    else (.ok (), { state with held := state.held.set lease actor })
  | .leave lease =>
    (.ok (),
      { state with
        held := state.held.erase lease, getting := state.getting.erase (actor, lease) })
  | .readRemote lease => (.ok (state.records lease).remote, state)
  | .provisionRemote lease =>
    attempt input state (.ok state.nextRemote,
      { state with
        nextRemote := state.nextRemote + 1
        provisioned := (state.nextRemote, lease) :: state.provisioned })
  | .prepareRemote _ _ => (acknowledged input, state)
  | .keepRemote lease remote =>
    (.ok (), state.update lease fun record => { record with remote := some remote })
  | .markDirty sandboxId =>
    match state.leases.get? sandboxId with
    | none => (.error .notActive, state)
    | some lease =>
      (.ok (), state.update lease fun record => { record with workspaceMayBeDirty := true })
  | .executeRemote lease _ _ =>
    (acknowledged input,
      state.update lease fun record => { record with made := input.changes ++ record.made })
  | .inspect sandboxId =>
    match state.leases.get? sandboxId with
    | none => (.error .notActive, state)
    | some lease =>
      let record := state.records lease
      (.ok (lease, record.remote, record.workspaceMayBeDirty),
        { state with asked := state.asked.set actor (lease, record.made) })
  | .collectRemote lease _ =>
    attempt input state (.ok (),
      state.update lease fun record => { record with gathered := record.made ++ record.gathered })
  | .popLease sandboxId =>
    match state.leases.get? sandboxId with
    | none => (.ok none, state)
    | some lease =>
      (.ok (some (lease, (state.records lease).remote)),
        { state with
          leases := state.leases.erase sandboxId, poppedBy := state.poppedBy.set lease actor
          between := actor :: state.between })
  | .destroyRemote remote =>
    (acknowledged input, { state with destroyed := remote :: state.destroyed })
  | .removePath _ => (.ok (), state)

def component : Component DeferredOp DeferredOp.Answer DeferredError Nat DeferredState
  DeferredInput where
  respond

end DeferredState

def start (maxActiveRuns : Nat) (requests : Nat → DeferredRequest) :
  Pool DeferredOp DeferredOp.Answer DeferredError Nat DeferredState Unit where
  state := { maxActiveRuns }
  thread actor := (requests actor).serve

end AgentHarness.Deferred
