import AgentHarness.Lifecycle.Clients
import AgentHarness.Text.Json
import Mathlib.Data.List.Infix

/-!
The controller's export jobs with the data that goes through them.

A pass keeps the fragments that its adapters hand out in memory and writes them, sanitised, into
one archive at its end; the marks of success are durable.  Service calls are those of
`Lifecycle.Service`.
-/

namespace AgentHarness.Lifecycle

open Collections Interaction Text LifecyclePort

def foldCase (char : Char) : Char :=
  if char = 'ſ' then 's'
  else if char = 'ı' ∨ char = 'İ' then 'i'
  else if char = '\u212A' then 'k'
  else char.toLower

def secretWords : List String :=
  ["apikey", "api_key", "api-key", "authorization", "credential", "password", "secret",
    "accesstoken", "access_token", "access-token", "refreshtoken", "refresh_token",
    "refresh-token"]

/-- `_SECRET_KEYS.search(key)`. -/
def secretKey (key : String) : Bool :=
  secretWords.any fun word => decide (word.toList <:+: key.toList.map foldCase)

section

variable (redactText : String → Nat → String)

mutual

def sanitizeExport (key : String) : Json → Json
  | .object members =>
    if secretKey key then .string "[REDACTED]" else .object (sanitizeMembers members)
  | .array items => if secretKey key then .string "[REDACTED]" else .array (sanitizeItems items)
  | .string text =>
    if secretKey key then .string "[REDACTED]" else .string (redactText text 1000000)
  | .null => if secretKey key then .string "[REDACTED]" else .null
  | .bool value => if secretKey key then .string "[REDACTED]" else .bool value
  | .number token => if secretKey key then .string "[REDACTED]" else .number token

def sanitizeItems : List Json → List Json
  | [] => []
  | item :: items => sanitizeExport "" item :: sanitizeItems items

def sanitizeMembers : List (String × Json) → List (String × Json)
  | [] => []
  | (childKey, child) :: members =>
    (childKey, sanitizeExport childKey child) :: sanitizeMembers members

end

end

structure ExportManifest where
  (tenantId jobId : String)
  scope : LifecycleScope
  createdAt : Int
  adapters : List LifecycleAdapterResult

structure ExportArchive where
  manifest : ExportManifest
  files : List (String × String)

/-- The service and the controller are given the same adapters.  `dumps` writes a fragment
down, or refuses a value that JSON has no form for. -/
structure Exporter extends DataLifecycle where
  artifactFree : "export-artifact" ∉ adapters
  distinctIds : Function.Injective (idGenerator "lifecycle")
  redactText : String → Nat → String
  dumps : Json → Except LifecycleError String

inductive ExportOp where
  | lifecycle (op : LifecycleOp)
  | «export» (adapter : String) (job : DataLifecycleJob)
  | put (tenantId objectId : String) (archive : ExportArchive)

abbrev ExportOp.Answer : ExportOp → Type
  | .lifecycle op => op.Answer
  | .export _ _ => Json × Nat
  | .put _ _ _ => Unit

abbrev ExportProgram := Program ExportOp ExportOp.Answer LifecycleError

namespace ExportPort

open Program

variable {α : Type}

abbrev lifecycle (program : LifecycleProgram α) : ExportProgram α :=
  program.embedded ExportOp.lifecycle fun _ answer => answer

abbrev «export» (adapter : String) (job : DataLifecycleJob) : ExportProgram (Json × Nat) :=
  perform (ExportOp.export adapter job) fun answer => answer

abbrev put (tenantId objectId : String) (archive : ExportArchive) : ExportProgram Unit :=
  perform (ExportOp.put tenantId objectId archive) fun answer => answer

end ExportPort

namespace Exporter

open Program DataLifecycleController

variable (exporter : Exporter) (job : DataLifecycleJob)

def runAdapter (adapter : String) (fragments : Dict String Json) :
  ExportProgram (Except LifecycleError (Nat × Dict String Json)) :=
  let call : ExportProgram (Except LifecycleError (Nat × Dict String Json)) :=
    if job.kind = .export then do
      let (fragment, count) ← ExportPort.export adapter job
      return .ok (count, fragments.set adapter (sanitizeExport exporter.redactText "" fragment))
    else do
      let count ← ExportPort.lifecycle (adapterDelete adapter job)
      return .ok (count, fragments)
  call.catching fun error => done (.error error)

def runAdapters : List LifecycleAdapterResult → DataLifecycleJob → Dict String Json →
    ExportProgram (DataLifecycleJob × Dict String Json)
  | [], running, fragments => done (running, fragments)
  | item :: rest, running, fragments =>
    if item.status = .succeeded then runAdapters rest running fragments
    else if exporter.adapters.contains item.adapter = false then raised .keyError
    else do
      let started := { item with status := .running, attempts := item.attempts + 1 }
      let running ← ExportPort.lifecycle (replaceAdapter running started)
      match ← exporter.runAdapter running item.adapter fragments with
      | .error error => do
          let running ← ExportPort.lifecycle (replaceAdapter running
            { started with
              status := .failed, errorCode := some error.typeName
              errorMessage := some "Adapter operation failed; retry is available." })
          if running.kind = .export then runAdapters rest running fragments
          else return (running, fragments)
      | .ok (count, fragments) => do
          let running ← ExportPort.lifecycle (replaceAdapter running
            { started with
              status := .succeeded, processedItems := count, errorCode := none
              errorMessage := none })
          runAdapters rest running fragments

def objectId (jobId : String) : String := "lifecycle_export_" ++ jobId

def fileName (adapter : String) : String := "data/" ++ adapter ++ ".json"

/-- `sorted(fragments.items())`, each written to its file. -/
def files (fragments : Dict String Json) : Except LifecycleError (List (String × String)) :=
  (fragments.entries.insertionSort fun left right => left.1 ≤ right.1).mapM
    (fun entry => (exporter.dumps entry.2).map fun text => (fileName entry.1, text))

def archive (createdAt : Int) (fragments : Dict String Json) : ExportProgram ExportArchive :=
  match exporter.files fragments with
  | .error error => raised error
  | .ok files => done
      { manifest :=
          { tenantId := job.tenantId, jobId := job.jobId, scope := job.scope, createdAt
            adapters := job.adapters }
        files }

def storeExport (fragments : Dict String Json) : ExportProgram DataLifecycleJob := do
  let createdAt ← ExportPort.lifecycle clock
  let archive ← exporter.archive job createdAt fragments
  ExportPort.put job.tenantId (objectId job.jobId) archive
  return { job with
    exportObjectId := some (objectId job.jobId)
    exportFilename := some ("data-export-" ++ scopeName job.scope.kind ++ "-" ++
      job.scope.subjectId ++ ".zip")
    adapters := job.adapters ++
      [{ adapter := "export-artifact", status := .succeeded, attempts := 1, processedItems := 1 }] }

def conclude (fragments : Dict String Json) : ExportProgram DataLifecycleJob :=
  if job.kind ≠ .export then done job
  else (exporter.storeExport job fragments).catching (fun error => done
    { job with
      adapters := job.adapters ++
        [{ adapter := "export-artifact", status := .failed, attempts := 1
           errorCode := some error.typeName
           errorMessage := some "Export artifact could not be stored; retry is available." }] })

def finish (fragments : Dict String Json) : ExportProgram (Option DataLifecycleJob) := do
  let job ← exporter.conclude job fragments
  let terminal := { job with status := outcome job, fencingToken := job.fencingToken + 1 }
  if (← ExportPort.lifecycle (compareAndSet .running terminal)) = false then
    raised (.conflict "data lifecycle job changed before completion")
  else
    return some terminal

def processOnce : ExportProgram (Option DataLifecycleJob) := do
  match ← ExportPort.lifecycle (listRunnable 1) with
  | [] => return none
  | queued :: _ => do
      let running := { queued with status := .running, fencingToken := queued.fencingToken + 1 }
      if (← ExportPort.lifecycle (compareAndSet .queued running)) = false then
        return none
      else do
        let blocking ← ExportPort.lifecycle
          (DataLifecycle.heldBack running.kind running.tenantId running.scope)
        match blocking with
        | some hold => do
            let marked ← ExportPort.lifecycle (markHoldFailure running hold.holdId)
            exporter.finish marked Dict.empty
        | none => do
            let (processed, fragments) ←
              exporter.runAdapters running.adapters running Dict.empty
            exporter.finish processed fragments

def serve : LifecycleRequest → ExportProgram Unit
  | .processOnce => exporter.processOnce.bind fun _ => done ()
  | request => ExportPort.lifecycle (exporter.toDataLifecycle.serve request)

end Exporter

structure Attempt where
  pass : Nat
  exported : List (String × Json) := []

namespace Attempt

def fragmentOf (exported : List (String × Json)) (adapter : String) : Option Json :=
  ((exported.filter fun entry => entry.1 = adapter).getLast?).map Prod.snd

end Attempt

structure ExportStore where
  base : LifecycleStore := {}
  archives : Dict (String × String) ExportArchive := Dict.empty
  /-- The last attempt at each job; no program reads it. -/
  attempts : Dict (String × String) Attempt := Dict.empty

structure ExportInput extends LifecycleInput where
  fragment : Json := .null

def DataLifecycleJob.key (job : DataLifecycleJob) : String × String := (job.tenantId, job.jobId)

namespace ExportStore

def noted (actor : Nat) (attempts : Dict (String × String) Attempt) :
    (op : ExportOp) → Except LifecycleError op.Answer → Dict (String × String) Attempt
  | .lifecycle (.compareAndSet .queued job), .ok true => attempts.set job.key { pass := actor }
  | .export adapter job, .ok (fragment, _) =>
    match attempts.get? job.key with
    | none => attempts
    | some attempt => attempts.set job.key
        { attempt with exported := attempt.exported ++ [(adapter, fragment)] }
  | _, _ => attempts

end ExportStore

namespace Exporter

variable (exporter : Exporter)

def answer (actor : Nat) (input : ExportInput) (store : ExportStore) :
    (op : ExportOp) → Except LifecycleError op.Answer × ExportStore
  | .lifecycle op =>
    let reply := exporter.toDataLifecycle.respond actor input.toLifecycleInput store.base op
    (reply.1, { store with base := reply.2 })
  | .export _ _ =>
    match input.outage with
    | none => (.ok (input.fragment, input.count), store)
    | some type => (.error (.outage type), store)
  | .put tenantId objectId archive =>
    let stored := { store with archives := store.archives.set (tenantId, objectId) archive }
    match input.outage with
    | none => (.ok (), stored)
    | some type => (.error (.outage type), if input.applied then stored else store)

def respond (actor : Nat) (input : ExportInput) (store : ExportStore) (op : ExportOp) :
  Except LifecycleError op.Answer × ExportStore :=
  let reply := exporter.answer actor input store op
  (reply.1, { reply.2 with attempts := ExportStore.noted actor store.attempts op reply.1 })

def component : Component ExportOp ExportOp.Answer LifecycleError Nat ExportStore ExportInput where
  respond := exporter.respond

def pool (requests : Nat → LifecycleRequest) :
  Pool ExportOp ExportOp.Answer LifecycleError Nat ExportStore Unit where
  state := {}
  thread actor := exporter.serve (requests actor)

end Exporter

end AgentHarness.Lifecycle
