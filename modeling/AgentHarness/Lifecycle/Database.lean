import Mathlib.Data.List.Dedup
import AgentHarness.Lifecycle.Repository

/-!
The records that lifecycle jobs delete, and the adapters that delete them.

A row keeps the columns that an adapter reads, its links and its time; an
artifact's row has no time of its own.  Objects and traces live outside the
database, under the ids that its rows hold.
-/

namespace AgentHarness.Lifecycle

open List RetentionCutoffs

structure SessionRow where
  (tenantId sessionId userId agentName : String)
  createdAt : Int
  workspaceSnapshotId : Option String := none
  deriving DecidableEq

structure RunRow where
  (tenantId runId sessionId : String)
  createdAt : Int
  inputArtifactIds : List String := []
  deriving DecidableEq

structure EventRow where
  (tenantId eventId runId : String)
  timestamp : Int
  deriving DecidableEq

structure ApprovalRow where
  (tenantId approvalId runId : String)
  createdAt : Int
  deriving DecidableEq

structure ArtifactRow where
  (tenantId artifactId runId : String)
  deriving DecidableEq

structure InputArtifactRow where
  (tenantId inputArtifactId userId : String)
  createdAt : Int
  deriving DecidableEq

structure ThreadFileRow where
  (tenantId fileId sessionId : String)
  createdAt : Int
  deriving DecidableEq

structure WorkspaceSnapshotRow where
  (tenantId snapshotId sessionId : String)
  createdAt : Int
  deriving DecidableEq

structure AguiThreadBindingRow where
  (tenantId userId threadId sessionId : String)
  createdAt : Int
  deriving DecidableEq

structure SdkSessionEntryRow where
  tenantId : String
  entryId : Nat
  sessionId : String
  modifiedAt : Int
  deriving DecidableEq

structure UserMemoryRow where
  (tenantId userId agentName : String)
  updatedAt : Int
  deriving DecidableEq

structure MemoryEntryRow where
  (tenantId userId entryId agentName : String)
  sourceSessionId : Option String := none
  createdAt : Int
  deriving DecidableEq

structure MemoryPolicyRow where
  (tenantId userId agentName : String)
  updatedAt : Int
  deriving DecidableEq

structure EvalRunRow where
  (tenantId evalRunId agentName : String)
  createdAt : Int
  deriving DecidableEq

structure EvalCaseResultRow where
  (tenantId evalRunId caseId : String)
  completedAt : Int
  deriving DecidableEq

structure EvalDatasetVersionRow where
  (tenantId createdBy datasetId : String)
  version : Nat
  agentName : String
  createdAt : Int
  fixtureObjectIds : List String := []
  deriving DecidableEq

structure QualityScoreRow where
  (tenantId scoreId runId agentName traceId : String)
  createdAt : Int
  deriving DecidableEq

structure QualityRecordRow where
  (tenantId recordId agentName : String)
  deriving DecidableEq

structure StoredObject where
  (tenantId objectId : String)
  storedAt : Int
  deriving DecidableEq

structure LangfuseTrace where
  traceId : String
  startedAt : Int
  deriving DecidableEq

inductive Record where
  | session (row : SessionRow)
  | run (row : RunRow)
  | event (row : EventRow)
  | approval (row : ApprovalRow)
  | artifact (row : ArtifactRow)
  | inputArtifact (row : InputArtifactRow)
  | threadFile (row : ThreadFileRow)
  | workspaceSnapshot (row : WorkspaceSnapshotRow)
  | aguiThreadBinding (row : AguiThreadBindingRow)
  | sdkSessionEntry (row : SdkSessionEntryRow)
  | userMemory (row : UserMemoryRow)
  | memoryEntry (row : MemoryEntryRow)
  | memoryConsent (row : MemoryPolicyRow)
  | memoryRetention (row : MemoryPolicyRow)
  | evalRun (row : EvalRunRow)
  | evalCaseResult (row : EvalCaseResultRow)
  | evalDatasetVersion (row : EvalDatasetVersionRow)
  | qualityScore (row : QualityScoreRow)
  | qualityRule (row : QualityRecordRow)
  | qualityIncident (row : QualityRecordRow)
  | object (row : StoredObject)
  | trace (row : LangfuseTrace)
  deriving DecidableEq

namespace Record

def session? : Record → Option SessionRow
  | .session row => some row
  | _ => none

def run? : Record → Option RunRow
  | .run row => some row
  | _ => none

def artifact? : Record → Option ArtifactRow
  | .artifact row => some row
  | _ => none

def inputArtifact? : Record → Option InputArtifactRow
  | .inputArtifact row => some row
  | _ => none

def workspaceSnapshot? : Record → Option WorkspaceSnapshotRow
  | .workspaceSnapshot row => some row
  | _ => none

def evalRun? : Record → Option EvalRunRow
  | .evalRun row => some row
  | _ => none

def evalDatasetVersion? : Record → Option EvalDatasetVersionRow
  | .evalDatasetVersion row => some row
  | _ => none

def qualityScore? : Record → Option QualityScoreRow
  | .qualityScore row => some row
  | _ => none

end Record

theorem nodup_noKeys : ([] : List (String × String)).Nodup := List.nodup_nil

structure Database where
  records : List Record := []
  sessionKeys : ((records.filterMap Record.session?).map
    fun row => (row.tenantId, row.sessionId)).Nodup := by exact nodup_noKeys
  evalRunKeys : ((records.filterMap Record.evalRun?).map
    fun row => (row.tenantId, row.evalRunId)).Nodup := by exact nodup_noKeys

namespace Database

def sessions (db : Database) : List SessionRow := db.records.filterMap Record.session?

def runs (db : Database) : List RunRow := db.records.filterMap Record.run?

def artifacts (db : Database) : List ArtifactRow := db.records.filterMap Record.artifact?

def inputArtifacts (db : Database) : List InputArtifactRow :=
  db.records.filterMap Record.inputArtifact?

def workspaceSnapshots (db : Database) : List WorkspaceSnapshotRow :=
  db.records.filterMap Record.workspaceSnapshot?

def evalRuns (db : Database) : List EvalRunRow := db.records.filterMap Record.evalRun?

def evalDatasetVersions (db : Database) : List EvalDatasetVersionRow :=
  db.records.filterMap Record.evalDatasetVersion?

def qualityScores (db : Database) : List QualityScoreRow :=
  db.records.filterMap Record.qualityScore?

variable {db : Database}

def without (db : Database) (removed : Record → Bool) : Database where
  records := db.records.filter (fun record => !removed record)
  sessionKeys := ((filter_sublist.filterMap Record.session?).map _).nodup db.sessionKeys
  evalRunKeys := ((filter_sublist.filterMap Record.evalRun?).map _).nodup db.evalRunKeys

end Database

structure LifecycleIndex where
  sessionIds : List String
  (runIds artifactIds inputArtifactIds snapshotIds evalRunIds evalDatasetIds traceIds : List String)

def expired (cutoff : Option Int) (time : Int) : Bool := cutoff.all fun limit => time < limit

namespace DataLifecycleJob

variable (job : DataLifecycleJob)

def coversSession (row : SessionRow) : Bool :=
  row.tenantId = job.tenantId &&
    match job.scope.kind with
    | .tenant => true
    | .user => row.userId = job.scope.subjectId
    | .session => row.sessionId = job.scope.subjectId
    | .agent => row.agentName = job.scope.subjectId

def coversEval (tenantId agentName : String) : Bool :=
  tenantId = job.tenantId &&
    match job.scope.kind with
    | .tenant => true
    | .agent => agentName = job.scope.subjectId
    | .user | .session => false

def coversInput (referenced : List String) (row : InputArtifactRow) : Bool :=
  row.tenantId = job.tenantId &&
    match job.scope.kind with
    | .tenant => true
    | .user => row.userId = job.scope.subjectId
    | .session | .agent => referenced.contains row.inputArtifactId

def coversScore (runIds : List String) (row : QualityScoreRow) : Bool :=
  row.tenantId = job.tenantId &&
    match job.scope.kind with
    | .tenant => true
    | .agent => row.agentName = job.scope.subjectId
    | .user | .session => runIds.contains row.runId

/-- `lifecycle_index`, once the cutoffs are read. -/
def indexWith (cutoffs : Option RetentionCutoffs) (db : Database) : LifecycleIndex :=
  let sessionIds := (db.sessions.filter (fun row => job.coversSession row &&
    expired (cutoffs.map RetentionCutoffs.sessions) row.createdAt)).map SessionRow.sessionId
  let runs := db.runs.filter (fun row => row.tenantId = job.tenantId &&
    sessionIds.contains row.sessionId)
  let runIds := runs.map RunRow.runId
  let evalCutoff := cutoffs.map evals
  { sessionIds, runIds
    artifactIds := (db.artifacts.filter (fun row => row.tenantId = job.tenantId &&
      runIds.contains row.runId)).map ArtifactRow.artifactId
    inputArtifactIds := (db.inputArtifacts.filter
      (job.coversInput (runs.flatMap RunRow.inputArtifactIds))).map
        InputArtifactRow.inputArtifactId
    snapshotIds := (db.workspaceSnapshots.filter (fun row => row.tenantId = job.tenantId &&
      sessionIds.contains row.sessionId)).map WorkspaceSnapshotRow.snapshotId
    evalRunIds := (db.evalRuns.filter (fun row =>
      job.coversEval row.tenantId row.agentName && expired evalCutoff row.createdAt)).map
        EvalRunRow.evalRunId
    evalDatasetIds := ((db.evalDatasetVersions.filter (fun row =>
      job.coversEval row.tenantId row.agentName && expired evalCutoff row.createdAt)).map
        EvalDatasetVersionRow.datasetId).dedup
    traceIds := ((db.qualityScores.filter (fun row => job.coversScore runIds row &&
      expired (cutoffs.map traces) row.createdAt)).map
        QualityScoreRow.traceId).dedup }

def cutoffs (job : DataLifecycleJob) : Except LifecycleError (Option RetentionCutoffs) :=
  if job.kind = .retention then
    match job.retentionCutoffs with
    | none => .error .keyError
    | some cutoffs => .ok (some cutoffs)
  else
    .ok none

/-- `lifecycle_index`. -/
def index (db : Database) : Except LifecycleError LifecycleIndex :=
  job.cutoffs.map fun cutoffs => job.indexWith cutoffs db

end DataLifecycleJob

inductive LifecycleAdapter where
  | objectStore
  | sdkSession
  | memory
  | langfuse
  | postgresql

namespace LifecycleAdapter

variable (job : DataLifecycleJob)

def memoryCovers (tenantId userId agentName : String) : Bool :=
  tenantId = job.tenantId &&
    match job.scope.kind with
    | .tenant => true
    | .user => userId = job.scope.subjectId
    | .agent => agentName = job.scope.subjectId
    | .session => false

/-- `MemoryLifecycleAdapter.delete`: it consults no cutoff. -/
def memoryRemoves : Record → Bool
  | .userMemory row => memoryCovers job row.tenantId row.userId row.agentName
  | .memoryEntry row =>
    if job.scope.kind = .session then
      row.tenantId = job.tenantId && row.sourceSessionId = some job.scope.subjectId
    else
      memoryCovers job row.tenantId row.userId row.agentName
  | .memoryConsent row | .memoryRetention row =>
    memoryCovers job row.tenantId row.userId row.agentName
  | _ => false

def objectStoreRemoves (index : LifecycleIndex) : Record → Bool
  | .object row => row.tenantId = job.tenantId &&
      (index.artifactIds ++ index.inputArtifactIds ++ index.snapshotIds).contains row.objectId
  | _ => false

def sdkSessionRemoves (index : LifecycleIndex) : Record → Bool
  | .sdkSessionEntry row => row.tenantId = job.tenantId && index.sessionIds.contains row.sessionId
  | _ => false

def langfuseRemoves (index : LifecycleIndex) : Record → Bool
  | .trace row => index.traceIds.contains row.traceId
  | _ => false

def removesQualityRecord (row : QualityRecordRow) : Bool :=
  job.kind ≠ .retention && row.tenantId = job.tenantId &&
    match job.scope.kind with
    | .tenant => true
    | .agent => row.agentName = job.scope.subjectId
    | .user | .session => false

def postgresqlRemoves (index : LifecycleIndex) : Record → Bool
  | .event row | .approval row | .artifact row | .qualityScore row | .run row =>
    row.tenantId = job.tenantId && index.runIds.contains row.runId
  | .threadFile row | .workspaceSnapshot row | .aguiThreadBinding row | .session row =>
    row.tenantId = job.tenantId && index.sessionIds.contains row.sessionId
  | .inputArtifact row =>
    row.tenantId = job.tenantId && index.inputArtifactIds.contains row.inputArtifactId
  | .evalCaseResult row | .evalRun row =>
    row.tenantId = job.tenantId && index.evalRunIds.contains row.evalRunId
  | .evalDatasetVersion row =>
    row.tenantId = job.tenantId && index.evalDatasetIds.contains row.datasetId
  | .qualityRule row | .qualityIncident row => removesQualityRecord job row
  | .sdkSessionEntry _ | .userMemory _ | .memoryEntry _ | .memoryConsent _
  | .memoryRetention _ | .object _ | .trace _ => false

def removes (index : LifecycleIndex) : LifecycleAdapter → Record → Bool
  | .objectStore => objectStoreRemoves job index
  | .sdkSession => sdkSessionRemoves job index
  | .memory => memoryRemoves job
  | .langfuse => langfuseRemoves index
  | .postgresql => postgresqlRemoves job index

def processed (adapter : LifecycleAdapter) (job : DataLifecycleJob) (index : LifecycleIndex)
  (db : Database) : Nat :=
  match adapter with
  | .objectStore =>
    index.artifactIds.length + index.inputArtifactIds.length + index.snapshotIds.length
  | .langfuse => index.traceIds.length
  | .sdkSession | .memory | .postgresql => (db.records.filter (adapter.removes job index)).length

def delete (adapter : LifecycleAdapter) (job : DataLifecycleJob) (db : Database) :
  Except LifecycleError (Nat × Database) :=
  match adapter with
  | .memory => .ok ((db.records.filter (memoryRemoves job)).length, db.without (memoryRemoves job))
  | _ => (job.index db).map (fun index =>
    (adapter.processed job index db, db.without (adapter.removes job index)))

end LifecycleAdapter

end AgentHarness.Lifecycle
