import AgentHarness.Lifecycle.Holds

/-!
What a retention job removes, against the cutoffs it was created with.
-/

namespace AgentHarness.Lifecycle

open Interaction List Database LifecycleAdapter

namespace Record

def time? : Record → Option Int
  | .session row | .run row => some row.createdAt
  | .event row => some row.timestamp
  | .approval row => some row.createdAt
  | .artifact _ => none
  | .inputArtifact row | .threadFile row | .workspaceSnapshot row | .aguiThreadBinding row =>
    some row.createdAt
  | .sdkSessionEntry row => some row.modifiedAt
  | .userMemory row => some row.updatedAt
  | .memoryEntry row => some row.createdAt
  | .memoryConsent row | .memoryRetention row => some row.updatedAt
  | .evalRun row => some row.createdAt
  | .evalCaseResult row => some row.completedAt
  | .evalDatasetVersion row | .qualityScore row => some row.createdAt
  | .qualityRule _ | .qualityIncident _ => none
  | .object row => some row.storedAt
  | .trace row => some row.startedAt

def cutoff (cutoffs : RetentionCutoffs) : Record → Int
  | .artifact _ | .inputArtifact _ | .threadFile _ | .workspaceSnapshot _ | .object _ =>
    cutoffs.artifacts
  | .qualityScore _ | .qualityRule _ | .qualityIncident _ | .trace _ => cutoffs.traces
  | .evalRun _ | .evalCaseResult _ | .evalDatasetVersion _ => cutoffs.evals
  | .session _ | .run _ | .event _ | .approval _ | .aguiThreadBinding _ | .sdkSessionEntry _
  | .userMemory _ | .memoryEntry _ | .memoryConsent _ | .memoryRetention _ => cutoffs.sessions

def newer (cutoffs : RetentionCutoffs) (record : Record) : Bool :=
  record.time?.any fun time => record.cutoff cutoffs < time

def names : Record → Bool
  | .session _ | .run _ | .artifact _ | .inputArtifact _ | .evalDatasetVersion _ => true
  | _ => false

def named : Record → Bool
  | .session _ | .run _ | .inputArtifact _ | .workspaceSnapshot _ | .object _ => true
  | _ => false

end Record

namespace DataLifecycleJob

variable (job : DataLifecycleJob) (cutoffs : RetentionCutoffs) (db : Database)

def leaves : Database :=
  db.without (fun record =>
    [LifecycleAdapter.objectStore, .sdkSession, .memory, .langfuse, .postgresql].any
      fun adapter => adapter.removes job (job.indexWith (some cutoffs) db) record)

def AgedSession (sessionId : String) : Prop :=
  ∃ row ∈ db.sessions, row.tenantId = job.tenantId ∧ row.createdAt < cutoffs.sessions ∧
    row.sessionId = sessionId

def AgedRun (runId : String) : Prop :=
  ∃ row ∈ db.runs, row.tenantId = job.tenantId ∧ job.AgedSession cutoffs db row.sessionId ∧
    row.runId = runId

def AgedEvalRun (evalRunId : String) : Prop :=
  ∃ row ∈ db.evalRuns, row.tenantId = job.tenantId ∧ row.createdAt < cutoffs.evals ∧
    row.evalRunId = evalRunId

def AgedDataset (datasetId : String) : Prop :=
  ∃ row ∈ db.evalDatasetVersions, row.tenantId = job.tenantId ∧
    row.createdAt < cutoffs.evals ∧ row.datasetId = datasetId

def AgedTrace (traceId : String) : Prop :=
  ∃ row ∈ db.qualityScores, row.tenantId = job.tenantId ∧ row.createdAt < cutoffs.traces ∧
    row.traceId = traceId

def TakenObject (objectId : String) : Prop :=
  (∃ row ∈ db.artifacts, row.tenantId = job.tenantId ∧ job.AgedRun cutoffs db row.runId ∧
    row.artifactId = objectId) ∨
  (∃ row ∈ db.inputArtifacts, row.tenantId = job.tenantId ∧ row.inputArtifactId = objectId) ∨
  ∃ row ∈ db.workspaceSnapshots, row.tenantId = job.tenantId ∧
    job.AgedSession cutoffs db row.sessionId ∧ row.snapshotId = objectId

def LiveInput (inputArtifactId : String) : Prop :=
  ∃ row ∈ db.runs, row.tenantId = job.tenantId ∧ ¬ job.AgedRun cutoffs db row.runId ∧
    inputArtifactId ∈ row.inputArtifactIds

def LiveSnapshot (snapshotId : String) : Prop :=
  ∃ row ∈ db.sessions, row.tenantId = job.tenantId ∧
    ¬ job.AgedSession cutoffs db row.sessionId ∧ row.workspaceSnapshotId = some snapshotId

def LiveObject (objectId : String) : Prop :=
  job.LiveSnapshot cutoffs db objectId ∨ job.LiveInput cutoffs db objectId ∨
  (∃ row ∈ db.artifacts, row.tenantId = job.tenantId ∧ ¬ job.AgedRun cutoffs db row.runId ∧
    row.artifactId = objectId) ∨
  ∃ row ∈ db.evalDatasetVersions, row.tenantId = job.tenantId ∧
    ¬ job.AgedDataset cutoffs db row.datasetId ∧ objectId ∈ row.fixtureObjectIds

/-- The rows that go with an old session, run, evaluation run or dataset, and the rows that
go in any case, are old enough themselves; and no input or snapshot among them is live. -/
structure RowsSpared : Prop where
  runs : ∀ row, .run row ∈ db.records → row.tenantId = job.tenantId →
    job.AgedRun cutoffs db row.runId → row.createdAt ≤ cutoffs.sessions
  events : ∀ row, .event row ∈ db.records → row.tenantId = job.tenantId →
    job.AgedRun cutoffs db row.runId → row.timestamp ≤ cutoffs.sessions
  approvals : ∀ row, .approval row ∈ db.records → row.tenantId = job.tenantId →
    job.AgedRun cutoffs db row.runId → row.createdAt ≤ cutoffs.sessions
  scores : ∀ row, .qualityScore row ∈ db.records → row.tenantId = job.tenantId →
    job.AgedRun cutoffs db row.runId → row.createdAt ≤ cutoffs.traces
  threadFiles : ∀ row, .threadFile row ∈ db.records → row.tenantId = job.tenantId →
    job.AgedSession cutoffs db row.sessionId → row.createdAt ≤ cutoffs.artifacts
  threadBindings : ∀ row, .aguiThreadBinding row ∈ db.records → row.tenantId = job.tenantId →
    job.AgedSession cutoffs db row.sessionId → row.createdAt ≤ cutoffs.sessions
  snapshots : ∀ row, .workspaceSnapshot row ∈ db.records → row.tenantId = job.tenantId →
    job.AgedSession cutoffs db row.sessionId →
      row.createdAt ≤ cutoffs.artifacts ∧ ¬ job.LiveSnapshot cutoffs db row.snapshotId
  inputArtifacts : ∀ row, .inputArtifact row ∈ db.records → row.tenantId = job.tenantId →
    row.createdAt ≤ cutoffs.artifacts ∧ ¬ job.LiveInput cutoffs db row.inputArtifactId
  evalCaseResults : ∀ row, .evalCaseResult row ∈ db.records → row.tenantId = job.tenantId →
    job.AgedEvalRun cutoffs db row.evalRunId → row.completedAt ≤ cutoffs.evals
  datasetVersions : ∀ row, .evalDatasetVersion row ∈ db.records →
    row.tenantId = job.tenantId → job.AgedDataset cutoffs db row.datasetId →
      row.createdAt ≤ cutoffs.evals

def memoryRecord : Record → Bool
  | .userMemory row | .memoryEntry row | .memoryConsent row | .memoryRetention row =>
    row.tenantId = job.tenantId
  | _ => false

def Spared : LifecycleAdapter → Prop
  | .objectStore => ∀ row, .object row ∈ db.records → row.tenantId = job.tenantId →
      job.TakenObject cutoffs db row.objectId →
        row.storedAt ≤ cutoffs.artifacts ∧ ¬ job.LiveObject cutoffs db row.objectId
  | .sdkSession => ∀ row, .sdkSessionEntry row ∈ db.records → row.tenantId = job.tenantId →
      job.AgedSession cutoffs db row.sessionId → row.modifiedAt ≤ cutoffs.sessions
  | .memory => ∀ record ∈ db.records, job.memoryRecord record → ¬ record.newer cutoffs
  | .langfuse => ∀ row, .trace row ∈ db.records → job.AgedTrace cutoffs db row.traceId →
      row.startedAt ≤ cutoffs.traces
  | .postgresql => job.RowsSpared cutoffs db

section

variable {job : DataLifecycleJob} {cutoffs : RetentionCutoffs} {db : Database}

section

variable (wholeTenant : job.scope.kind = .tenant)

include wholeTenant

end

end

section

variable {job : DataLifecycleJob} {cutoffs : RetentionCutoffs} {db : Database} {record : Record}
  {row : SessionRow}

section

variable (wholeTenant : job.scope.kind = .tenant)

include wholeTenant

end

section

variable (wholeTenant : job.scope.kind = .tenant)

include wholeTenant

end

section

variable (wholeTenant : job.scope.kind = .tenant)

include wholeTenant

end

end

end DataLifecycleJob

namespace DataLifecycle

section

def oneAdapter : DataLifecycle where
  adapters := ["postgresql"]
  distinctAdapters := nodup_singleton _
  backend _ := some .postgresql
  relatedScopes _ scope := [scope]
  idGenerator kind _ := kind

end

end DataLifecycle

end AgentHarness.Lifecycle
