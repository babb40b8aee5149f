import AgentHarness.Interaction.Pool
import AgentHarness.Knowledge.Chunking

/-!
Synchronising a source with its connector, and editing the source.

A synchronisation awaits the repository, the connector and the audit log one after the other,
and one handler answers for everything that fails after the job was stored.
-/

namespace AgentHarness.Knowledge

open Interaction

structure KnowledgeSyncRun where
  (tenantId syncId sourceReference : String)
  sourceRevision : Nat
  status : KnowledgeSyncStatus
  checkpointBefore : Checkpoint
  checkpointAfter : Checkpoint := Collections.Dict.empty
  snapshotId : Option String := none
  documentsSeen : Nat := 0
  chunksWritten : Nat := 0
  errorCode : Option String := none
  errorMessage : Option String := none
  createdBy : String
  createdAt : Int
  startedAt : Option Int := none
  completedAt : Option Int := none

def KnowledgeSyncRun.key (sync : KnowledgeSyncRun) : String × String := (sync.tenantId, sync.syncId)

def KnowledgeSource.key (source : KnowledgeSource) : String × String :=
  (source.tenantId, source.reference)

structure SnapshotPublication where
  expectedRevision : Nat
  source : KnowledgeSource
  snapshot : KnowledgeSnapshot
  chunks : List KnowledgeChunk
  sync : KnowledgeSyncRun

inductive SyncOp where
  | clock
  | generateId (kind : String)
  | getSource (tenantId reference : String)
  | addSync (sync : KnowledgeSyncRun)
  | connect (kind : KnowledgeSourceKind) (config : KnowledgeSourceConfig) (checkpoint : Checkpoint)
  | compareAndSetSource (expectedRevision : Nat) (source : KnowledgeSource)
  | publishSnapshot (publication : SnapshotPublication)
  | putSync (sync : KnowledgeSyncRun)
  | record (tenantId actorId action reference : String) (details : List (String × String))

namespace SyncOp

abbrev Answer : SyncOp → Type
  | clock => Int
  | generateId _ => String
  | getSource _ _ => KnowledgeSource
  | addSync _ => Unit
  | connect _ _ _ => ConnectorSyncResult
  | compareAndSetSource _ _ | publishSnapshot _ => Bool
  | putSync _ | record _ _ _ _ _ => Unit

end SyncOp

abbrev SyncProgram (α : Type) := Program SyncOp SyncOp.Answer KnowledgeError α

namespace SyncOp

abbrev ask (op : SyncOp) : SyncProgram op.Answer := Program.perform op fun answer => answer

def refuse (refused : Prop) [Decidable refused] (error : KnowledgeError) : SyncProgram Unit :=
  if refused then .raised error else .done ()

end SyncOp

namespace KnowledgeError

/-- `type(error).__name__`. -/
def code : KnowledgeError → String
  | notFound _ => "NotFoundError"
  | conflict _ => "ConflictError"
  | connector _ => "KnowledgeConnectorError"
  | keyError => "KeyError"
  | unavailable => "ConnectionError"

/-- The first thousand characters of `str(error)`. -/
def text : KnowledgeError → String
  | notFound message | conflict message | connector message =>
    String.ofList (message.toList.take 1000)
  | keyError | unavailable => ""

def isConflict : KnowledgeError → Bool
  | conflict _ => true
  | _ => false

def reported : KnowledgeError → KnowledgeError
  | conflict message => .conflict message
  | connector message => .connector message
  | _ => .connector "knowledge source synchronization failed"

end KnowledgeError

structure SyncRequest where
  (tenantId actorId reference : String)

structure ReplaceSourceRequest where
  (tenantId actorId reference : String)
  expectedRevision : Nat
  displayName : String
  description : String := ""
  config : KnowledgeSourceConfig
  acl : KnowledgeAcl := {}
  enabled : Bool := true

inductive SourceRequest where
  | sync (request : SyncRequest)
  | replace (request : ReplaceSourceRequest)

def KnowledgeSourceConfig.kind : KnowledgeSourceConfig → KnowledgeSourceKind
  | file _ => .file
  | web _ _ _ => .web

structure KnowledgeSyncService where
  chunker : Chunker
  audits : Bool := true

namespace KnowledgeSyncService

open Program SyncOp

variable (service : KnowledgeSyncService)

/-- `_record`. -/
def recordAction (tenantId actorId action reference : String) (details : List (String × String)) :
  SyncProgram Unit :=
  if service.audits then ask (.record tenantId actorId action reference details) else done ()

def getOwnedSource (tenantId ownerUserId reference : String) : SyncProgram KnowledgeSource := do
  let source ← ask (.getSource tenantId reference)
  refuse (source.createdBy ≠ ownerUserId) (.notFound ("knowledge source not found: " ++ reference))
  done source

variable (request : SyncRequest)

def startedSync (source : KnowledgeSource) (syncId : String) (now : Int) : KnowledgeSyncRun where
  tenantId := request.tenantId
  syncId
  sourceReference := request.reference
  sourceRevision := source.revision
  status := .running
  checkpointBefore := source.checkpoint
  createdBy := request.actorId
  createdAt := now
  startedAt := some now

def refreshedSource (source : KnowledgeSource) (syncId : String) (completedAt : Int) :
  KnowledgeSource :=
  { source with
    revision := source.revision + 1, health := .healthy, lastSyncId := some syncId
    lastSyncAt := some completedAt, lastError := none, updatedBy := request.actorId
    updatedAt := completedAt }

def degradedSource (source : KnowledgeSource) (syncId : String) (error : KnowledgeError)
  (completedAt : Int) : KnowledgeSource :=
  { source with
    revision := source.revision + 1, health := .degraded, lastSyncId := some syncId
    lastSyncAt := some completedAt, lastError := some error.text, updatedBy := request.actorId
    updatedAt := completedAt }

def keepSnapshot (source : KnowledgeSource) (sync : KnowledgeSyncRun)
  (result : ConnectorSyncResult) : SyncProgram KnowledgeSyncRun := do
  let completedAt ← ask .clock
  let stored ← ask (.compareAndSetSource source.revision
    (refreshedSource request source sync.syncId completedAt))
  refuse (stored = false) (.conflict "knowledge source changed while sync completed")
  let completed : KnowledgeSyncRun :=
    { sync with
      status := .unchanged, checkpointAfter := result.checkpoint
      snapshotId := source.activeSnapshotId, documentsSeen := result.documents.length
      completedAt := some completedAt }
  ask (.putSync completed)
  done completed

def publication (source : KnowledgeSource) (sync : KnowledgeSyncRun) (result : ConnectorSyncResult)
  (snapshotId : String) (chunks : List KnowledgeChunk) (completedAt : Int) :
  SnapshotPublication where
  expectedRevision := source.revision
  source :=
    { refreshedSource request source sync.syncId completedAt with
      activeSnapshotId := some snapshotId, checkpoint := result.checkpoint }
  snapshot :=
    { tenantId := request.tenantId, snapshotId, sourceReference := source.reference
      sourceRevision := source.revision + 1, contentHash := KnowledgeSnapshot.digestChunks chunks
      documentCount := result.documents.length, chunkCount := chunks.length
      checkpoint := result.checkpoint, createdAt := completedAt }
  chunks
  sync :=
    { sync with
      status := .succeeded, checkpointAfter := result.checkpoint, snapshotId := some snapshotId
      documentsSeen := result.documents.length, chunksWritten := chunks.length
      completedAt := some completedAt }

def buildSnapshot (source : KnowledgeSource) (sync : KnowledgeSyncRun)
  (result : ConnectorSyncResult) : SyncProgram KnowledgeSyncRun := do
  let snapshotId ← ask (.generateId "knowledge_snapshot")
  let now ← ask .clock
  let chunks := service.chunker.chunkDocuments request.tenantId source.reference snapshotId now
    result.documents
  refuse (chunks = []) (.connector "connector documents produced no chunks")
  let completedAt ← ask .clock
  let publication := publication request source sync result snapshotId chunks completedAt
  let published ← ask (.publishSnapshot publication)
  refuse (published = false)
    (.conflict "knowledge source changed while snapshot was published")
  service.recordAction request.tenantId request.actorId "knowledge.source.sync" source.reference
    [("sync_id", sync.syncId), ("snapshot_id", snapshotId),
      ("documents", toString result.documents.length), ("chunks", toString chunks.length)]
  done publication.sync

/-- The body of the `try`. -/
def attempt (source : KnowledgeSource) (sync : KnowledgeSyncRun) :
  SyncProgram KnowledgeSyncRun := do
  let result ← ask (.connect source.kind source.config source.checkpoint)
  refuse (result.documents = []) (.connector "connector returned no documents")
  if source.activeSnapshotId.isSome ∧
      result.checkpoint.get? "contentHash" = source.checkpoint.get? "contentHash" then
    keepSnapshot request source sync result
  else service.buildSnapshot request source sync result

def failedSync (sync : KnowledgeSyncRun) (error : KnowledgeError) (completedAt : Int) :
  KnowledgeSyncRun :=
  { sync with
    status := .failed, errorCode := some error.code, errorMessage := some error.text
    completedAt := some completedAt }

/-- A conflict says nothing about the connector, so the source is left as it is. -/
def degrade (source : KnowledgeSource) (sync : KnowledgeSyncRun) (error : KnowledgeError)
  (completedAt : Int) : SyncProgram Unit :=
  if error.isConflict then done ()
  else
    (ask (.compareAndSetSource source.revision
      (degradedSource request source sync.syncId error completedAt))).bind fun _ => done ()

/-- The `except Exception`. -/
def fail (source : KnowledgeSource) (sync : KnowledgeSyncRun) (error : KnowledgeError) :
  SyncProgram KnowledgeSyncRun := do
  let completedAt ← ask .clock
  ask (.putSync (failedSync sync error completedAt))
  degrade request source sync error completedAt
  service.recordAction request.tenantId request.actorId "knowledge.source.sync" source.reference
    [("sync_id", sync.syncId), ("outcome", "failed"), ("error_code", error.code)]
  raised error.reported

def syncSource : SyncProgram KnowledgeSyncRun := do
  let source ← getOwnedSource request.tenantId request.actorId request.reference
  refuse (source.health = .disabled)
    (.conflict "disabled knowledge source cannot be synchronized")
  let now ← ask .clock
  let syncId ← ask (.generateId "knowledge_sync")
  let sync := startedSync request source syncId now
  ask (.addSync sync)
  (service.attempt request source sync).catching (service.fail request source sync)

def personalAcl (actorId : String) (requested : KnowledgeAcl) : KnowledgeAcl where
  visibility := .restricted
  userIds := (actorId ::
    if requested.visibility = .restricted then requested.userIds else []).eraseDups
  workloadIds := requested.workloadIds

def replacedSource (request : ReplaceSourceRequest) (current : KnowledgeSource) (now : Int) :
  KnowledgeSource :=
  { current with
    displayName := request.displayName, description := request.description, config := request.config
    acl := personalAcl request.actorId request.acl
    health := if request.enabled then .pending else .disabled
    revision := current.revision + 1, updatedBy := request.actorId, updatedAt := now
    lastError := none }

def replaceSource (request : ReplaceSourceRequest) : SyncProgram KnowledgeSource := do
  let current ← getOwnedSource request.tenantId request.actorId request.reference
  refuse (current.revision ≠ request.expectedRevision)
    (.conflict "knowledge source revision changed")
  refuse (request.config.kind ≠ current.kind)
    (.conflict "knowledge source connector kind cannot be changed")
  let now ← ask .clock
  let updated := replacedSource request current now
  let stored ← ask (.compareAndSetSource current.revision updated)
  refuse (stored = false) (.conflict "knowledge source changed while it was updated")
  service.recordAction request.tenantId request.actorId "knowledge.source.update" request.reference
    [("enabled", if request.enabled then "True" else "False")]
  done updated

def serve : SourceRequest → SyncProgram Unit
  | .sync request => (service.syncSource request).bind fun _ => done ()
  | .replace request => (service.replaceSource request).bind fun _ => done ()

end KnowledgeSyncService

end AgentHarness.Knowledge
