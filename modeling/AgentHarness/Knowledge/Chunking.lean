import AgentHarness.Collections.Dict
import AgentHarness.Hashing.Sha256
import AgentHarness.Text.Characters
import AgentHarness.Text.Json
import Mathlib.Data.List.Sort

/-!
Knowledge bases, their sources, and the snapshots and chunks that are searched.

Instants are integers (microseconds in UTC).
-/

namespace AgentHarness.Knowledge

open Collections

inductive KnowledgeSourceKind where
  | file
  | web
  deriving DecidableEq

inductive KnowledgeSourceHealth where
  | pending
  | healthy
  | degraded
  | disabled
  deriving DecidableEq

inductive KnowledgeSyncStatus where
  | queued
  | running
  | succeeded
  | unchanged
  | failed
  deriving DecidableEq

inductive KnowledgeVisibility where
  | tenant
  | restricted
  deriving DecidableEq

inductive KnowledgeResultTrust where
  | sensitive
  | untrusted

structure KnowledgeAcl where
  visibility : KnowledgeVisibility := .tenant
  userIds : List String := []
  workloadIds : List String := []

def KnowledgeAcl.allows (acl : KnowledgeAcl) (actorId : String) : Bool :=
  if acl.visibility = .tenant then true
  else if "trigger:".toList.isPrefixOf actorId.toList then actorId ∈ acl.workloadIds
  else actorId ∈ acl.userIds

structure KnowledgeInputDocument where
  (documentId title content : String)
  sourceUri : Option String := none

inductive KnowledgeSourceConfig where
  | file (documents : List KnowledgeInputDocument)
  | web (url : String) (title : Option String) (maxBytes : Nat)

inductive CheckpointValue where
  | text (value : String)
  | number (value : Int)
  deriving DecidableEq

abbrev Checkpoint := Dict String CheckpointValue

structure KnowledgeBase where
  (tenantId reference displayName : String)
  description : String := ""
  sourceReferences : List String := []
  revision : Nat
  (createdBy updatedBy : String)
  (createdAt updatedAt : Int)

structure KnowledgeSource where
  (tenantId reference displayName : String)
  description : String := ""
  kind : KnowledgeSourceKind
  config : KnowledgeSourceConfig
  acl : KnowledgeAcl := {}
  revision : Nat
  health : KnowledgeSourceHealth
  activeSnapshotId : Option String := none
  checkpoint : Checkpoint := Dict.empty
  lastSyncId : Option String := none
  lastSyncAt : Option Int := none
  lastError : Option String := none
  (createdBy updatedBy : String)
  (createdAt updatedAt : Int)

def KnowledgeSource.resultTrust (source : KnowledgeSource) : KnowledgeResultTrust :=
  match source.kind with
  | .web => .untrusted
  | .file => .sensitive

structure KnowledgeChunk where
  (tenantId snapshotId sourceReference chunkId documentId : String)
  ordinal : Nat
  (title sourceUri content contentHash : String)
  tokenTerms : List String
  createdAt : Int

structure KnowledgeCitation where
  knowledgeBaseReference : String
  (sourceReference sourceDisplayName snapshotId documentId chunkId title uri : String)

structure KnowledgeSearchHit (F : Type) where
  content : String
  score : F
  trust : KnowledgeResultTrust
  citation : KnowledgeCitation
  matchedTerms : List String

structure KnowledgeSnapshotBinding where
  (knowledgeBaseReference sourceReference snapshotId : String)
  trust : KnowledgeResultTrust

structure SearchKnowledgeResponse (F : Type) where
  hits : List (KnowledgeSearchHit F)
  searchedSnapshotIds : List String

inductive KnowledgeError where
  | notFound (message : String)
  | conflict (message : String)
  | connector (message : String)
  | keyError
  | unavailable

open Hashing (encode sha256)
open Text (Json)

structure ConnectorDocument where
  (documentId title content sourceUri : String)

structure ConnectorSyncResult where
  documents : List ConnectorDocument
  checkpoint : Checkpoint

structure Chunker where
  chunkCharacters : Nat := 1600
  chunkOverlap : Nat := 240
  overlapSmaller : chunkOverlap < chunkCharacters := by decide
  tokenize : String → List String

namespace Chunker

variable (chunker : Chunker)

def unifyBreaks : List Char → List Char
  | '\r' :: '\n' :: rest => '\n' :: unifyBreaks rest
  | char :: rest => char :: unifyBreaks rest
  | [] => []

/-- The boundaries of `str.splitlines`. -/
def isLineBreak (char : Char) : Bool :=
  let code := char.toNat
  (0x0A ≤ code && code ≤ 0x0D) || (0x1C ≤ code && code ≤ 0x1E) || code = 0x85 ||
    code = 0x2028 || code = 0x2029

def splitLines (line : List Char) : List Char → List (List Char)
  | [] => if line = [] then [] else [line.reverse]
  | '\r' :: '\n' :: rest => line.reverse :: splitLines [] rest
  | char :: rest =>
    if isLineBreak char then line.reverse :: splitLines [] rest
    else splitLines (char :: line) rest

def stripRight (chars : List Char) : List Char := (chars.reverse.dropWhile Text.isSpace).reverse

def stripBoth (chars : List Char) : List Char := stripRight (chars.dropWhile Text.isSpace)

def cleaned (content : String) : List Char :=
  stripBoth (['\n'].intercalate ((splitLines [] (unifyBreaks content.toList)).map stripRight))

/-- `content.rfind(pattern, start, stop)`. -/
def rfind (pattern content : List Char) (start stop : Nat) : Int :=
  match ((List.range (stop + 1)).filter (fun index =>
    start ≤ index && index + pattern.length ≤ stop &&
      pattern.isPrefixOf (content.drop index))).getLast? with
  | some index => index
  | none => -1

/-- Where the window that begins at `start` ends: at a boundary in its second half, if there
is one. -/
def windowEnd (content : List Char) (start : Nat) : Nat :=
  let stop := min content.length (start + chunker.chunkCharacters)
  if stop < content.length then
    let boundary := max (max (rfind ['\n'] content start stop) (rfind ['。'] content start stop))
      (rfind ['.', ' '] content start stop)
    if (start + chunker.chunkCharacters / 2 : Nat) < boundary then boundary.toNat + 1 else stop
  else stop

def windows (content : List Char) : Nat → Nat → List (List Char)
  | 0, _ => []
  | fuel + 1, start =>
    if start < content.length then
      let stop := chunker.windowEnd content start
      stripBoth ((content.take stop).drop start) ::
        if content.length ≤ stop then []
        else windows content fuel (max (start + 1) (stop - chunker.chunkOverlap))
    else []

def chunkOf (tenantId sourceReference snapshotId : String) (now : Int)
  (document : ConnectorDocument) (window : List Char × Nat) : KnowledgeChunk :=
  let content := String.ofList window.1
  let contentHash := sha256 (encode content)
  { tenantId, snapshotId, sourceReference
    chunkId := String.ofList ((sha256 (encode (sourceReference ++ "\x00" ++ document.documentId ++
      "\x00" ++ toString window.2 ++ "\x00" ++ contentHash))).toList.take 40)
    documentId := document.documentId, ordinal := window.2, title := document.title
    sourceUri := document.sourceUri, content, contentHash
    tokenTerms := chunker.tokenize (document.title ++ "\n" ++ content), createdAt := now }

def chunkDocuments (tenantId sourceReference snapshotId : String) (now : Int)
  (documents : List ConnectorDocument) : List KnowledgeChunk :=
  documents.flatMap (fun document =>
    let content := cleaned document.content
    let filled := (chunker.windows content content.length 0).filter (fun window => window ≠ [])
    filled.zipIdx.map (chunker.chunkOf tenantId sourceReference snapshotId now document))

end Chunker

def KnowledgeChunk.dump (chunk : KnowledgeChunk) : Json :=
  .object [("chunkId", .string chunk.chunkId), ("contentHash", .string chunk.contentHash),
    ("documentId", .string chunk.documentId), ("ordinal", .number (.ofNat chunk.ordinal)),
    ("sourceUri", .string chunk.sourceUri), ("title", .string chunk.title)]

structure KnowledgeSnapshot where
  (tenantId snapshotId sourceReference : String)
  sourceRevision : Nat
  contentHash : String
  (documentCount chunkCount : Nat)
  checkpoint : Checkpoint
  createdAt : Int

def KnowledgeSnapshot.digestChunks (chunks : List KnowledgeChunk) : String :=
  sha256 (encode (Json.array ((chunks.insertionSort (fun first second =>
    first.chunkId ≤ second.chunkId)).map KnowledgeChunk.dump)).dumps)

def KnowledgeSnapshot.key (snapshot : KnowledgeSnapshot) : String × String :=
  (snapshot.tenantId, snapshot.snapshotId)

end AgentHarness.Knowledge
