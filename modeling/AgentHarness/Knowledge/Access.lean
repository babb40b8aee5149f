import Mathlib.Data.Prod.Lex
import AgentHarness.Knowledge.Search

/-!
Which sources a search reaches, and the search over the snapshots that it may read.

The repository is read at one moment; the checker of team grants belongs to another service.
-/

namespace AgentHarness.Knowledge

open Collections

structure KnowledgeTables where
  bases : Dict (String × String) KnowledgeBase := Dict.empty
  sources : Dict (String × String) KnowledgeSource := Dict.empty
  chunks : Dict (String × String × String) KnowledgeChunk := Dict.empty

def KnowledgeChunk.key (chunk : KnowledgeChunk) : String × String × String :=
  (chunk.tenantId, chunk.snapshotId, chunk.chunkId)

/-- The key by which `list_chunks` sorts. -/
def KnowledgeChunk.position (chunk : KnowledgeChunk) : String ×ₗ String ×ₗ Nat :=
  toLex (chunk.snapshotId, toLex (chunk.documentId, chunk.ordinal))

namespace KnowledgeTables

variable (tables : KnowledgeTables)

def getBase (tenantId reference : String) : Except KnowledgeError KnowledgeBase :=
  match tables.bases.get? (tenantId, reference) with
  | some base => .ok base
  | none => .error (.notFound ("Knowledge Base not found: " ++ reference))

def getSource (tenantId reference : String) : Except KnowledgeError KnowledgeSource :=
  match tables.sources.get? (tenantId, reference) with
  | some source => .ok source
  | none => .error (.notFound ("knowledge source not found: " ++ reference))

def listChunks (tenantId : String) (snapshotIds : List String) : List KnowledgeChunk :=
  let values := (tables.chunks.entries.filter (fun entry =>
    entry.1.1 = tenantId ∧ entry.1.2.1 ∈ snapshotIds)).map Prod.snd
  values.mergeSort fun first second => first.position ≤ second.position

end KnowledgeTables

structure SearchCall where
  (tenantId actorId query : String)
  knowledgeBaseReferences : List String := []
  bindings : List KnowledgeSnapshotBinding := []
  limit : Nat := 8
  teamIds : List String := []

/-- `teamGrantChecker` answers for a tenant, an actor, his teams and a base. -/
structure KnowledgeService (F : Type) where
  ranker : HybridKnowledgeSearch F
  teamGrantChecker : Option (String → String → List String → String → Bool) := none

/-- What `resolve_bindings` has gathered so far. -/
structure Resolution where
  seen : List (String × String) := []
  bindings : List KnowledgeSnapshotBinding := []

structure Admission where
  allowed : List KnowledgeSnapshotBinding := []
  sourceByReference : Dict String KnowledgeSource := Dict.empty

namespace KnowledgeService

variable {F : Type} (service : KnowledgeService F) (call : SearchCall) (baseReference : String)

def teamGrants : Bool :=
  !call.teamIds.isEmpty && service.teamGrantChecker.any (fun checker =>
      checker call.tenantId call.actorId call.teamIds baseReference)

def allowsSource (source : KnowledgeSource) : Bool :=
  source.createdBy = call.actorId ||
    (source.acl.visibility = .restricted && source.acl.allows call.actorId) ||
    service.teamGrants call baseReference

def allowsBase (base : KnowledgeBase) : Bool :=
  base.createdBy = call.actorId || service.teamGrants call base.reference

def offered (source : KnowledgeSource) : Option String :=
  if service.allowsSource call baseReference source ∧ source.health = .healthy then
    source.activeSnapshotId
  else none

variable (tables : KnowledgeTables)

def bindSource (baseReference : String) (found : Resolution) (sourceReference : String) :
  Except KnowledgeError Resolution := do
  let source ← tables.getSource call.tenantId sourceReference
  if (baseReference, sourceReference) ∈ found.seen then .ok found
  else
    match service.offered call baseReference source with
    | none => .ok found
    | some snapshotId =>
      .ok
        { seen := (baseReference, sourceReference) :: found.seen
          bindings := found.bindings ++
            [{ knowledgeBaseReference := baseReference, sourceReference, snapshotId
               trust := source.resultTrust }] }

def bindBase (found : Resolution) (baseReference : String) : Except KnowledgeError Resolution := do
  let base ← tables.getBase call.tenantId baseReference
  if service.allowsBase call base then
    base.sourceReferences.foldlM (service.bindSource call tables baseReference) found
  else .ok found

def resolveBindings : Except KnowledgeError (List KnowledgeSnapshotBinding) := do
  let found ← call.knowledgeBaseReferences.foldlM (service.bindBase call tables) {}
  return found.bindings

def sourceOf (sources : Dict String KnowledgeSource) (reference : String) :
  Except KnowledgeError (KnowledgeSource × Dict String KnowledgeSource) :=
  match sources.get? reference with
  | some source => .ok (source, sources)
  | none => do
      let source ← tables.getSource call.tenantId reference
      return (source, sources.set source.reference source)

def recheck (admission : Admission) (binding : KnowledgeSnapshotBinding) :
  Except KnowledgeError Admission := do
  let (source, sourceByReference) ←
    sourceOf call tables admission.sourceByReference binding.sourceReference
  .ok
    { allowed :=
        if service.allowsSource call binding.knowledgeBaseReference source then
          admission.allowed ++ [binding]
        else admission.allowed
      sourceByReference }

def bindingOf (allowed : List KnowledgeSnapshotBinding) (chunk : KnowledgeChunk) :
  Except KnowledgeError KnowledgeSnapshotBinding :=
  match allowed.reverse.find? (fun binding =>
      binding.sourceReference = chunk.sourceReference ∧ binding.snapshotId = chunk.snapshotId) with
  | some binding => .ok binding
  | none => .error .keyError

def hitOf (admission : Admission) (item : RankedChunk F) :
  Except KnowledgeError (KnowledgeSearchHit F) := do
  let chunk := item.chunk
  let binding ← bindingOf admission.allowed chunk
  match admission.sourceByReference.get? chunk.sourceReference with
  | none => .error .keyError
  | some source =>
    .ok
      { content := chunk.content, score := item.score, trust := binding.trust
        citation :=
          { knowledgeBaseReference := binding.knowledgeBaseReference
            sourceReference := chunk.sourceReference, sourceDisplayName := source.displayName
            snapshotId := chunk.snapshotId, documentId := chunk.documentId, chunkId := chunk.chunkId
            title := chunk.title, uri := chunk.sourceUri }
        matchedTerms := item.matchedTerms }

def resolvedBindings : Except KnowledgeError (List KnowledgeSnapshotBinding) :=
  if call.bindings ≠ [] then .ok call.bindings else service.resolveBindings call tables

variable [Add F] [Sub F] [Mul F] [Div F] [Neg F] [NatCast F] [OfScientific F] [LT F] [DecidableLT F]
  [DecidableEq F]

def search (tables : KnowledgeTables) : Except KnowledgeError (SearchKnowledgeResponse F) := do
  let resolved ← service.resolvedBindings call tables
  let admission ← resolved.foldlM (service.recheck call tables) {}
  let snapshots := (admission.allowed.map KnowledgeSnapshotBinding.snapshotId).eraseDups
  let chunks := tables.listChunks call.tenantId snapshots
  let ranked := service.ranker.search chunks call.query call.limit
  let hits ← ranked.mapM (hitOf admission)
  return { hits, searchedSnapshotIds := snapshots.mergeSort (fun first second => first ≤ second) }

end KnowledgeService

end AgentHarness.Knowledge
