import AgentHarness.Knowledge.Disclosure
import AgentHarness.Collections.Mapping

/-!
Which citations of a search their reader can open.
-/

namespace AgentHarness.Knowledge

open Collections Dict List KnowledgeService KnowledgeTables

structure CitedStore extends KnowledgeStore where
  snapshots : Dict (String × String) KnowledgeSnapshot
  snapshotted : ∀ key chunk, chunks.get? key = some chunk →
    ∃ snapshot, snapshots.get? (chunk.tenantId, chunk.snapshotId) = some snapshot ∧
      snapshot.sourceReference = chunk.sourceReference

def KnowledgeSource.ownTo (source : KnowledgeSource) (actorId : String) : Bool :=
  source.createdBy = actorId || (source.acl.visibility = .restricted && source.acl.allows actorId)

namespace CitedStore

variable (store : CitedStore)

def getSnapshot (tenantId snapshotId : String) : Except KnowledgeError KnowledgeSnapshot :=
  match store.snapshots.get? (tenantId, snapshotId) with
  | some snapshot => .ok snapshot
  | none => .error (.notFound ("knowledge snapshot not found: " ++ snapshotId))

def getVisibleChunk (tenantId actorId snapshotId chunkId : String) :
  Except KnowledgeError KnowledgeChunk := do
  let snapshot ← store.getSnapshot tenantId snapshotId
  let source ← store.getSource tenantId snapshot.sourceReference
  if source.ownTo actorId then
    match (store.listChunks tenantId [snapshotId]).find? (·.chunkId = chunkId) with
    | some chunk => .ok chunk
    | none => .error (.notFound "knowledge citation not found")
  else .error (.notFound "knowledge citation not found")

end CitedStore

section

variable {F : Type} {service : KnowledgeService F} {call : SearchCall} {store : CitedStore}
  {tenantId actorId snapshotId chunkId : String} {chunk : KnowledgeChunk}

theorem mem_listChunks (tables : KnowledgeTables) {snapshotIds : List String} :
  chunk ∈ tables.listChunks tenantId snapshotIds ↔ ∃ key, tables.chunks.get? key = some chunk ∧
    key.1 = tenantId ∧ key.2.1 ∈ snapshotIds := by
  rw [listChunks, mem_mergeSort]
  constructor
  · exact mem_selected
  rintro ⟨key, found, tenant, searched⟩
  exact mem_map.mpr ⟨(key, chunk), mem_filter.mpr ⟨get?_eq_some.mp found,
    decide_eq_true ⟨tenant, searched⟩⟩, rfl⟩

theorem find_listed : (store.listChunks tenantId [snapshotId]).find? (·.chunkId = chunkId) =
  some chunk ↔ store.chunks.get? (tenantId, snapshotId, chunkId) = some chunk := by
  have keyed : ∀ other ∈ store.listChunks tenantId [snapshotId],
    store.chunks.get? (tenantId, snapshotId, other.chunkId) = some other := by
    intro other member
    obtain ⟨⟨tenant, snapshot, id⟩, found, rfl, inside⟩ := (mem_listChunks _).mp member
    have same := congrArg (·.2.2) (store.chunkKeyed _ _ found)
    rw [← mem_singleton.mp inside, show other.chunkId = id from same]
    exact found
  constructor
  · intro located
    have named : chunk.chunkId = chunkId := by simpa using find?_some located
    exact named ▸ keyed chunk (mem_of_find?_eq_some located)
  intro found
  have member : chunk ∈ store.listChunks tenantId [snapshotId] :=
    (mem_listChunks _).mpr ⟨_, found, rfl, mem_singleton_self _⟩
  have named : chunk.chunkId = chunkId := congrArg (·.2.2) (store.chunkKeyed _ _ found)
  cases located : (store.listChunks tenantId [snapshotId]).find? (·.chunkId = chunkId) with
  | none => exact absurd (decide_eq_true named) (find?_eq_none.mp located chunk member)
  | some other =>
    have same := keyed other (mem_of_find?_eq_some located)
    have named : other.chunkId = chunkId := by simpa using find?_some located
    rw [named, found] at same
    exact same.symm

theorem getVisibleChunk_ok_iff : store.getVisibleChunk tenantId actorId snapshotId chunkId =
  .ok chunk ↔ store.chunks.get? (tenantId, snapshotId, chunkId) = some chunk ∧
    ∃ source, store.sources.get? (tenantId, chunk.sourceReference) = some source ∧
      source.ownTo actorId = true := by
  have listed := @find_listed store tenantId snapshotId chunkId chunk
  have stored : ∀ snapshot, store.snapshots.get? (tenantId, snapshotId) = some snapshot →
    store.chunks.get? (tenantId, snapshotId, chunkId) = some chunk →
      snapshot.sourceReference = chunk.sourceReference := by
    intro snapshot here found
    have key := store.chunkKeyed _ _ found
    obtain ⟨other, there, same⟩ := store.snapshotted _ _ found
    rw [show chunk.tenantId = tenantId from congrArg (·.1) key,
      show chunk.snapshotId = snapshotId from congrArg (·.2.1) key, here] at there
    cases there
    exact same
  unfold CitedStore.getVisibleChunk CitedStore.getSnapshot
  constructor
  · intro opened
    cases here : store.snapshots.get? (tenantId, snapshotId) with
    | none => simp [here, bind, Except.bind] at opened
    | some snapshot =>
      cases there : store.sources.get? (tenantId, snapshot.sourceReference) with
      | none => simp [here, getSource, there, bind, Except.bind] at opened
      | some source =>
        simp only [here, getSource, there, bind, Except.bind] at opened
        split at opened
        case isFalse => cases opened
        case isTrue own =>
          split at opened
          · cases opened
            have found := listed.mp ‹_›
            exact ⟨found, source, stored snapshot here found ▸ there, own⟩
          cases opened
  rintro ⟨found, source, there, own⟩
  have key := store.chunkKeyed _ _ found
  obtain ⟨snapshot, here, same⟩ := store.snapshotted _ _ found
  rw [show chunk.tenantId = tenantId from congrArg (·.1) key,
    show chunk.snapshotId = snapshotId from congrArg (·.2.1) key] at here
  simp [here, getSource, same, there, own, listed.mpr found, bind, Except.bind]

theorem allowsSource_of_ownTo {source : KnowledgeSource} (own : source.ownTo call.actorId = true)
  (baseReference : String) : service.allowsSource call baseReference source = true := by
  rw [allowsSource, Bool.or_eq_true]
  exact .inl own

theorem recheck_checked {admission later : Admission} {binding : KnowledgeSnapshotBinding}
  (checked : Checked service call store.toKnowledgeStore admission)
  (done : service.recheck call store.toKnowledgeTables admission binding = .ok later) :
  Checked service call store.toKnowledgeStore later := by
  cases stored : store.sources.get? (call.tenantId, binding.sourceReference) with
  | some source =>
    obtain ⟨next, same, kept, _⟩ := recheck_stored checked stored
    rw [same] at done
    cases done
    exact kept
  | none =>
    unfold recheck sourceOf at done
    cases before : admission.sourceByReference.get? binding.sourceReference with
    | some source => exact absurd (checked.faithful _ _ before) (by rw [stored]; nofun)
    | none => simp [before, getSource, stored, bind, Except.bind] at done

variable [Add F] [Sub F] [Mul F] [Div F] [Neg F] [NatCast F] [OfScientific F] [LT F] [DecidableLT F]
  [DecidableEq F]

theorem mem_ranked {ranker : HybridKnowledgeSearch F} {chunks : List KnowledgeChunk}
  {query : String} {limit : Nat} {item : RankedChunk F}
  (member : item ∈ ranker.search chunks query limit) : item.chunk ∈ chunks := by
  unfold HybridKnowledgeSearch.search at member
  dsimp only at member
  split at member
  · cases member
  obtain ⟨scored, _, found⟩ := mem_filterMap.mp member
  obtain ⟨chunk, here, rfl⟩ := Option.map_eq_some_iff.mp found
  exact mem_of_getElem? here

theorem mem_hits {response : SearchKnowledgeResponse F} {hit : KnowledgeSearchHit F}
  (found : service.search call store.toKnowledgeTables = .ok response)
  (member : hit ∈ response.hits) : ∃ source chunk,
    store.sources.get? (call.tenantId, chunk.sourceReference) = some source ∧
      store.chunks.get? (call.tenantId, hit.citation.snapshotId, hit.citation.chunkId) =
        some chunk ∧
      chunk.sourceReference = hit.citation.sourceReference ∧ chunk.content = hit.content := by
  unfold KnowledgeService.search at found
  cases resolves : service.resolvedBindings call store.toKnowledgeTables with
  | error error => simp [resolves, bind, Except.bind] at found
  | ok resolved =>
    cases checks : resolved.foldlM (service.recheck call store.toKnowledgeTables) {} with
    | error error => simp [resolves, checks, bind, Except.bind] at found
    | ok admission =>
      have checked := foldlM_keeps (Checked service call store.toKnowledgeStore) resolved
        (fun _ _ _ _ kept done => recheck_checked kept done) checked_empty checks
      simp only [resolves, checks, bind, Except.bind] at found
      split at found
      · cases found
      next hits done =>
        cases found
        obtain ⟨item, ranked, cites⟩ := mem_map.mp (map_of_mapM_ok done ▸ mem_map_of_mem member)
        obtain ⟨⟨tenant, snapshot, id⟩, there, rfl, _⟩ := (mem_listChunks _).mp (mem_ranked ranked)
        have key := store.chunkKeyed _ _ there
        unfold hitOf at cites
        cases binds : bindingOf admission.allowed item.chunk with
        | error error => simp [binds, bind, Except.bind] at cites
        | ok binding =>
          simp only [binds, bind, Except.bind] at cites
          split at cites
          · cases cites
          next source read =>
            cases cites
            refine ⟨source, item.chunk, checked.faithful _ _ read, ?_, rfl, rfl⟩
            have tenant : item.chunk.tenantId = call.tenantId := congrArg (·.1) key
            rw [← tenant]
            rw [← key] at there
            exact there

/-- A citation is opened for the reader whose own its source is, and no chunk is opened of a
source that his searches may not use. -/
theorem citations_open_iff (service : KnowledgeService F) (call : SearchCall) (store : CitedStore) :
  (∀ response, service.search call store.toKnowledgeTables = .ok response → ∀ hit ∈ response.hits,
      ((∃ chunk, store.getVisibleChunk call.tenantId call.actorId hit.citation.snapshotId
          hit.citation.chunkId = .ok chunk ∧ chunk.content = hit.content) ↔
        ∃ source, store.sources.get? (call.tenantId, hit.citation.sourceReference) = some source ∧
          source.ownTo call.actorId = true)) ∧
    ∀ snapshotId chunkId chunk,
      store.getVisibleChunk call.tenantId call.actorId snapshotId chunkId = .ok chunk →
        ∃ source, store.sources.get? (call.tenantId, chunk.sourceReference) = some source ∧
          ∀ baseReference, service.allowsSource call baseReference source = true := by
  constructor
  · intro response found hit member
    obtain ⟨source, chunk, read, there, cited, same⟩ := mem_hits found member
    rw [← cited]
    constructor
    · rintro ⟨other, opened, _⟩
      obtain ⟨here, own⟩ := getVisibleChunk_ok_iff.mp opened
      cases there.symm.trans here
      exact own
    exact fun own => ⟨chunk, getVisibleChunk_ok_iff.mpr ⟨there, own⟩, same⟩
  intro snapshotId chunkId chunk opened
  obtain ⟨_, source, read, own⟩ := getVisibleChunk_ok_iff.mp opened
  exact ⟨source, read, allowsSource_of_ownTo own⟩

end

def crewAsking : SearchCall where
  tenantId := "tenant"
  actorId := "cy"
  query := "pears"
  bindings := [⟨"handbook", "vault", "second", .sensitive⟩]
  teamIds := ["crew"]

def crewService : KnowledgeService Rat :=
  { service with teamGrantChecker := some fun _ _ _ base => base = "handbook" }

def snapshotOf (snapshotId sourceReference : String) : KnowledgeSnapshot where
  tenantId := "tenant"
  snapshotId
  sourceReference
  sourceRevision := 1
  contentHash := ""
  documentCount := 1
  chunkCount := 1
  checkpoint := Dict.empty
  createdAt := 0

def citedStore : CitedStore where
  toKnowledgeStore := storeWith "pears"
  snapshots := (Dict.empty.set ("tenant", "first") (snapshotOf "first" "notes")).set
    ("tenant", "second") (snapshotOf "second" "vault")
  snapshotted := by
    intro key chunk found
    rcases mem_chunks found with ⟨_, rfl⟩ | ⟨_, rfl⟩
    · exact ⟨snapshotOf "first" "notes", rfl, rfl⟩
    exact ⟨snapshotOf "second" "vault", rfl, rfl⟩

theorem crew_listed :
  citedStore.listChunks "tenant" ["second"] = [chunkOf "vault" "second" "pears"] :=
  mergeSort_singleton _

abbrev pears : KnowledgeChunk := chunkOf "vault" "second" "pears"

theorem sortScores_one (chunks : List KnowledgeChunk) (score : Nat × Rat) :
  HybridKnowledgeSearch.sortScores chunks [score] = [score] := mergeSort_singleton _

def pearScores : Rat × Rat :=
  crewService.ranker.scoresOf [["pears"]] ["pears"]
    (HybridKnowledgeSearch.averageLength [["pears"]]) ["pears"]

theorem pears_ranked : ∃ item, crewService.ranker.search [pears] "pears" 8 = [item] ∧
  item.chunk = pears := by
  have terms : crewService.ranker.tokenize "pears" = ["pears"] := by decide +kernel
  have corpus : crewService.ranker.corpusTerms pears = ["pears"] := by decide +kernel
  have first : (HybridKnowledgeSearch.fuse [(0, pearScores.2)]
    (HybridKnowledgeSearch.fuse [(0, pearScores.1)] Dict.empty)).entries.map Prod.fst = [0] := by
    decide +kernel
  obtain ⟨fused, shape, index⟩ := map_eq_singleton_iff.mp first
  unfold pearScores at shape
  simp [HybridKnowledgeSearch.search, terms, corpus, sortScores_one, shape,
    HybridKnowledgeSearch.rerank, index]

def crewAdmission : Admission where
  allowed := crewAsking.bindings
  sourceByReference := Dict.empty.set "vault" (sourceBy "bo" "vault" "second")

/-- What a team may search, its members cannot open. -/
theorem crew_citation_closed : ∃ response hit,
  crewService.search crewAsking citedStore.toKnowledgeTables = .ok response ∧
    hit ∈ response.hits ∧
    citedStore.getVisibleChunk "tenant" "cy" hit.citation.snapshotId hit.citation.chunkId =
      .error (.notFound "knowledge citation not found") := by
  obtain ⟨item, ranked, own⟩ := pears_ranked
  obtain ⟨hit, cites, cited⟩ : ∃ hit, hitOf crewAdmission item = .ok hit ∧
    (hit.citation.snapshotId, hit.citation.chunkId) = ("second", "vault-0") := by
    unfold hitOf
    rw [own]
    exact ⟨_, rfl, rfl⟩
  obtain ⟨snapshot, chunk⟩ := Prod.mk.inj cited
  refine ⟨{ hits := [hit], searchedSnapshotIds := ["second"].mergeSort (· ≤ ·) }, hit, ?_,
    mem_singleton_self hit, ?_⟩
  · have resolves : crewService.resolvedBindings crewAsking citedStore.toKnowledgeTables =
      .ok crewAsking.bindings := rfl
    have checks : crewAsking.bindings.foldlM
      (crewService.recheck crewAsking citedStore.toKnowledgeTables) {} = .ok crewAdmission := rfl
    have searched : (crewAdmission.allowed.map (·.snapshotId)).eraseDups = ["second"] := rfl
    simp only [KnowledgeService.search, resolves, checks, searched, bind, Except.bind]
    rw [show crewAsking.tenantId = "tenant" from rfl, crew_listed,
      show crewService.ranker.search _ crewAsking.query crewAsking.limit = [item] from ranked]
    simp only [mapM_cons, mapM_nil, cites, bind, Except.bind, pure, Except.pure]
  rw [snapshot, chunk]
  rfl

end AgentHarness.Knowledge
