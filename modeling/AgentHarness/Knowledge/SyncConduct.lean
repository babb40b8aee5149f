import AgentHarness.Knowledge.Synchronisation

/-!
How a synchronisation treats the repository.
-/

namespace AgentHarness.Knowledge

open Interaction

structure SyncProgress where
  source : Option KnowledgeSource := none
  sync : Option (String × String) := none
  published : Bool := false
  settled : Bool := false

structure Refreshes (copy : KnowledgeSource) (expectedRevision : Nat) (updated : KnowledgeSource) :
    Prop where
  expected : expectedRevision = copy.revision
  key : updated.key = copy.key
  revision : updated.revision = copy.revision + 1
  activeSnapshotId : updated.activeSnapshotId = copy.activeSnapshotId
  checkpoint : updated.checkpoint = copy.checkpoint

structure Advances (copy : KnowledgeSource) (sync : String × String)
    (publication : SnapshotPublication) : Prop where
  expected : publication.expectedRevision = copy.revision
  key : publication.source.key = copy.key
  revision : publication.source.revision = copy.revision + 1
  activeSnapshotId : publication.source.activeSnapshotId = some publication.snapshot.snapshotId
  tenantId : publication.snapshot.tenantId = publication.source.tenantId
  checkpoint : publication.snapshot.checkpoint = publication.source.checkpoint
  sync : publication.sync.key = sync
  succeeded : publication.sync.status = .succeeded

variable (known : SyncProgress)

def SyncAllows : SyncOp → Prop
  | .getSource _ _ => known.source = none
  | .addSync sync => known.sync = none ∧ sync.status = .running
  | .connect _ _ _ => known.source.isSome
  | .compareAndSetSource expectedRevision updated =>
    ∃ copy, known.source = some copy ∧ Refreshes copy expectedRevision updated
  | .publishSnapshot publication =>
    ∃ copy sync, known.source = some copy ∧ known.sync = some sync ∧
      known.published = false ∧ known.settled = false ∧ Advances copy sync publication
  | .putSync sync =>
    known.sync = some sync.key ∧ known.published = false ∧
      (sync.status = .failed ∨ sync.status = .unchanged)
  | _ => True

namespace SyncProgress

def after (known : SyncProgress) : (op : SyncOp) → Except KnowledgeError op.Answer → SyncProgress
  | .getSource _ _, .ok source => { known with source := some source }
  | .addSync sync, .ok _ => { known with sync := some sync.key }
  | .publishSnapshot _, .ok published => { known with published }
  | .putSync _, .ok _ => { known with settled := true }
  | .putSync sync, .error _ => { known with settled := known.settled || sync.status = .failed }
  | _, _ => known

end SyncProgress

def SyncForeseen : (op : SyncOp) → Except KnowledgeError op.Answer → Prop
  | .clock, .error _ => False
  | .generateId _, .error _ => False
  | .getSource tenantId reference, .ok source => source.key = (tenantId, reference)
  | .record _ _ _ _ _, .error _ => known.published = false
  | _, _ => True

def syncContract : Contract SyncOp SyncOp.Answer KnowledgeError SyncProgress where
  allowed := SyncAllows
  learns known op answer later := later = known.after op answer ∧ SyncForeseen known op answer

def Ended : Prop := known.sync.isSome → known.published = true ∨ known.settled = true

section

open Program SyncOp KnowledgeSyncService

variable {service : KnowledgeSyncService} {known : SyncProgress} {α : Type}
  {post : SyncProgress → α → Prop} {failed : SyncProgress → KnowledgeError → Prop}

theorem wp_ask {op : SyncOp} {next : op.Answer → SyncProgram α} (allowed : SyncAllows known op)
  (rest : ∀ answer, SyncForeseen known op (.ok answer) →
    (next answer).wp syncContract post failed (known.after op (.ok answer)))
  (raises : ∀ error, SyncForeseen known op (.error error) →
    failed (known.after op (.error error)) error) :
  ((ask op).bind next).wp syncContract post failed known := by
  rw [wp_bind, wp_perform]
  refine ⟨allowed, ?_, ?_⟩
  · rintro answer later ⟨rfl, foreseen⟩
    exact rest answer foreseen
  rintro error later ⟨rfl, foreseen⟩
  exact raises error foreseen

variable {next : Unit → SyncProgram α}

theorem wp_refuse {refused : Prop} [Decidable refused] {error : KnowledgeError}
  (raises : refused → failed known error)
  (rest : ¬ refused → (next ()).wp syncContract post failed known) :
  ((refuse refused error).bind next).wp syncContract post failed known := by
  unfold refuse
  split
  case isTrue holds => exact raises holds
  case isFalse accepted => exact rest accepted

theorem wp_record {tenantId actorId action reference : String} {details : List (String × String)}
  (rest : (next ()).wp syncContract post failed known)
  (raises : known.published = false → ∀ error, failed known error) :
  ((service.recordAction tenantId actorId action reference details).bind next).wp syncContract
    post failed known := by
  unfold recordAction
  split
  · exact wp_ask (by trivial) (fun _ _ => rest) fun error unpublished => raises unpublished error
  exact rest

theorem wp_getOwnedSource {tenantId ownerUserId reference : String}
  {next : KnowledgeSource → SyncProgram α}
  (rest : ∀ source, source.key = (tenantId, reference) →
    (next source).wp syncContract post failed { source := some source })
  (raises : ∀ known error, known.sync = none → failed known error) :
  ((getOwnedSource tenantId ownerUserId reference).bind next).wp syncContract post failed {} := by
  unfold getOwnedSource
  simp only [bind_eq, Program.bind_assoc]
  apply wp_ask (by rfl)
  · intro source key
    apply wp_refuse fun _ => raises _ _ rfl
    intro _
    exact rest source key
  intro error _
  exact raises _ _ rfl

structure Unsettled (known : SyncProgress) (source : KnowledgeSource) (sync : KnowledgeSyncRun) :
    Prop where
  source : known.source = some source
  sync : known.sync = some sync.key
  published : known.published = false
  settled : known.settled = false

variable {request : SyncRequest} {source : KnowledgeSource} {sync : KnowledgeSyncRun}

theorem fail_ends (error : KnowledgeError) (unsettled : Unsettled known source sync) :
  (service.fail request source sync error).wp syncContract (fun later _ => Ended later)
    (fun later _ => Ended later) known := by
  have ended : Ended { known with settled := true } := fun _ => .inr rfl
  unfold fail
  simp only [bind_eq]
  apply wp_ask (by trivial)
  · intro completedAt _
    apply wp_ask (by exact ⟨unsettled.sync, unsettled.published, .inl rfl⟩)
    · intro _ _
      have recorded (known : SyncProgress) (settled : known.settled = true) :
        ((service.recordAction request.tenantId request.actorId "knowledge.source.sync"
          source.reference [("sync_id", sync.syncId), ("outcome", "failed"),
            ("error_code", error.code)]).bind (fun _ =>
              (raised error.reported : SyncProgram KnowledgeSyncRun))).wp syncContract
          (fun later _ => Ended later) (fun later _ => Ended later) known := by
        apply wp_record
        · exact fun _ => .inr settled
        exact fun _ _ _ => .inr settled
      unfold degrade
      split
      · exact recorded _ rfl
      rw [Program.bind_assoc]
      apply wp_ask
      · exact ⟨source, unsettled.source, rfl, rfl, rfl, rfl, rfl⟩
      · intro _ _
        exact recorded _ rfl
      intro _ _
      exact ended
    intro _ _
    have settled : (known.settled || decide (KnowledgeSyncStatus.failed = .failed)) = true := by
      simp
    exact fun _ => .inr settled
  nofun

variable (result : ConnectorSyncResult)

theorem keepSnapshot_ends (unsettled : Unsettled known source sync) :
  (keepSnapshot request source sync result).wp syncContract (fun later _ => Ended later)
    (fun later _ => Unsettled later source sync) known := by
  apply wp_ask (by trivial)
  · intro completedAt _
    apply wp_ask
    · exact ⟨source, unsettled.source, rfl, rfl, rfl, rfl, rfl⟩
    · intro stored _
      apply wp_refuse fun _ => unsettled
      intro _
      apply wp_ask (by exact ⟨unsettled.sync, unsettled.published, .inr rfl⟩)
      · intro _ _
        exact fun _ => .inr rfl
      intro _ _
      refine ⟨unsettled.source, unsettled.sync, unsettled.published, ?_⟩
      show (known.settled || decide (KnowledgeSyncStatus.unchanged = .failed)) = false
      rw [unsettled.settled]
      rfl
    intro _ _
    exact unsettled
  nofun

theorem publication_advances (snapshotId : String) (chunks : List KnowledgeChunk)
  (completedAt : Int) (tenantId : source.tenantId = request.tenantId) :
  Advances source sync.key
    (publication request source sync result snapshotId chunks completedAt) where
  expected := rfl
  key := rfl
  revision := rfl
  activeSnapshotId := rfl
  tenantId := tenantId.symm
  checkpoint := rfl
  sync := rfl
  succeeded := rfl

theorem buildSnapshot_ends (tenantId : source.tenantId = request.tenantId)
  (unsettled : Unsettled known source sync) :
  (service.buildSnapshot request source sync result).wp syncContract (fun later _ => Ended later)
    (fun later _ => Unsettled later source sync) known := by
  apply wp_ask (by trivial)
  · intro snapshotId _
    apply wp_ask (by trivial)
    · intro now _
      apply wp_refuse fun _ => unsettled
      intro _
      apply wp_ask (by trivial)
      · intro completedAt _
        apply wp_ask
        · exact ⟨source, sync.key, unsettled.source, unsettled.sync, unsettled.published,
            unsettled.settled, publication_advances result snapshotId _ completedAt tenantId⟩
        · intro published _
          cases published with
          | false =>
            apply wp_refuse
            · exact fun _ => ⟨unsettled.source, unsettled.sync, rfl, unsettled.settled⟩
            exact fun accepted => absurd rfl accepted
          | true =>
            apply wp_refuse
            · exact fun refused => nomatch refused
            intro _
            apply wp_record
            · exact fun _ => .inl rfl
            exact fun unpublished => nomatch unpublished
        intro _ _
        exact unsettled
      nofun
    nofun
  nofun

theorem attempt_ends (tenantId : source.tenantId = request.tenantId)
  (unsettled : Unsettled known source sync) :
  (service.attempt request source sync).wp syncContract (fun later _ => Ended later)
    (fun later _ => Unsettled later source sync) known := by
  apply wp_ask (by exact Option.isSome_of_mem unsettled.source)
  · intro result _
    apply wp_refuse fun _ => unsettled
    intro _
    split
    · exact keepSnapshot_ends result unsettled
    exact buildSnapshot_ends result tenantId unsettled
  intro _ _
  exact unsettled

theorem syncSource_ends (request : SyncRequest) :
  (service.syncSource request).wp syncContract (fun later _ => Ended later)
    (fun later _ => Ended later) {} := by
  have idle {known : SyncProgress} (none : known.sync = none) : Ended known := by
    intro started
    rw [none] at started
    cases started
  apply wp_getOwnedSource
  · intro source key
    apply wp_refuse fun _ => idle rfl
    intro _
    apply wp_ask (by trivial)
    · intro now _
      apply wp_ask (by trivial)
      · intro syncId _
        apply wp_ask (by exact ⟨rfl, rfl⟩)
        · intro _ _
          rw [wp_catching]
          apply wp_mono
          · exact attempt_ends (congrArg Prod.fst key) ⟨rfl, rfl, rfl, rfl⟩
          · exact fun _ _ => id
          exact fun _ error unsettled => fail_ends error unsettled
        exact fun _ _ => idle rfl
      nofun
    nofun
  exact fun known _ none => idle none

theorem replaceSource_ends (request : ReplaceSourceRequest) :
  (service.replaceSource request).wp syncContract (fun later _ => Ended later)
    (fun later _ => Ended later) {} := by
  have idle {known : SyncProgress} (none : known.sync = none) : Ended known := by
    intro started
    rw [none] at started
    cases started
  apply wp_getOwnedSource
  · intro current _
    apply wp_refuse fun _ => idle rfl
    intro _
    apply wp_refuse fun _ => idle rfl
    intro _
    apply wp_ask (by trivial)
    · intro now _
      apply wp_ask
      · exact ⟨current, rfl, rfl, rfl, rfl, rfl, rfl⟩
      · intro stored _
        apply wp_refuse fun _ => idle rfl
        intro _
        apply wp_record
        · exact idle rfl
        exact fun _ _ => idle rfl
      exact fun _ _ => idle rfl
    nofun
  exact fun known _ none => idle none

theorem serve_ends (service : KnowledgeSyncService) (request : SourceRequest) :
  (service.serve request).wp syncContract (fun later _ => Ended later)
    (fun later _ => Ended later) {} := by
  cases request with
  | sync request =>
    rw [serve, wp_bind]
    exact syncSource_ends request
  | replace request =>
    rw [serve, wp_bind]
    exact replaceSource_ends request

end

end AgentHarness.Knowledge
