import AgentHarness.Knowledge.Synchronisation

/-!
Any number of synchronisations and edits over one repository.

The state also keeps what nobody can read: the source that each caller holds, and in which
order jobs were started, connectors read and snapshots published.
-/

namespace AgentHarness.Knowledge

open Collections Interaction

inductive LibraryEvent where
  | started (actor : Nat) (sync : String × String)
  | connected (actor : Nat) (source : String × String) (revision : Nat)
  | published (actor : Nat) (source : String × String) (revision : Nat) (sync : String × String)
  deriving DecidableEq

structure Library where
  sources : Dict (String × String) KnowledgeSource := Dict.empty
  syncs : Dict (String × String) KnowledgeSyncRun := Dict.empty
  snapshots : Dict (String × String) KnowledgeSnapshot := Dict.empty
  chunks : Dict (String × String × String) KnowledgeChunk := Dict.empty
  generated : Nat := 0
  held : Nat → Option KnowledgeSource := fun _ => none
  events : List LibraryEvent := []

inductive LibraryFault where
  | none
  | before
  | after
  deriving DecidableEq

/-- The clock, what a connector answers, and an outage that strikes before a call takes effect
or after it. -/
structure LibraryInput where
  now : Int := 0
  connector : Except KnowledgeError ConnectorSyncResult := .error (.connector "unreachable")
  fault : LibraryFault := .none

structure LibraryPlatform where
  generatedId : String → Nat → String

namespace Library

variable (library : Library)

def hold (actor : Nat) (source : KnowledgeSource) : Library :=
  { library with held := Function.update library.held actor (some source) }

def log (event : LibraryEvent) : Library := { library with events := library.events ++ [event] }

def getSource (key : String × String) : Except KnowledgeError KnowledgeSource :=
  match library.sources.get? key with
  | some source => .ok source
  | none => .error (.notFound ("knowledge source not found: " ++ key.2))

def expected (expectedRevision : Nat) (source : KnowledgeSource) : Except KnowledgeError Bool :=
  if source.revision ≠ expectedRevision + 1 then
    .error (.conflict "knowledge source revision must increment by one")
  else
    match library.sources.get? source.key with
    | none => .error (.notFound ("knowledge source not found: " ++ source.reference))
    | some current => .ok (current.revision = expectedRevision)

def compareAndSetSource (expectedRevision : Nat) (source : KnowledgeSource) :
  Except KnowledgeError Bool × Library :=
  match library.expected expectedRevision source with
  | .ok true => (.ok true, { library with sources := library.sources.set source.key source })
  | reply => (reply, library)

def addSync (sync : KnowledgeSyncRun) : Except KnowledgeError Unit × Library :=
  match library.syncs.get? sync.key with
  | some _ => (.error (.conflict ("knowledge sync already exists: " ++ sync.syncId)), library)
  | none => (.ok (), { library with syncs := library.syncs.set sync.key sync })

def putSync (sync : KnowledgeSyncRun) : Except KnowledgeError Unit × Library :=
  match library.syncs.get? sync.key with
  | none => (.error (.notFound ("knowledge sync not found: " ++ sync.syncId)), library)
  | some _ => (.ok (), { library with syncs := library.syncs.set sync.key sync })

def withPublication (publication : SnapshotPublication) : Library :=
  { library with
    sources := library.sources.set publication.source.key publication.source
    syncs := library.syncs.set publication.sync.key publication.sync
    snapshots := library.snapshots.set publication.snapshot.key publication.snapshot
    chunks := publication.chunks.foldl
      (fun chunks chunk => chunks.set (chunk.tenantId, chunk.snapshotId, chunk.chunkId) chunk)
      library.chunks }

/-- `publish_snapshot`: everything is stored in one transaction, or nothing. -/
def publishSnapshot (publication : SnapshotPublication) : Except KnowledgeError Bool × Library :=
  match library.expected publication.expectedRevision publication.source with
  | .ok true =>
    match library.snapshots.get? publication.snapshot.key with
    | some _ =>
      (.error (.conflict ("knowledge snapshot already exists: " ++
        publication.snapshot.snapshotId)), library)
    | none => (.ok true, library.withPublication publication)
  | reply => (reply, library)

def reads (actor : Nat) : List LibraryEvent :=
  match library.held actor with
  | some source => [.connected actor source.key source.revision]
  | none => []

def hasPublished (actor : Nat) : Bool :=
  library.events.any (fun event =>
    match event with
    | .published publisher _ _ _ => publisher = actor
    | _ => false)

end Library

namespace SyncOp

/-- The operations of the caller's own process, which no outage touches, and the connector's,
which answers for itself. -/
def isLocal : SyncOp → Bool
  | clock | generateId _ | connect _ _ _ => true
  | _ => false

end SyncOp

namespace LibraryPlatform

variable (platform : LibraryPlatform)

def answer (actor : Nat) (input : LibraryInput) (library : Library) :
    (op : SyncOp) → Except KnowledgeError op.Answer × Library
  | .clock => (.ok input.now, library)
  | .generateId kind =>
    (.ok (platform.generatedId kind library.generated),
      { library with generated := library.generated + 1 })
  | .getSource tenantId reference =>
    match library.getSource (tenantId, reference) with
    | .ok source => (.ok source, library.hold actor source)
    | .error error => (.error error, library)
  | .addSync sync =>
    match library.addSync sync with
    | (.ok (), later) => (.ok (), later.log (.started actor sync.key))
    | (.error error, _) => (.error error, library)
  | .connect _ _ _ => (input.connector, { library with events := library.events ++ library.reads actor })
  | .compareAndSetSource expectedRevision source =>
    library.compareAndSetSource expectedRevision source
  | .publishSnapshot publication =>
    match library.publishSnapshot publication with
    | (.ok true, later) =>
      (.ok true, later.log (.published actor publication.source.key publication.source.revision
        publication.sync.key))
    | (reply, _) => (reply, library)
  | .putSync sync => library.putSync sync
  | .record _ _ _ _ _ => (.ok (), library)

def respond (actor : Nat) (input : LibraryInput) (library : Library) (op : SyncOp) :
  Except KnowledgeError op.Answer × Library :=
  let reply := platform.answer actor input library op
  if op.isLocal then reply
  else
    match input.fault with
    | .none => reply
    | .before => (.error .unavailable, library)
    | .after => (.error .unavailable, reply.2)

def component : Component SyncOp SyncOp.Answer KnowledgeError Nat Library LibraryInput where
  respond := platform.respond

end LibraryPlatform

open Dict Function List

/-- What no call can undo: snapshots stay as they are, and a source has a higher revision with
every change. -/
structure Library.Keeps (library later : Library) : Prop where
  sources : Evolves (Versioned KnowledgeSource.revision) library.sources later.sources
  snapshots : Evolves Eq library.snapshots later.snapshots

namespace Library.Keeps

variable {library later last : Library}

theorem refl (library : Library) : library.Keeps library :=
  ⟨evolves_refl fun _ => .inr rfl, evolves_refl fun _ => rfl⟩

instance : Trans Library.Keeps Library.Keeps Library.Keeps where
  trans first second :=
    ⟨first.sources.trans versioned_trans second.sources,
      first.snapshots.trans Eq.trans second.snapshots⟩

theorem replace {expectedRevision : Nat} {source : KnowledgeSource}
  (accepted : library.expected expectedRevision source = .ok true) :
  Evolves (Versioned KnowledgeSource.revision) library.sources
    (library.sources.set source.key source) := by
  refine evolves_set (fun _ => .inr rfl) fun old found => .inl ?_
  unfold expected at accepted
  split at accepted
  · cases accepted
  rename_i next
  rw [found] at accepted
  have current := of_decide_eq_true (Except.ok.inj accepted)
  omega

theorem answer (platform : LibraryPlatform) (actor : Nat) (input : LibraryInput)
  (library : Library) (op : SyncOp) : library.Keeps (platform.answer actor input library op).2 := by
  have same := refl library
  cases op with
  | getSource tenantId reference =>
    simp only [LibraryPlatform.answer]
    split <;> exact ⟨same.sources, same.snapshots⟩
  | addSync sync | putSync sync =>
    simp only [LibraryPlatform.answer, addSync, putSync]
    cases library.syncs.get? sync.key <;> exact ⟨same.sources, same.snapshots⟩
  | compareAndSetSource expectedRevision source =>
    simp only [LibraryPlatform.answer, compareAndSetSource]
    split
    · rename_i accepted
      exact ⟨replace accepted, same.snapshots⟩
    exact same
  | publishSnapshot publication =>
    simp only [LibraryPlatform.answer, publishSnapshot]
    cases accepted : library.expected publication.expectedRevision publication.source with
    | error error => exact same
    | ok current =>
      cases current with
      | false => exact same
      | true =>
        cases absent : library.snapshots.get? publication.snapshot.key with
        | some snapshot => exact same
        | none =>
          refine ⟨replace accepted, evolves_set (fun _ => rfl) fun old found => ?_⟩
          rw [absent] at found
          cases found
  | _ => exact ⟨same.sources, same.snapshots⟩

end Library.Keeps

end AgentHarness.Knowledge
