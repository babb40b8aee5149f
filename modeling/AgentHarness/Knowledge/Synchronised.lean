import AgentHarness.Knowledge.Library
import AgentHarness.Knowledge.SyncConduct

/-!
What overlapping synchronisations of a source leave behind.
-/

namespace AgentHarness.Knowledge

open Collections Interaction Dict Function List

namespace Library

def Published (library : Library) (sync : String × String) : Prop :=
  ∃ actor source revision, .published actor source revision sync ∈ library.events

def Describes (library : Library) (source : KnowledgeSource) : Prop :=
  ∀ snapshotId, source.activeSnapshotId = some snapshotId →
    ∃ snapshot, library.snapshots.get? (source.tenantId, snapshotId) = some snapshot ∧
      snapshot.checkpoint = source.checkpoint

def accepts (library : Library) (publication : SnapshotPublication) : Bool :=
  match library.publishSnapshot publication with
  | (.ok true, _) => true
  | _ => false

end Library

def HasEnded {α : Type} : SyncProgram α → Prop
  | .call _ _ => False
  | _ => True

/-- No outage loses the answer of a write that took effect, the first record of a job or a
snapshot, none strikes the audit of a published snapshot, and the job of a failed
synchronisation is settled. -/
def Unbroken (library : Library) (actor : Nat) (op : SyncOp) (input : LibraryInput) : Prop :=
  match op with
  | .addSync sync => input.fault = .after → (library.syncs.get? sync.key).isSome
  | .publishSnapshot publication => input.fault = .after → library.accepts publication = false
  | .record _ _ _ _ _ => library.hasPublished actor = true → input.fault = .none
  | .putSync sync => sync.status = .failed → input.fault ≠ .before
  | _ => True

instance (library : Library) (actor : Nat) (op : SyncOp) (input : LibraryInput) :
  Decidable (Unbroken library actor op input) :=
  match op with
  | .addSync _ | .publishSnapshot _ | .record _ _ _ _ _ | .putSync _ =>
    inferInstanceAs (Decidable (_ → _))
  | .clock | .generateId _ | .getSource _ _ | .connect _ _ _ | .compareAndSetSource _ _ =>
    inferInstanceAs (Decidable True)

/-! The invariant. -/

/-- A later snapshot of a source has a higher revision than what was read or published before. -/
def Precedes : LibraryEvent → LibraryEvent → Prop
  | .connected _ source revision, .published _ source' revision' _ =>
    source = source' → revision < revision'
  | .published _ source revision _, .published _ source' revision' _ =>
    source = source' → revision < revision'
  | _, _ => True

def Library.Reached (library : Library) : LibraryEvent → Prop
  | .started _ sync => (library.syncs.get? sync).isSome
  | .connected _ source revision | .published _ source revision _ =>
    ∃ stored, library.sources.get? source = some stored ∧ revision ≤ stored.revision

def LibraryEvent.actor : LibraryEvent → Nat
  | started actor _ | connected actor _ _ | published actor _ _ _ => actor

structure Tracks (library : Library) (actor : Nat) (known : SyncProgress) : Prop where
  held : ∀ copy, known.source = some copy → library.held actor = some copy
  copied : ∀ copy, known.source = some copy → library.Describes copy ∧
    ∃ stored, library.sources.get? copy.key = some stored ∧ copy.revision ≤ stored.revision
  connected : ∀ source revision, .connected actor source revision ∈ library.events →
    ∃ copy, known.source = some copy ∧ copy.key = source ∧ revision = copy.revision
  publishes : ∀ source revision sync, .published actor source revision sync ∈ library.events →
    known.published = true ∧ known.sync = some sync ∧
      ∃ copy, known.source = some copy ∧ copy.key = source ∧ revision = copy.revision + 1
  published : known.published = true → ∃ source revision sync,
    .published actor source revision sync ∈ library.events ∧ known.sync = some sync
  started : ∀ sync, .started actor sync ∈ library.events ↔ known.sync = some sync
  alone : ∀ sync, known.sync = some sync → (∃ run, library.syncs.get? sync = some run) ∧
      ∀ other, .started other sync ∈ library.events → other = actor
  settled : known.settled = true → ∃ sync run, known.sync = some sync ∧
    library.syncs.get? sync = some run ∧ (run.status = .failed ∨ run.status = .unchanged)

structure Recorded (library : Library) (known : Nat → SyncProgress) : Prop where
  keyed : ∀ key source, library.sources.get? key = some source → source.key = key
  described : ∀ key source, library.sources.get? key = some source → library.Describes source
  failed : ∀ key sync, library.syncs.get? key = some sync → sync.status = .failed →
    ¬ library.Published key
  ordered : library.events.Pairwise Precedes
  reached : ∀ event ∈ library.events, library.Reached event
  tracks : ∀ actor, Tracks library actor (known actor)

/-! What a step does to everyone else. -/

structure Moves (actor : Nat) (library later : Library) (added : List LibraryEvent) : Prop where
  held : ∀ other, other ≠ actor → later.held other = library.held other
  events : later.events = library.events ++ added
  own : ∀ event ∈ added, event.actor = actor
  fresh : ∀ other sync, .started other sync ∈ added → library.syncs.get? sync = none
  snapshots : ∀ key snapshot, library.snapshots.get? key = some snapshot →
    later.snapshots.get? key = some snapshot
  sources : ∀ key source, library.sources.get? key = some source →
    ∃ newer, later.sources.get? key = some newer ∧ source.revision ≤ newer.revision
  syncs : ∀ key run, library.syncs.get? key = some run →
    ∃ later', later.syncs.get? key = some later' ∧
      (later' = run ∨ .started actor key ∈ library.events)

section

variable {library later : Library} {actor : Nat} {known : SyncProgress} {added : List LibraryEvent}
  {source copy current : KnowledgeSource} {sync : KnowledgeSyncRun} {key : String × String}

section

variable (moves : Moves actor library later added)

include moves

theorem Moves.describes (describes : library.Describes source) : later.Describes source := by
  intro snapshotId active
  obtain ⟨snapshot, found, checkpoint⟩ := describes snapshotId active
  exact ⟨snapshot, moves.snapshots _ _ found, checkpoint⟩

theorem Moves.copied (copied : library.Describes copy ∧
    ∃ stored, library.sources.get? copy.key = some stored ∧ copy.revision ≤ stored.revision) :
  later.Describes copy ∧
    ∃ stored, later.sources.get? copy.key = some stored ∧ copy.revision ≤ stored.revision := by
  obtain ⟨describes, stored, found, older⟩ := copied
  obtain ⟨newer, found', grown⟩ := moves.sources _ _ found
  exact ⟨moves.describes describes, newer, found', older.trans grown⟩

theorem Moves.reached {event : LibraryEvent} (reached : library.Reached event) :
  later.Reached event := by
  cases event with
  | started other sync =>
    obtain ⟨run, found⟩ := Option.isSome_iff_exists.mp reached
    obtain ⟨run', found', _⟩ := moves.syncs _ _ found
    exact Option.isSome_iff_exists.mpr ⟨run', found'⟩
  | connected other source revision | published other source revision sync =>
    obtain ⟨stored, found, older⟩ := reached
    obtain ⟨newer, found', grown⟩ := moves.sources _ _ found
    exact ⟨newer, found', older.trans grown⟩

theorem Moves.before (event : LibraryEvent) (other : event.actor ≠ actor) :
  event ∈ later.events ↔ event ∈ library.events := by
  rw [moves.events, mem_append]
  constructor
  · rintro (old | new)
    · exact old
    exact absurd (moves.own _ new) other
  exact .inl

theorem Moves.others {other : Nat} (distinct : other ≠ actor)
  (tracks : Tracks library other known) :
  Tracks later other known where
  held copy read := (moves.held other distinct).trans (tracks.held copy read)
  copied copy read := moves.copied (tracks.copied copy read)
  connected source revision member := tracks.connected source revision
    ((moves.before (.connected other source revision) distinct).mp member)
  publishes source revision sync member := tracks.publishes source revision sync
    ((moves.before (.published other source revision sync) distinct).mp member)
  published done := by
    obtain ⟨source, revision, sync, member, started⟩ := tracks.published done
    exact ⟨source, revision, sync, moves.events ▸ mem_append_left _ member, started⟩
  started sync := (moves.before (.started other sync) distinct).trans
    (tracks.started sync)
  alone sync started := by
    obtain ⟨⟨run, found⟩, alone⟩ := tracks.alone sync started
    obtain ⟨run', found', _⟩ := moves.syncs _ _ found
    refine ⟨⟨run', found'⟩, fun third member => ?_⟩
    rw [moves.events, mem_append] at member
    rcases member with old | new
    · exact alone third old
    have absent := moves.fresh third sync new
    rw [found] at absent
    cases absent
  settled done := by
    obtain ⟨sync, run, started, found, status⟩ := tracks.settled done
    obtain ⟨run', found', kept⟩ := moves.syncs _ _ found
    refine ⟨sync, run', started, found', ?_⟩
    rcases kept with rfl | own
    · exact status
    exact absurd ((tracks.alone sync started).2 actor own).symm distinct

end

theorem Recorded.step {knowing : Nat → SyncProgress} {learned : SyncProgress}
  (recorded : Recorded library knowing) (moves : Moves actor library later added)
  (keyed : ∀ key source, later.sources.get? key = some source → source.key = key)
  (described : ∀ key source, later.sources.get? key = some source → later.Describes source)
  (failed : ∀ key sync, later.syncs.get? key = some sync → sync.status = .failed →
    ¬ later.Published key)
  (precedes : ∀ event ∈ library.events, ∀ new ∈ added, Precedes event new)
  (paired : added.Pairwise Precedes) (reached : ∀ event ∈ added, later.Reached event)
  (own : Tracks later actor learned) :
  Recorded later (update knowing actor learned) where
  keyed
  described
  failed
  ordered := by
    rw [moves.events]
    exact pairwise_append.mpr ⟨recorded.ordered, paired, precedes⟩
  reached event member := by
    rw [moves.events, mem_append] at member
    rcases member with old | new
    · exact moves.reached (recorded.reached event old)
    exact reached event new
  tracks := by
    apply Pool.forall_update own
    intro other distinct
    exact moves.others distinct (recorded.tracks other)

theorem Recorded.quiet {knowing : Nat → SyncProgress} {learned : SyncProgress}
  (recorded : Recorded library knowing) (moves : Moves actor library later [])
  (sources : later.sources = library.sources) (syncs : later.syncs = library.syncs)
  (own : Tracks later actor learned) :
  Recorded later (update knowing actor learned) := by
  have events : later.events = library.events := moves.events.trans (append_nil _)
  apply recorded.step moves
  · rw [sources]
    exact recorded.keyed
  · rw [sources]
    exact fun key source found => moves.describes (recorded.described key source found)
  · rw [syncs]
    intro key sync found status
    rw [Library.Published, events]
    exact recorded.failed key sync found status
  · exact fun _ _ _ member => nomatch member
  · exact List.Pairwise.nil
  · exact fun _ member => nomatch member
  exact own

theorem Tracks.held_only (tracks : Tracks library actor known)
  {held : Nat → Option KnowledgeSource} (kept : ∀ copy, known.source = some copy →
    held actor = some copy) : Tracks { library with held } actor known where
  held := kept
  copied := tracks.copied
  connected := tracks.connected
  publishes := tracks.publishes
  published := tracks.published
  started := tracks.started
  alone := tracks.alone
  settled := tracks.settled

theorem Tracks.learnSource (tracks : Tracks library actor known)
  (unread : known.source = none) (held : library.held actor = some source)
  (copied : library.Describes source ∧ ∃ stored, library.sources.get? source.key = some stored ∧
    source.revision ≤ stored.revision) :
  Tracks library actor { known with source := some source } where
  held copy read := by
    cases read
    exact held
  copied copy read := by
    cases read
    exact copied
  connected source revision member := by
    obtain ⟨copy, read, _⟩ := tracks.connected source revision member
    rw [unread] at read
    cases read
  publishes source revision sync member := by
    obtain ⟨_, _, copy, read, _⟩ := tracks.publishes source revision sync member
    rw [unread] at read
    cases read
  published := tracks.published
  started := tracks.started
  alone := tracks.alone
  settled := tracks.settled

theorem Moves.hold (source : KnowledgeSource) :
  Moves actor library (library.hold actor source) [] where
  held _ distinct := update_of_ne distinct _ _
  events := (append_nil _).symm
  own _ member := nomatch member
  fresh _ _ member := nomatch member
  snapshots _ _ found := found
  sources _ source found := ⟨source, found, Nat.le_refl _⟩
  syncs _ run found := ⟨run, found, .inl rfl⟩

theorem Moves.start (absent : library.syncs.get? sync.key = none) : Moves actor library
  ({ library with syncs := library.syncs.set sync.key sync }.log (.started actor sync.key))
  [.started actor sync.key] where
  held _ _ := rfl
  events := rfl
  own event member := by rw [mem_singleton.mp member]; rfl
  fresh _ key member := by
    cases mem_singleton.mp member
    exact absent
  snapshots _ _ found := found
  sources _ source found := ⟨source, found, Nat.le_refl _⟩
  syncs key run found := by
    have other : key ≠ sync.key := by
      rintro rfl
      rw [absent] at found
      cases found
    exact ⟨run, (get?_set_other _ _ other).trans found, .inl rfl⟩

theorem Moves.settle (own : .started actor sync.key ∈ library.events) :
  Moves actor library { library with syncs := library.syncs.set sync.key sync } [] where
  held _ _ := rfl
  events := (append_nil _).symm
  own _ member := nomatch member
  fresh _ _ member := nomatch member
  snapshots _ _ found := found
  sources _ source found := ⟨source, found, Nat.le_refl _⟩
  syncs key run found := by
    by_cases same : key = sync.key
    · subst same
      exact ⟨sync, get?_set_self _ _ _, .inr own⟩
    exact ⟨run, (get?_set_other _ _ same).trans found, .inl rfl⟩

theorem sources_grow (found : library.sources.get? source.key = some current)
  (grown : current.revision ≤ source.revision) {old : KnowledgeSource}
  (stored : library.sources.get? key = some old) :
  ∃ newer, (library.sources.set source.key source).get? key = some newer ∧
    old.revision ≤ newer.revision := by
  by_cases same : key = source.key
  · subst same
    rw [found] at stored
    cases stored
    exact ⟨source, get?_set_self _ _ _, grown⟩
  exact ⟨old, (get?_set_other _ _ same).trans stored, Nat.le_refl _⟩

theorem Moves.refresh (found : library.sources.get? source.key = some current)
  (grown : current.revision ≤ source.revision) :
  Moves actor library { library with sources := library.sources.set source.key source } [] where
  held _ _ := rfl
  events := (append_nil _).symm
  own _ member := nomatch member
  fresh _ _ member := nomatch member
  snapshots _ _ found := found
  sources _ _ stored := sources_grow found grown stored
  syncs _ run found := ⟨run, found, .inl rfl⟩

theorem Moves.publish {publication : SnapshotPublication}
  (found : library.sources.get? publication.source.key = some current)
  (grown : current.revision ≤ publication.source.revision)
  (fresh : library.snapshots.get? publication.snapshot.key = none)
  (own : .started actor publication.sync.key ∈ library.events) (revision : Nat) :
  Moves actor library
    ((library.withPublication publication).log (.published actor publication.source.key revision
    publication.sync.key))
    [.published actor publication.source.key revision publication.sync.key] where
  held _ _ := rfl
  events := rfl
  own event member := by rw [mem_singleton.mp member]; rfl
  fresh _ _ member := nomatch mem_singleton.mp member
  snapshots key snapshot stored := by
    have other : key ≠ publication.snapshot.key := by
      rintro rfl
      rw [fresh] at stored
      cases stored
    exact (get?_set_other _ _ other).trans stored
  sources _ _ stored := sources_grow found grown stored
  syncs key run stored := by
    by_cases same : key = publication.sync.key
    · subst same
      exact ⟨publication.sync, get?_set_self _ _ _, .inr own⟩
    exact ⟨run, (get?_set_other _ _ same).trans stored, .inl rfl⟩

variable {knowing : Nat → SyncProgress}

theorem Recorded.kept (recorded : Recorded library knowing) :
  Recorded library (update knowing actor (knowing actor)) := by
  rw [update_eq_self]
  exact recorded

theorem Recorded.held (recorded : Recorded library knowing)
  (unread : (knowing actor).source = none) (source : KnowledgeSource) :
  Recorded (library.hold actor source) (update knowing actor (knowing actor)) := by
  apply recorded.quiet (Moves.hold source) rfl rfl
  apply (recorded.tracks actor).held_only
  intro copy read
  rw [unread] at read
  cases read

theorem Recorded.read (recorded : Recorded library knowing)
  (unread : (knowing actor).source = none) (found : library.sources.get? key = some source) :
  Recorded (library.hold actor source)
    (update knowing actor { knowing actor with source := some source }) := by
  apply recorded.quiet (Moves.hold source) rfl rfl
  have held : Tracks (library.hold actor source) actor (knowing actor) :=
    (recorded.tracks actor).held_only fun copy read => by rw [unread] at read; cases read
  apply held.learnSource unread
  · exact update_self _ _ _
  refine ⟨recorded.described key source found, source, ?_, Nat.le_refl _⟩
  rw [recorded.keyed key source found]
  exact found

theorem earlier_event {events : List LibraryEvent} {event added : LibraryEvent}
  (other : event ≠ added) (member : event ∈ events ++ [added]) : event ∈ events := by
  rcases mem_append.mp member with old | new
  · exact old
  exact absurd (mem_singleton.mp new) other

theorem Recorded.started (recorded : Recorded library knowing) (idle : (knowing actor).sync = none)
  (running : sync.status = .running) (absent : library.syncs.get? sync.key = none) :
  Recorded
    ({ library with syncs := library.syncs.set sync.key sync }.log (.started actor sync.key))
    (update knowing actor { knowing actor with sync := some sync.key }) := by
  have tracks := recorded.tracks actor
  have unsettled : ∀ key, .started actor key ∉ library.events := by
    intro key member
    rw [(tracks.started key).mp member] at idle
    cases idle
  have earlier (event : LibraryEvent) (other : event ≠ .started actor sync.key) :
    event ∈ library.events ++ [.started actor sync.key] → event ∈ library.events :=
    earlier_event other
  apply recorded.step (Moves.start absent) recorded.keyed recorded.described
  · rintro key run found status ⟨publisher, source, revision, member⟩
    have published := earlier (.published publisher source revision key) nofun member
    by_cases same : key = sync.key
    · subst same
      have found' : some sync = some run := (get?_set_self _ _ _).symm.trans found
      cases found'
      rw [running] at status
      cases status
    exact recorded.failed key run ((get?_set_other _ _ same).symm.trans found) status
      ⟨publisher, source, revision, published⟩
  · intro event _ new member
    rw [mem_singleton.mp member]
    cases event <;> trivial
  · exact pairwise_singleton _ _
  · intro event member
    rw [mem_singleton.mp member]
    exact Option.isSome_of_mem (get?_set_self _ _ _)
  exact
    { held := tracks.held, copied := tracks.copied
      connected := fun source revision member =>
        tracks.connected source revision
          (earlier (.connected actor source revision) nofun member)
      publishes := fun source revision key member => by
        obtain ⟨_, started, _⟩ := tracks.publishes source revision key
          (earlier (.published actor source revision key) nofun member)
        rw [idle] at started
        cases started
      published := fun done => by
        obtain ⟨_, _, _, _, started⟩ := tracks.published done
        rw [idle] at started
        cases started
      started := fun key => by
        show .started actor key ∈ library.events ++ [.started actor sync.key] ↔ _
        rw [mem_append, or_iff_right (unsettled key), mem_singleton,
          LibraryEvent.started.injEq, Option.some.injEq]
        exact ⟨fun both => both.2.symm, fun same => ⟨rfl, same.symm⟩⟩
      alone := fun key same => by
        cases same
        refine ⟨⟨sync, get?_set_self _ _ _⟩, fun other member => ?_⟩
        rcases mem_append.mp member with old | new
        · have stored := recorded.reached _ old
          simp only [Library.Reached, absent, Option.isSome_none, Bool.false_eq_true] at stored
        exact (LibraryEvent.started.inj (mem_singleton.mp new)).1
      settled := fun done => by
        obtain ⟨_, _, started, _⟩ := tracks.settled done
        rw [idle] at started
        cases started }

theorem Tracks.kept (tracks : Tracks library actor known)
  (moves : Moves actor library later []) (held : later.held = library.held)
  (syncs : later.syncs = library.syncs) : Tracks later actor known := by
  have events : later.events = library.events := moves.events.trans (append_nil _)
  constructor
  · rw [held]
    exact tracks.held
  · exact fun copy read => moves.copied (tracks.copied copy read)
  · rw [events]
    exact tracks.connected
  · rw [events]
    exact tracks.publishes
  · rw [events]
    exact tracks.published
  · rw [events]
    exact tracks.started
  · rw [events, syncs]
    exact tracks.alone
  rw [syncs]
  exact tracks.settled

section

variable (recorded : Recorded library knowing)

include recorded

theorem Recorded.connected (read : (knowing actor).source = some copy) : Recorded
  { library with events := library.events ++ [.connected actor copy.key copy.revision] }
  (update knowing actor (knowing actor)) := by
  have tracks := recorded.tracks actor
  have moves : Moves actor library
      { library with events := library.events ++ [.connected actor copy.key copy.revision] }
      [.connected actor copy.key copy.revision] :=
    { held := fun _ _ => rfl
      events := rfl, own := fun event member => by rw [mem_singleton.mp member]; rfl
      fresh := fun _ _ member => nomatch mem_singleton.mp member
      snapshots := fun _ _ => id
      sources := fun _ source found => ⟨source, found, Nat.le_refl _⟩
      syncs := fun _ run found => ⟨run, found, .inl rfl⟩ }
  have earlier (event : LibraryEvent) (other : event ≠ .connected actor copy.key copy.revision) :
    event ∈ library.events ++ [.connected actor copy.key copy.revision] → event ∈ library.events :=
    earlier_event other
  apply recorded.step moves recorded.keyed recorded.described
  · rintro key run found status ⟨publisher, source, revision, member⟩
    exact recorded.failed key run found status ⟨publisher, source, revision,
      earlier (.published publisher source revision key) nofun member⟩
  · intro event _ new member
    rw [mem_singleton.mp member]
    cases event <;> trivial
  · exact pairwise_singleton _ _
  · intro event member
    rw [mem_singleton.mp member]
    exact (tracks.copied copy read).2
  exact
    { held := tracks.held, copied := tracks.copied
      connected := fun source revision member => by
        rcases mem_append.mp member with old | new
        · exact tracks.connected source revision old
        cases mem_singleton.mp new
        exact ⟨copy, read, rfl, rfl⟩
      publishes := fun source revision key member => tracks.publishes source revision key
        (earlier (.published actor source revision key) nofun member)
      published := fun done => by
        obtain ⟨source, revision, sync, member, started⟩ := tracks.published done
        exact ⟨source, revision, sync, mem_append_left _ member, started⟩
      started := fun key => by
        rw [← tracks.started key]
        exact ⟨earlier (.started actor key) nofun, mem_append_left _⟩
      alone := fun key started => by
        obtain ⟨stored, alone⟩ := tracks.alone key started
        exact ⟨stored, fun other member => alone other (earlier (.started other key) nofun member)⟩
      settled := tracks.settled }

variable {stored : KnowledgeSource}

theorem keyed_set (source : KnowledgeSource)
  (found : (library.sources.set source.key source).get? key = some stored) : stored.key = key := by
  by_cases same : key = source.key
  · subst same
    have found' := (get?_set_self library.sources source.key source).symm.trans found
    cases found'
    rfl
  exact recorded.keyed key stored ((get?_set_other _ _ same).symm.trans found)

theorem described_set (moves : Moves actor library later added)
  (sources : later.sources = library.sources.set source.key source)
  (describes : later.Describes source)
  (found : later.sources.get? key = some stored) : later.Describes stored := by
  rw [sources] at found
  by_cases same : key = source.key
  · subst same
    have found' := (get?_set_self library.sources source.key source).symm.trans found
    cases found'
    exact describes
  exact moves.describes (recorded.described key stored ((get?_set_other _ _ same).symm.trans found))

theorem Recorded.refreshed {updated : KnowledgeSource} {expectedRevision : Nat}
  (read : (knowing actor).source = some copy) (refreshes : Refreshes copy expectedRevision updated)
  (found : library.sources.get? updated.key = some current)
  (expected : current.revision = expectedRevision) :
  Recorded { library with sources := library.sources.set updated.key updated }
    (update knowing actor (knowing actor)) := by
  have tracks := recorded.tracks actor
  have grown : current.revision ≤ updated.revision := by
    have := refreshes.expected
    have := refreshes.revision
    omega
  have moves : Moves actor library
      { library with sources := library.sources.set updated.key updated } [] :=
    Moves.refresh found grown
  apply recorded.step moves
  · exact fun _ _ => keyed_set recorded updated
  · intro key stored stored'
    apply described_set recorded moves rfl _ stored'
    have described := moves.describes (tracks.copied copy read).1
    rw [Library.Describes, refreshes.activeSnapshotId, refreshes.checkpoint,
      show updated.tenantId = copy.tenantId from congrArg Prod.fst refreshes.key]
    exact described
  · exact recorded.failed
  · exact fun _ _ _ member => nomatch member
  · exact List.Pairwise.nil
  · exact fun _ member => nomatch member
  exact tracks.kept moves rfl rfl

theorem Recorded.settled (started : (knowing actor).sync = some sync.key)
  (unpublished : (knowing actor).published = false)
  (status : sync.status = .failed ∨ sync.status = .unchanged) (settled : Bool) :
  Recorded { library with syncs := library.syncs.set sync.key sync }
    (update knowing actor { knowing actor with settled }) := by
  have tracks := recorded.tracks actor
  have moves := Moves.settle ((tracks.started sync.key).mpr started)
  apply recorded.step moves recorded.keyed recorded.described
  · rintro key run found failed ⟨publisher, source, revision, member⟩
    by_cases same : key = sync.key
    · subst same
      have owner := ((recorded.tracks publisher).publishes source revision sync.key member).2.1
      have publisher_eq := (tracks.alone sync.key started).2 publisher
        (((recorded.tracks publisher).started sync.key).mpr owner)
      subst publisher_eq
      have published := (tracks.publishes source revision sync.key member).1
      rw [unpublished] at published
      cases published
    exact recorded.failed key run ((get?_set_other _ _ same).symm.trans found) failed
      ⟨publisher, source, revision, member⟩
  · exact fun _ _ _ member => nomatch member
  · exact List.Pairwise.nil
  · exact fun _ member => nomatch member
  exact
    { held := tracks.held, copied := tracks.copied, connected := tracks.connected
      publishes := tracks.publishes, published := tracks.published, started := tracks.started
      alone := fun key same => by
        obtain ⟨⟨run, found⟩, alone⟩ := tracks.alone key same
        obtain ⟨run', found', _⟩ := moves.syncs key run found
        exact ⟨⟨run', found'⟩, alone⟩
      settled := fun _ => ⟨sync.key, sync, started, get?_set_self _ _ _, status⟩ }

theorem Recorded.published {publication : SnapshotPublication} {sync : String × String}
  (read : (knowing actor).source = some copy) (started : (knowing actor).sync = some sync)
  (unpublished : (knowing actor).published = false) (unsettled : (knowing actor).settled = false)
  (advances : Advances copy sync publication)
  (found : library.sources.get? publication.source.key = some current)
  (expected : current.revision = publication.expectedRevision)
  (fresh : library.snapshots.get? publication.snapshot.key = none) :
  Recorded
    ((library.withPublication publication).log (.published actor publication.source.key
    publication.source.revision publication.sync.key))
    (update knowing actor { knowing actor with published := true }) := by
  have tracks := recorded.tracks actor
  obtain rfl := advances.sync
  have revisions : publication.source.revision = current.revision + 1 := by
    have := advances.expected
    have := advances.revision
    omega
  have own := (tracks.started publication.sync.key).mpr started
  have moves := Moves.publish found (by omega) fresh own publication.source.revision
  have stored : (library.withPublication publication).snapshots.get? publication.snapshot.key =
    some publication.snapshot := get?_set_self _ _ _
  have earlier (event : LibraryEvent)
    (other : event ≠ .published actor publication.source.key publication.source.revision
      publication.sync.key) :
    event ∈ library.events ++ [.published actor publication.source.key
      publication.source.revision publication.sync.key] → event ∈ library.events :=
    earlier_event other
  apply recorded.step moves
  · exact fun _ _ => keyed_set recorded publication.source
  · intro key source found'
    apply described_set recorded moves rfl _ found'
    intro snapshotId active
    have same := active.symm.trans advances.activeSnapshotId
    cases same
    exact ⟨publication.snapshot, by rw [← advances.tenantId]; exact stored, advances.checkpoint⟩
  · rintro key run found' failed ⟨publisher, source, revision, member⟩
    by_cases same : key = publication.sync.key
    · subst same
      have succeeded := (get?_set_self library.syncs publication.sync.key
        publication.sync).symm.trans found'
      cases succeeded
      rw [advances.succeeded] at failed
      cases failed
    apply recorded.failed key run ((get?_set_other _ _ same).symm.trans found') failed
    refine ⟨publisher, source, revision, ?_⟩
    apply earlier (.published publisher source revision key) _ member
    rintro ⟨⟩
    exact same rfl
  · intro event member new member'
    rw [mem_singleton.mp member']
    cases event with
    | started other key => trivial
    | connected other key revision | published other key revision key' =>
      rintro rfl
      obtain ⟨source, found', reached⟩ := recorded.reached _ member
      rw [found] at found'
      cases found'
      omega
  · exact pairwise_singleton _ _
  · intro event member
    rw [mem_singleton.mp member]
    exact ⟨publication.source, get?_set_self _ _ _, Nat.le_refl _⟩
  exact
    { held := tracks.held, copied := fun copy read => moves.copied (tracks.copied copy read)
      connected := fun source revision member => tracks.connected source revision
        (earlier (.connected actor source revision) nofun member)
      publishes := fun source revision key member => by
        rcases mem_append.mp member with old | new
        · obtain ⟨done, _⟩ := tracks.publishes source revision key old
          rw [unpublished] at done
          cases done
        cases mem_singleton.mp new
        exact ⟨rfl, started, copy, read, advances.key.symm, advances.revision⟩
      published := fun _ => ⟨_, _, _, mem_append_right _ (mem_singleton_self _), started⟩
      started := fun key => by
        rw [← tracks.started key]
        exact ⟨earlier (.started actor key) nofun, mem_append_left _⟩
      alone := fun key same => by
        obtain ⟨⟨run, found'⟩, alone⟩ := tracks.alone key same
        obtain ⟨run', found', _⟩ := moves.syncs key run found'
        exact ⟨⟨run', found'⟩, fun other member =>
          alone other (earlier (.started other key) nofun member)⟩
      settled := fun done => by
        rw [unsettled] at done
        cases done }

end

end

section

variable (platform : LibraryPlatform) (service : KnowledgeSyncService)

variable {library later : Library} {knowing : Nat → SyncProgress} {actor : Nat}
  {input : LibraryInput}

def Answered (knowing : Nat → SyncProgress) (actor : Nat)
  (op : SyncOp) (reply : Except KnowledgeError op.Answer × Library) : Prop :=
  SyncForeseen (knowing actor) op reply.1 ∧
    Recorded reply.2 (update knowing actor ((knowing actor).after op reply.1))

section

variable (recorded : Recorded library knowing)

include recorded

variable {sync : KnowledgeSyncRun}

end

end

def numbered : LibraryPlatform where
  generatedId kind count := kind ++ "-" ++ toString count

def delivering : LibraryInput where
  connector := .ok
    { documents := [⟨"page", "Page", "Ask the owner.", "https://manual.test"⟩]
      checkpoint := Dict.empty.set "contentHash" (.text "v1") }

def overlapping : List (Nat × LibraryInput) :=
  List.replicate 6 (0, delivering) ++ List.replicate 6 (1, delivering) ++
    List.replicate 4 (0, delivering) ++ List.replicate 6 (1, delivering)

end AgentHarness.Knowledge
