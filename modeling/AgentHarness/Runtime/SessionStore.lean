import Mathlib.Data.List.Sort
import Mathlib.Data.Prod.Lex
import Mathlib.Logic.Function.Basic

/-!
The mirror of SDK transcripts, appended to by any number of writers.
-/

namespace AgentHarness.Runtime.SessionStore

open List Function

structure Entry where
  uuid : Option String
  payload : String
  deriving DecidableEq

structure Row (Key : Type) where
  key : Key
  sequence : Nat
  entry : Entry

inductive Phase (Key : Type) where
  | idle
  | locked (key : Key) (batch : List Entry)
  | counted (key : Key) (batch : List Entry) (maximum : Nat)
  | checked (key : Key) (batch : List Entry) (maximum : Nat) (existing : List String)

def Phase.key? {Key : Type} : Phase Key → Option Key
  | .idle => none
  | .locked key _ | .counted key _ _ | .checked key _ _ _ => some key

inductive Move (Key : Type) where
  | append (key : Key) (batch : List Entry)
  | proceed
  | fail (applied : Bool)

/-- Beside the rows and the locks the state keeps which entries were committed and which were in a
batch whose append has returned. -/
structure Mirror (Key : Type) where
  rows : List (Row Key) := []
  holder : Int → Option Nat := fun _ => none
  phase : Nat → Phase Key := fun _ => .idle
  committed : List (Key × Entry) := []
  returned : List (Key × Entry) := []

variable {Key : Type}

def added (key : Key) (batch : List Entry) (maximum : Nat) (existing : List String) :
  List (Row Key) :=
  ((batch.filter fun entry => entry.uuid.all (· ∉ existing)).zipIdx (maximum + 1)).map
    fun (entry, sequence) => { key, sequence, entry }

section

variable (key : Key) (batch : List Entry) (maximum : Nat) (existing : List String)

theorem entries_added : (added key batch maximum existing).map (·.entry) =
  batch.filter fun entry => entry.uuid.all (· ∉ existing) := by
  rw [added, map_map]
  exact zipIdx_map_fst _ _

theorem uuids_added : (added key batch maximum existing).filterMap (·.entry.uuid) =
  (batch.filterMap (·.uuid)).filter (· ∉ existing) := by
  have entries := congrArg (filterMap Entry.uuid) (entries_added key batch maximum existing)
  rw [filterMap_map, filterMap_filter] at entries
  refine entries.trans ?_
  rw [filter_filterMap]
  congr 1
  funext entry
  cases entry.uuid <;> simp [Option.filter]

theorem sequences_added :
  ((added key batch maximum existing).map (·.sequence)).Pairwise (· < ·) ∧
    ∀ row ∈ added key batch maximum existing, maximum < row.sequence := by
  unfold added
  constructor
  · rw [map_map, show (fun row : Row Key => row.sequence) ∘ _ = Prod.snd from rfl,
      zipIdx_map_snd]
    exact pairwise_lt_range'
  intro row member
  obtain ⟨item, among, rfl⟩ := mem_map.mp member
  exact le_snd_of_mem_zipIdx among

end

variable [DecidableEq Key]

def under (rows : List (Row Key)) (key : Key) : List (Row Key) := rows.filter (·.key = key)

def uuidsOf (rows : List (Row Key)) (key : Key) : List String :=
  (under rows key).filterMap (·.entry.uuid)

def maximumOf (rows : List (Row Key)) (key : Key) : Nat :=
  ((under rows key).map (·.sequence)).foldr max 0

/-- An empty identifier is not asked for. -/
def existingOf (rows : List (Row Key)) (key : Key) (batch : List Entry) : List String :=
  (batch.filterMap (·.uuid)).filter fun uuid => uuid ≠ "" ∧ uuid ∈ uuidsOf rows key

def load (rows : List (Row Key)) (key : Key) : Option (List Entry) :=
  let found := (under rows key).insertionSort fun first second => first.sequence ≤ second.sequence
  if found.isEmpty then none else some (found.map (·.entry))

namespace Mirror

variable (lock : Key → Int)

def leave (mirror : Mirror Key) (writer : Nat) (key : Key) : Mirror Key :=
  { mirror with
    holder := update mirror.holder (lock key) none, phase := update mirror.phase writer .idle }

def commit (mirror : Mirror Key) (writer : Nat) (key : Key) (batch : List Entry)
  (maximum : Nat) (existing : List String) : Mirror Key :=
  { mirror.leave lock writer key with
    rows := mirror.rows ++ added key batch maximum existing
    committed := mirror.committed ++ batch.map fun entry => (key, entry) }

/-- A writer that does not get the lock waits; a failing call may have been applied. -/
def step (mirror : Mirror Key) : Nat × Move Key → Mirror Key
  | (writer, move) =>
    match mirror.phase writer, move with
    | .idle, .append key batch =>
      if batch.isEmpty || (mirror.holder (lock key)).isSome then mirror
      else
        { mirror with
          holder := update mirror.holder (lock key) (some writer)
          phase := update mirror.phase writer (.locked key batch) }
    | .locked key batch, .proceed =>
      let maximum := maximumOf mirror.rows key
      { mirror with phase := update mirror.phase writer (.counted key batch maximum) }
    | .counted key batch maximum, .proceed =>
      let existing := existingOf mirror.rows key batch
      { mirror with phase := update mirror.phase writer (.checked key batch maximum existing) }
    | .checked key batch maximum existing, .proceed =>
      { mirror.commit lock writer key batch maximum existing with
        returned := mirror.returned ++ batch.map fun entry => (key, entry) }
    | .checked key batch maximum existing, .fail true =>
      mirror.commit lock writer key batch maximum existing
    | .locked key _, .fail _ | .counted key _ _, .fail _ | .checked key _ _ _, .fail false =>
      mirror.leave lock writer key
    | _, _ => mirror

/-- No identifier that is not stored yet is twice in the batch, and no empty one comes again. -/
def clean (rows : List (Row Key)) (key : Key) (batch : List Entry) : Bool :=
  let uuids := batch.filterMap (·.uuid)
  (uuids.filter (· ∉ uuidsOf rows key)).Nodup ∧ ("" ∈ uuids → "" ∉ uuidsOf rows key)

def cleanRun (mirror : Mirror Key) : List (Nat × Move Key) → Bool
  | [] => true
  | move :: moves =>
    (match mirror.phase move.1 with
    | .checked key batch _ _ => clean mirror.rows key batch
    | _ => true) && cleanRun (mirror.step lock move) moves

def historyOf (mirror : Mirror Key) (key : Key) : List String :=
  mirror.committed.filterMap fun (own, entry) => if own = key then entry.uuid else none

/-- What a writer has read stands as long as it has the lock. -/
def Planned (rows : List (Row Key)) : Phase Key → Prop
  | .counted key _ maximum => maximum = maximumOf rows key
  | .checked key batch maximum existing =>
    maximum = maximumOf rows key ∧ existing = existingOf rows key batch
  | _ => True

def Stands (rows : List (Row Key)) (holder : Int → Option Nat) (writer : Nat)
  (phase : Phase Key) : Prop :=
  Planned rows phase ∧ ∀ key, phase.key? = some key → holder (lock key) = some writer

structure Kept (mirror : Mirror Key) : Prop where
  stands : ∀ writer, Stands lock mirror.rows mirror.holder writer (mirror.phase writer)
  ascending : ∀ key, ((under mirror.rows key).map (·.sequence)).Pairwise (· < ·)
  once : ∀ key, uuidsOf mirror.rows key = (mirror.historyOf key).eraseDups
  nameless : ∀ key entry, (key, entry) ∈ mirror.committed → entry.uuid = none →
    entry ∈ (under mirror.rows key).map (·.entry)
  returns : ∀ item ∈ mirror.returned, item ∈ mirror.committed

section

variable {rows : List (Row Key)} {key other : Key} {batch : List Entry} {lock : Key → Int}
variable {mirror : Mirror Key} {writer : Nat}

theorem under_added {maximum : Nat} {existing : List String} :
  under (rows ++ added key batch maximum existing) other =
    if other = key then under rows key ++ added key batch maximum existing
    else under rows other := by
  unfold under
  rw [filter_append]
  split
  · next same =>
    subst same
    congr 1
    refine filter_eq_self.mpr fun row member => ?_
    obtain ⟨item, _, rfl⟩ := mem_map.mp member
    exact decide_eq_true rfl
  next distinct =>
  refine append_right_eq_self.mpr (filter_eq_nil_iff.mpr fun row member => ?_)
  obtain ⟨item, _, rfl⟩ := mem_map.mp member
  simpa using Ne.symm distinct

theorem le_maximumOf {row : Row Key} (member : row ∈ under rows key) :
  row.sequence ≤ maximumOf rows key := by
  have bounded : ∀ {numbers : List Nat} {number : Nat}, number ∈ numbers →
    number ≤ numbers.foldr max 0 := by
    intro numbers number listed
    induction numbers with
    | nil => cases listed
    | cons first rest ih =>
      obtain rfl | later := mem_cons.mp listed
      · exact Nat.le_max_left _ _
      exact Nat.le_trans (ih later) (Nat.le_max_right _ _)
  exact bounded (mem_map_of_mem member)

theorem eraseDups_of_nodup {uuids : List String} (single : uuids.Nodup) :
  uuids.eraseDups = uuids := by
  induction uuids with
  | nil => rfl
  | cons uuid uuids ih =>
    obtain ⟨absent, rest⟩ := nodup_cons.mp single
    have others : uuids.filter (fun other => !other == uuid) = uuids :=
      filter_eq_self.mpr fun other member => by
        simpa using ne_of_mem_of_not_mem member absent
    rw [eraseDups_cons, others, ih rest]

theorem once_added {history : List String} (fresh : clean rows key batch = true)
  (once : uuidsOf rows key = history.eraseDups) :
  uuidsOf rows key ++ (batch.filterMap (·.uuid)).filter (· ∉ existingOf rows key batch) =
    (history ++ batch.filterMap (·.uuid)).eraseDups := by
  obtain ⟨single, unnamed⟩ := of_decide_eq_true fresh
  have stored : ∀ uuid, uuid ∈ uuidsOf rows key ↔ uuid ∈ history := by simp [once]
  have skipped : ∀ uuid ∈ batch.filterMap (·.uuid),
    uuid ∈ existingOf rows key batch ↔ uuid ∈ uuidsOf rows key := by
    intro uuid member
    unfold existingOf
    rw [mem_filter, decide_eq_true_eq]
    constructor
    · exact fun found => found.2.2
    intro found
    refine ⟨member, ?_, found⟩
    rintro rfl
    exact unnamed member found
  have same : (batch.filterMap (·.uuid)).filter (· ∉ existingOf rows key batch) =
    (batch.filterMap (·.uuid)).filter (· ∉ uuidsOf rows key) :=
    filter_congr fun uuid member => by simp only [skipped uuid member]
  have new : (batch.filterMap (·.uuid)).removeAll history =
    (batch.filterMap (·.uuid)).filter (· ∉ uuidsOf rows key) :=
    filter_congr fun uuid _ => by simp [stored]
  rw [eraseDups_append, ← once, same, new, eraseDups_of_nodup single]

theorem Kept.update (kept : Kept lock mirror) {holder : Int → Option Nat} {phase : Phase Key}
  (own : Stands lock mirror.rows holder writer phase)
  (others : ∀ other, other ≠ writer → ∀ key, (mirror.phase other).key? = some key →
    holder (lock key) = mirror.holder (lock key)) :
  Kept lock { mirror with holder, phase := update mirror.phase writer phase } :=
  { kept with
    stands := (forall_update_iff _ fun other phase =>
      Stands lock mirror.rows holder other phase).mpr ⟨own, fun other distinct =>
        ⟨(kept.stands other).1, fun key keeps =>
          (others other distinct key keeps).trans ((kept.stands other).2 key keeps)⟩⟩ }

theorem Kept.apart (kept : Kept lock mirror) (holds : (mirror.phase writer).key? = some key)
  {reader : Nat} (distinct : reader ≠ writer) {own : Key}
  (keeps : (mirror.phase reader).key? = some own) : lock own ≠ lock key := by
  intro shared
  have both := (kept.stands reader).2 own keeps
  rw [shared, (kept.stands writer).2 key holds] at both
  exact distinct (Option.some.inj both).symm

theorem Kept.leave (kept : Kept lock mirror) (holds : (mirror.phase writer).key? = some key) :
  Kept lock (mirror.leave lock writer key) :=
  kept.update ⟨trivial, nofun⟩ fun _ distinct _ keeps =>
    update_of_ne (kept.apart holds distinct keeps) _ _

theorem Planned.keep {phase : Phase Key} {maximum : Nat} {existing : List String}
  (planned : Planned rows phase) (elsewhere : ∀ own, phase.key? = some own → own ≠ key) :
  Planned (rows ++ added key batch maximum existing) phase := by
  have same : ∀ own, own ≠ key →
    under (rows ++ added key batch maximum existing) own = under rows own :=
    fun own distinct => under_added.trans (if_neg distinct)
  cases phase with
  | idle | locked own pending => trivial
  | counted own pending most =>
    rw [Planned, maximumOf, same own (elsewhere own rfl)]
    exact planned
  | checked own pending most found =>
    rw [Planned, maximumOf, existingOf, uuidsOf, same own (elsewhere own rfl)]
    exact planned

theorem historyOf_commit {maximum : Nat} {existing : List String} :
  (mirror.commit lock writer key batch maximum existing).historyOf other =
    mirror.historyOf other ++ if other = key then batch.filterMap (·.uuid) else [] := by
  unfold historyOf Mirror.commit
  rw [filterMap_append, filterMap_map]
  split
  · next same =>
    subst same
    simp
  next distinct => simp [Ne.symm distinct]

theorem Kept.commit (kept : Kept lock mirror) {maximum : Nat} {existing : List String}
  (ready : mirror.phase writer = .checked key batch maximum existing)
  (fresh : clean mirror.rows key batch = true) :
  Kept lock (mirror.commit lock writer key batch maximum existing) := by
  have holds : (mirror.phase writer).key? = some key := by rw [ready]; rfl
  have left := kept.leave holds
  have plans := (kept.stands writer).1
  rw [ready] at plans
  obtain ⟨rfl, rfl⟩ := plans
  refine ⟨fun other => ?_, fun own => ?_, fun own => ?_, fun own entry listed unnamed => ?_,
    fun item member => mem_append_left _ (kept.returns item member)⟩
  · have before := left.stands other
    refine ⟨before.1.keep fun own keeps elsewhere => ?_, before.2⟩
    have phased : (mirror.leave lock writer key).phase other =
      if other = writer then .idle else mirror.phase other := update_apply _ _ _ _
    rw [phased] at keeps
    split at keeps
    · cases keeps
    next distinct => exact kept.apart holds distinct keeps (congrArg lock elsewhere)
  · rw [Mirror.commit, under_added]
    split
    · rw [map_append, pairwise_append]
      obtain ⟨rising, above⟩ := sequences_added key batch (maximumOf mirror.rows key)
        (existingOf mirror.rows key batch)
      refine ⟨kept.ascending key, rising, fun first before last behind => ?_⟩
      obtain ⟨row, member, rfl⟩ := mem_map.mp before
      obtain ⟨later, among, rfl⟩ := mem_map.mp behind
      exact Nat.lt_of_le_of_lt (le_maximumOf member) (above later among)
    exact kept.ascending own
  · rw [historyOf_commit]
    unfold uuidsOf
    rw [Mirror.commit, under_added]
    split
    · next same =>
      rw [filterMap_append, uuids_added, same]
      exact once_added fresh (kept.once key)
    rw [append_nil]
    exact kept.once own
  rw [Mirror.commit, under_added]
  obtain earlier | added := mem_append.mp listed
  · have stored := kept.nameless own entry earlier unnamed
    split
    · next same =>
      rw [map_append, ← same]
      exact mem_append_left _ stored
    exact stored
  obtain ⟨item, among, same⟩ := mem_map.mp added
  cases same
  rw [if_pos rfl, map_append, entries_added]
  exact mem_append_right _ (mem_filter.mpr ⟨among, by rw [unnamed]; rfl⟩)

theorem Kept.step (kept : Kept lock mirror) (move : Nat × Move Key)
  (fresh : ∀ key batch maximum existing,
    mirror.phase move.1 = .checked key batch maximum existing →
      clean mirror.rows key batch = true) :
  Kept lock (mirror.step lock move) := by
  obtain ⟨writer, move⟩ := move
  have same : ∀ phase : Phase Key, phase.key? = (mirror.phase writer).key? →
      Planned mirror.rows phase →
      Kept lock { mirror with phase := Function.update mirror.phase writer phase } :=
    fun phase own planned => kept.update
      ⟨planned, fun key keeps => (kept.stands writer).2 key (own ▸ keeps)⟩ fun _ _ _ _ => rfl
  cases stands : mirror.phase writer with
  | idle =>
    cases move with
    | append key batch =>
      simp only [Mirror.step, stands]
      split
      · exact kept
      next free =>
        simp only [Bool.or_eq_true, not_or, Bool.not_eq_true, Option.isSome_eq_false_iff,
          Option.isNone_iff_eq_none] at free
        refine kept.update ⟨trivial, fun own keeps => ?_⟩ fun other distinct own keeps => ?_
        · cases keeps
          exact update_self _ _ _
        refine update_of_ne (fun shared => ?_) _ _
        have holds := (kept.stands other).2 own keeps
        rw [shared, free.2] at holds
        cases holds
    | proceed | fail applied => simpa only [Mirror.step, stands] using kept
  | locked key batch =>
    cases move with
    | append => simpa only [Mirror.step, stands] using kept
    | proceed =>
      have counted := same (.counted key batch (maximumOf mirror.rows key)) (by rw [stands]; rfl) rfl
      simpa only [Mirror.step, stands] using counted
    | fail applied => simpa only [Mirror.step, stands] using kept.leave (by rw [stands]; rfl)
  | counted key batch maximum =>
    cases move with
    | append => simpa only [Mirror.step, stands] using kept
    | proceed =>
      have counted := (kept.stands writer).1
      rw [stands] at counted
      have checked := same (.checked key batch maximum (existingOf mirror.rows key batch))
        (by rw [stands]; rfl) ⟨counted, rfl⟩
      simpa only [Mirror.step, stands] using checked
    | fail applied => simpa only [Mirror.step, stands] using kept.leave (by rw [stands]; rfl)
  | checked key batch maximum existing =>
    have committed := kept.commit stands (fresh key batch maximum existing stands)
    match move with
    | .append _ _ => simpa only [Mirror.step, stands] using kept
    | .proceed =>
      simp only [Mirror.step, stands]
      refine { committed with returns := fun item member => ?_ }
      obtain before | now := mem_append.mp member
      · exact mem_append_left _ (kept.returns item before)
      exact mem_append_right _ now
    | .fail true => simpa only [Mirror.step, stands] using committed
    | .fail false => simpa only [Mirror.step, stands] using kept.leave (by rw [stands]; rfl)

theorem kept_run (kept : Kept lock mirror) (moves : List (Nat × Move Key))
  (fresh : cleanRun lock mirror moves = true) : Kept lock (moves.foldl (step lock) mirror) := by
  induction moves generalizing mirror with
  | nil => exact kept
  | cons move moves ih =>
    obtain ⟨now, later⟩ := Bool.and_eq_true_iff.mp fresh
    refine ih (kept.step move fun key batch maximum existing stands => ?_) later
    rw [stands] at now
    exact now

theorem kept_empty : Kept lock {} :=
  ⟨fun _ => ⟨trivial, nofun⟩, fun _ => .nil, fun _ => rfl, nofun, nofun⟩

theorem loaded_eq (kept : Kept lock mirror) (key : Key) :
  (load mirror.rows key).getD [] = (under mirror.rows key).map (·.entry) := by
  have sorted : (under mirror.rows key).Pairwise fun first second =>
      first.sequence ≤ second.sequence :=
    (pairwise_map.mp (kept.ascending key)).imp Nat.le_of_lt
  unfold load
  rw [sorted.insertionSort_eq]
  cases under mirror.rows key <;> rfl

/-- While every batch is clean when it is committed, a session loads each identifier once, in the
order of the first commits, and every entry whose append has returned. -/
theorem entries_loaded_once (lock : Key → Int) (moves : List (Nat × Move Key))
  (fresh : cleanRun lock {} moves = true) (key : Key) :
  let mirror := moves.foldl (step lock) {}
  let loaded := (load mirror.rows key).getD []
  loaded.filterMap (·.uuid) = (mirror.historyOf key).eraseDups ∧
    ∀ entry, (key, entry) ∈ mirror.returned →
      match entry.uuid with
      | none => entry ∈ loaded
      | some uuid => uuid ∈ loaded.filterMap (·.uuid) := by
  intro mirror loaded
  have kept := kept_run kept_empty moves fresh
  have once : loaded.filterMap (·.uuid) = (mirror.historyOf key).eraseDups := by
    rw [show loaded = _ from loaded_eq kept key, filterMap_map]
    exact kept.once key
  refine ⟨once, fun entry returned => ?_⟩
  have committed := kept.returns _ returned
  cases named : entry.uuid with
  | none =>
    rw [show loaded = _ from loaded_eq kept key]
    exact kept.nameless key entry committed named
  | some uuid =>
    dsimp only
    rw [once, mem_eraseDups]
    exact mem_filterMap.mpr ⟨_, committed, (if_pos rfl).trans named⟩

end

def batchOf (uuids : List String) : List Entry := uuids.map fun uuid => ⟨some uuid, uuid⟩

/-- One writer's append is applied and fails, and a second writer appends a part of it again. -/
def retried : List (Nat × Move String) :=
  [(0, .append "main" (batchOf ["a", "b"])), (0, .proceed), (1, .append "main" (batchOf ["b", "c"])),
    (0, .proceed), (0, .fail true), (1, .append "main" (batchOf ["b", "c"])), (1, .proceed),
    (1, .proceed), (1, .proceed)]

theorem entries_loaded_once_retried :
  let mirror := retried.foldl (step fun _ => 0) {}
  ((load mirror.rows "main").getD []).filterMap (·.uuid) = (mirror.historyOf "main").eraseDups :=
  (entries_loaded_once (fun _ => 0) retried (by decide +kernel) "main").1

theorem entry_loaded_twice :
  let mirror := [(0, .append "main" (batchOf ["a", "a"])), (0, .proceed), (0, .proceed),
    (0, .proceed)].foldl (step fun _ => 0) {}
  ((load mirror.rows "main").getD []).filterMap (·.uuid) = ["a", "a"] := by
  decide +kernel

end Mirror

end AgentHarness.Runtime.SessionStore
