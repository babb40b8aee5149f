import AgentHarness.Collections.Dict

/-!
A table under READ COMMITTED with row locks.

Readers see the committed rows.  What a transaction has written stays with it until it
commits, and its writer holds the lock of a row: there is at most one uncommitted version
of a row, stored with the actor that wrote it.
-/

namespace Collections

open Dict List Option

structure LockedTable (Actor Key Row : Type) where
  committed : Dict Key Row
  written : Dict Key (Actor × Row)

namespace LockedTable

variable {Actor Key Row : Type} [DecidableEq Actor] [DecidableEq Key]

/-- The committed rows that meet the condition: what the snapshot of a statement fixes. -/
def select (table : LockedTable Actor Key Row) (condition : Row → Bool) : List Key :=
  (table.committed.entries.filter fun entry => condition entry.2).map Prod.fst

def Locked (table : LockedTable Actor Key Row) (actor : Actor) (key : Key) : Prop :=
  ∃ held ∈ table.written.get? key, held.1 ≠ actor

instance (table : LockedTable Actor Key Row) (actor : Actor) (key : Key) :
  Decidable (table.Locked actor key) :=
  inferInstanceAs (Decidable (∃ held ∈ table.written.get? key, held.1 ≠ actor))

def write (table : LockedTable Actor Key Row) (actor : Actor) (key : Key) (row : Row) :
  LockedTable Actor Key Row :=
  { table with written := table.written.set key (actor, row) }

def revise (table : LockedTable Actor Key Row) (actor : Actor) (change : Row → Option Row) :
    List Key → LockedTable Actor Key Row
  | [] => table
  | key :: rest =>
    match (table.committed.get? key).bind change with
    | none => table.revise actor change rest
    | some row => (table.write actor key row).revise actor change rest

def rollback (table : LockedTable Actor Key Row) (actor : Actor) : LockedTable Actor Key Row :=
  { table with written := table.written.filter (fun _ held => held.1 ≠ actor) }

def publish (actor : Actor) (rows : Dict Key Row) : List (Key × Actor × Row) → Dict Key Row
  | [] => rows
  | (key, writer, row) :: rest =>
    publish actor (if writer = actor then rows.set key row else rows) rest

def commit (table : LockedTable Actor Key Row) (actor : Actor) : LockedTable Actor Key Row where
  committed := publish actor table.committed table.written.entries
  written := table.written.filter fun _ held => held.1 ≠ actor

variable {table : LockedTable Actor Key Row} {actor other : Actor} {key : Key} {row : Row}

omit [DecidableEq Actor] in
theorem mem_select {condition : Row → Bool} : key ∈ table.select condition ↔
  ∃ row, table.committed.get? key = some row ∧ condition row := by
  simp only [select, List.mem_map, mem_filter, Prod.exists, get?_eq_some]
  constructor
  · rintro ⟨_, row, ⟨present, holds⟩, rfl⟩
    exact ⟨row, present, holds⟩
  rintro ⟨row, present, holds⟩
  exact ⟨key, row, ⟨present, holds⟩, rfl⟩

omit [DecidableEq Actor] in
theorem revise_committed (change : Row → Option Row) (keys : List Key) :
  (table.revise actor change keys).committed = table.committed := by
  induction keys generalizing table with
  | nil => rfl
  | cons first rest ih =>
    rw [revise]
    split
    · exact ih
    exact ih

omit [DecidableEq Actor] in
theorem get?_revise (change : Row → Option Row) (keys : List Key) :
    (table.revise actor change keys).written.get? key =
      match if key ∈ keys then (table.committed.get? key).bind change else none with
      | none => table.written.get? key
      | some row => some (actor, row) := by
  induction keys generalizing table with
  | nil => rfl
  | cons first rest ih =>
    rw [revise]
    cases changed : (table.committed.get? first).bind change with
    | none =>
      simp only [ih]
      by_cases same : key = first
      · subst key
        simp [changed]
      simp [same]
    | some next =>
      simp only [ih, write]
      by_cases same : key = first
      · subst key
        by_cases again : first ∈ rest
        · simp [changed, again]
        simp [changed, again]
      simp [same, get?_set_other _ _ same]

variable {change : Row → Option Row} {keys : List Key}

omit [DecidableEq Actor] in
theorem get?_revise_cases {writer : Actor}
  (found : (table.revise actor change keys).written.get? key = some (writer, row)) :
  table.written.get? key = some (writer, row) ∨
    writer = actor ∧ key ∈ keys ∧ ∃ old, table.committed.get? key = some old ∧
    change old = some row := by
  rw [get?_revise] at found
  split at found
  · exact .inl found
  rename_i next changed
  cases found
  split at changed
  · rename_i member
    obtain ⟨old, stored, revised⟩ := bind_eq_some_iff.mp changed
    exact .inr ⟨rfl, member, old, stored, revised⟩
  cases changed

omit [DecidableEq Actor] in
theorem get?_revise_changed {old : Row}
  (member : key ∈ keys) (stored : table.committed.get? key = some old)
  (changed : change old = some row) :
  (table.revise actor change keys).written.get? key = some (actor, row) := by
  rw [get?_revise, if_pos member, stored, bind_some, changed]

omit [DecidableEq Actor] in
theorem get?_revise_other
  (unlocked : ∀ key ∈ keys, ¬ table.Locked actor key) (distinct : other ≠ actor)
  (found : table.written.get? key = some (other, row)) :
  (table.revise actor change keys).written.get? key = some (other, row) := by
  rw [get?_revise]
  split
  · exact found
  rename_i next changed
  split at changed
  · rename_i member
    exact absurd ⟨(other, row), found, distinct⟩ (unlocked key member)
  cases changed

theorem get?_released : (table.rollback actor).written.get? key = some (other, row) ↔
  table.written.get? key = some (other, row) ∧ other ≠ actor := by
  simp [rollback, get?_filter]

theorem commit_written : (table.commit actor).written = (table.rollback actor).written := rfl

variable {entries : List (Key × Actor × Row)} {rows : Dict Key Row}

theorem publish_of_absent (absent : ∀ row, (key, actor, row) ∉ entries) :
  (publish actor rows entries).get? key = rows.get? key := by
  induction entries generalizing rows with
  | nil => rfl
  | cons entry rest ih =>
    obtain ⟨first, writer, next⟩ := entry
    rw [publish, ih fun row member => absent row (mem_cons_of_mem _ member)]
    split
    · rename_i own
      subst writer
      refine get?_set_other _ _ fun same => ?_
      subst first
      exact absent next mem_cons_self
    rfl

theorem publish_of_mem
  (distinct : (entries.map Prod.fst).Nodup) (member : (key, actor, row) ∈ entries) :
  (publish actor rows entries).get? key = some row := by
  induction entries generalizing rows with
  | nil => cases member
  | cons entry rest ih =>
    obtain ⟨absent, tail⟩ := nodup_cons.mp distinct
    rcases mem_cons.mp member with rfl | later
    · rw [publish, if_pos rfl, publish_of_absent, get?_set_self]
      exact fun next present => absent (mem_map.mpr ⟨_, present, rfl⟩)
    exact ih tail later

theorem get?_commit_own (own : table.written.get? key = some (actor, row)) :
  (table.commit actor).committed.get? key = some row :=
  publish_of_mem table.written.distinct (get?_eq_some.mp own)

theorem get?_commit_other (absent : ∀ row, table.written.get? key ≠ some (actor, row)) :
  (table.commit actor).committed.get? key = table.committed.get? key :=
  publish_of_absent fun row member => absent row (get?_eq_some.mpr member)

theorem get?_commit_cases (found : (table.commit actor).committed.get? key = some row) :
  table.written.get? key = some (actor, row) ∨
    (∀ next, table.written.get? key ≠ some (actor, next)) ∧
    table.committed.get? key = some row := by
  by_cases own : ∃ next, table.written.get? key = some (actor, next)
  · obtain ⟨next, written⟩ := own
    rw [get?_commit_own written] at found
    cases found
    exact .inl written
  have absent : ∀ next, table.written.get? key ≠ some (actor, next) :=
    fun next written => own ⟨next, written⟩
  rw [get?_commit_other absent] at found
  exact .inr ⟨absent, found⟩

end LockedTable

end Collections
