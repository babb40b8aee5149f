import AgentHarness.Triggers.TaskStream
import Mathlib.Data.Prod.Lex
import Mathlib.Data.String.Basic

/-!
Listing the tasks of an A2A trigger page by page.

Instants are microseconds. A page token is the text of a cursor, in JSON and base64, and reads
back as that cursor: the time of the last task of the page to the millisecond, and its id.
-/

namespace AgentHarness.Triggers

open List Option

structure TaskRun where
  (runId triggerId sessionId : String)
  status : RunStatus
  updatedAt : Int

structure TenantRuns where
  runs : List TaskRun
  distinct : (runs.map TaskRun.runId).Nodup

structure TaskFilter where
  contextId : Option String := none
  state : Option String := none
  after : Option Int := none

structure PageSize where
  value : Nat
  positive : 1 ≤ value
  bounded : value ≤ 100

structure TaskCursor where
  updatedAt : Int
  runId : String

def TaskKey : Type := Int ×ₗ String

instance : LinearOrder TaskKey :=
  @Prod.Lex.instLinearOrder Int String Int.instLinearOrder String.instLinearOrder

def TaskRun.key (run : TaskRun) : TaskKey := toLex (run.updatedAt, run.runId)

def TaskCursor.key (cursor : TaskCursor) : TaskKey := toLex (cursor.updatedAt, cursor.runId)

/-- `_cursor`, with the `_timestamp` of a task. -/
def TaskRun.cursor (run : TaskRun) : TaskCursor where
  updatedAt := run.updatedAt / 1000 * 1000
  runId := run.runId

def TaskFilter.admits (filter : TaskFilter) (run : TaskRun) : Bool :=
  filter.contextId.all (run.sessionId = ·) && filter.state.all (taskState run.status = ·) &&
    filter.after.all (· ≤ run.updatedAt)

namespace TenantRuns

variable (tenant : TenantRuns)

/-- The runs of a tenant in the order of `list_for_tenant`. -/
def sorted : List TaskRun :=
  tenant.runs.mergeSort fun first second => decide (second.key ≤ first.key)

def limit : Nat := 100000

def admits (triggerId : String) (filter : TaskFilter) (run : TaskRun) : Bool :=
  decide (run.triggerId = triggerId) && filter.admits run

/-- The runs that `list_tasks` pages over. -/
def filtered (triggerId : String) (filter : TaskFilter) : List TaskRun :=
  (tenant.sorted.take limit).filter (admits triggerId filter)

def matching (triggerId : String) (filter : TaskFilter) : List TaskRun :=
  tenant.sorted.filter (admits triggerId filter)

end TenantRuns

variable (listed : List TaskRun)

def remainingAt : Option TaskCursor → List TaskRun
  | none => listed
  | some cursor => listed.filter fun run => run.key < cursor.key

def listPage (pageSize : Nat) (pageToken : Option TaskCursor) : List TaskRun × Option TaskCursor :=
  let remaining := remainingAt listed pageToken
  let page := remaining.take pageSize
  (page, if remaining.length > pageSize then page.getLast?.map TaskRun.cursor else none)

def followPages (listed : List TaskRun) (pageSize : Nat) :
    Nat → Option TaskCursor → Option (List TaskRun)
  | 0, _ => none
  | fuel + 1, pageToken =>
    match listPage listed pageSize pageToken with
    | (page, none) => some page
    | (page, some next) => (followPages listed pageSize fuel (some next)).map (page ++ ·)

variable (tenant : TenantRuns)

def listTasks (triggerId : String) (filter : TaskFilter) (pageSize : PageSize) (fuel : Nat) :
  Option (List TaskRun) :=
  followPages (tenant.filtered triggerId filter) pageSize.value fuel none

def Aligned (pageSize : Nat) (listed : List TaskRun) : Prop :=
  ∀ page last next, listed[page * pageSize + (pageSize - 1)]? = some last →
    listed[page * pageSize + pageSize]? = some next → next.key < last.cursor.key

theorem cursor_key_le (run : TaskRun) : run.cursor.key ≤ run.key := by
  refine Prod.Lex.toLex_le_toLex.mpr ?_
  rcases lt_or_eq_of_le (Int.ediv_mul_le run.updatedAt (by decide : (1000 : Int) ≠ 0)) with
    lower | same
  · exact .inl lower
  exact .inr ⟨same, le_refl _⟩

theorem filter_below {listed : List TaskRun} (bound : TaskKey)
  (descending : listed.Pairwise fun first second => second.key < first.key) :
  ∃ skipped, listed = skipped ++ listed.filter (fun run => run.key < bound) ∧
    (skipped = [] ↔ ∀ first ∈ listed.head?, first.key < bound) := by
  induction listed with
  | nil => exact ⟨[], rfl, by simp⟩
  | cons first rest ih =>
    obtain ⟨below, descending⟩ := pairwise_cons.mp descending
    by_cases under : first.key < bound
    · refine ⟨[], ?_, by simp [under]⟩
      have all : ∀ run ∈ first :: rest, decide (run.key < bound) = true := by
        intro run member
        rcases mem_cons.mp member with rfl | later
        · exact decide_eq_true under
        exact decide_eq_true ((below run later).trans under)
      rw [nil_append, filter_eq_self.mpr all]
    obtain ⟨skipped, split, _⟩ := ih descending
    refine ⟨first :: skipped, ?_, by simp [under]⟩
    rw [filter_cons_of_neg (by simp [under]), cons_append, ← split]

theorem aligned_iff {pageSize : Nat} : Aligned pageSize listed ↔
  (∀ last next, listed[pageSize - 1]? = some last → listed[pageSize]? = some next →
  next.key < last.cursor.key) ∧
  Aligned pageSize (listed.drop pageSize) := by
  have shift : ∀ page index, (page + 1) * pageSize + index = pageSize + (page * pageSize + index) :=
    fun page index => by rw [Nat.succ_mul]; omega
  constructor
  · intro aligned
    constructor
    · intro last next atLast atNext
      exact aligned 0 last next (by simpa using atLast) (by simpa using atNext)
    intro page last next atLast atNext
    rw [getElem?_drop, ← shift] at atLast atNext
    exact aligned (page + 1) last next atLast atNext
  rintro ⟨first, later⟩ page last next atLast atNext
  cases page with
  | zero => exact first last next (by simpa using atLast) (by simpa using atNext)
  | succ page =>
    rw [shift, ← getElem?_drop] at atLast atNext
    exact later page last next atLast atNext

theorem followPages_visits {listed : List TaskRun} {pageSize : Nat} (positive : 1 ≤ pageSize)
  (descending : listed.Pairwise fun first second => second.key < first.key) (fuel : Nat) :
  ∀ (before rest : List TaskRun) (pageToken : Option TaskCursor), listed = before ++ rest →
    remainingAt listed pageToken = rest → rest.length < fuel →
    ∃ visited, (∀ enough, fuel ≤ enough →
    followPages listed pageSize enough pageToken = some visited) ∧
    visited.length ≤ rest.length ∧ (visited = rest ↔ Aligned pageSize rest) := by
  induction fuel with
  | zero => exact fun _ _ _ _ _ short => absurd short (Nat.not_lt_zero _)
  | succ fuel ih =>
    intro before rest pageToken split remains short
    by_cases fits : rest.length ≤ pageSize
    · refine ⟨rest, ?_, le_refl _, iff_of_true rfl ?_⟩
      · intro enough more
        obtain ⟨less, rfl⟩ := Nat.exists_eq_add_of_le' more
        rw [← Nat.add_assoc, followPages, listPage, remains]
        simp only [if_neg (not_lt.mpr fits), List.take_of_length_le fits]
      intro page last next _ atNext
      have inside := (List.getElem?_eq_some_iff.mp atNext).1
      have := Nat.le_add_left pageSize (page * pageSize)
      omega
    have long := not_le.mp fits
    obtain ⟨last, atLast⟩ : ∃ last, rest[pageSize - 1]? = some last :=
      ⟨_, List.getElem?_eq_getElem (by omega)⟩
    have ends : (rest.take pageSize).getLast? = some last := by
      rw [List.getLast?_eq_getElem?, List.length_take, min_eq_left (le_of_lt long),
        List.getElem?_take_of_lt (by omega), atLast]
    have pageEnd : last ∈ rest.take pageSize := List.mem_of_getLast? ends
    have halves : before ++ rest = (before ++ rest.take pageSize) ++ rest.drop pageSize := by
      rw [List.append_assoc, List.take_append_drop]
    rw [split, halves] at descending
    obtain ⟨descendsFirst, descendsLater, apart⟩ := List.pairwise_append.mp descending
    -- nothing up to the end of the page lies below its cursor
    have above : ∀ run ∈ before ++ rest.take pageSize,
      ¬ decide (run.key < last.cursor.key) = true := by
      intro run member
      have atLeast : last.key ≤ run.key := by
        have shape : before ++ rest.take pageSize =
          (before ++ (rest.take pageSize).dropLast) ++ [last] := by
          rw [List.append_assoc, List.dropLast_append_getLast? last ends]
        rw [shape] at member descendsFirst
        rcases List.mem_append.mp member with earlier | same
        · exact le_of_lt ((List.pairwise_append.mp descendsFirst).2.2 run earlier last
            (List.mem_singleton.mpr rfl))
        exact le_of_eq (congrArg TaskRun.key (List.mem_singleton.mp same).symm)
      rw [decide_eq_true_eq]
      exact not_lt.mpr ((cursor_key_le last).trans atLeast)
    have remainsLater : remainingAt listed (some last.cursor) =
      (rest.drop pageSize).filter (fun run => run.key < last.cursor.key) := by
      rw [remainingAt, split, halves, List.filter_append, List.filter_eq_nil_iff.mpr above,
        List.nil_append]
    obtain ⟨skipped, tail, none⟩ := filter_below last.cursor.key descendsLater
    have shorter := congrArg List.length tail
    rw [List.length_append, List.length_drop] at shorter
    obtain ⟨visited, follows, bound, complete⟩ := ih
      (before ++ rest.take pageSize ++ skipped) _ (some last.cursor)
      (by rw [List.append_assoc, ← tail, ← halves, split]) remainsLater (by omega)
    refine ⟨rest.take pageSize ++ visited, ?_, ?_, ?_⟩
    · intro enough more
      obtain ⟨less, rfl⟩ := Nat.exists_eq_add_of_le' more
      rw [← Nat.add_assoc, followPages, listPage, remains]
      simp [if_pos long, ends, follows (less + fuel) (Nat.le_add_left _ _)]
    · rw [List.length_append, List.length_take]
      omega
    have boundary : skipped = [] ↔
      ∀ last next, rest[pageSize - 1]? = some last → rest[pageSize]? = some next →
        next.key < last.cursor.key := by
      rw [none, List.head?_drop]
      constructor
      · intro below last' next atLast' atNext
        cases atLast.symm.trans atLast'
        exact below next atNext
      exact fun below next atNext => below last next atLast atNext
    rw [aligned_iff, ← boundary]
    constructor
    · intro same
      have visitedTail : visited = rest.drop pageSize :=
        List.append_cancel_left (same.trans (List.take_append_drop pageSize rest).symm)
      have noneSkipped : skipped = [] := by
        have lengths := congrArg List.length visitedTail
        rw [List.length_drop] at lengths
        exact List.eq_nil_of_length_eq_zero (by omega)
      rw [noneSkipped, List.nil_append] at tail
      rw [← tail] at complete
      exact ⟨noneSkipped, complete.mp visitedTail⟩
    rintro ⟨noneSkipped, aligned⟩
    rw [noneSkipped, List.nil_append] at tail
    rw [← tail] at complete
    rw [complete.mpr aligned, List.take_append_drop]

namespace TenantRuns

theorem sorted_descending (tenant : TenantRuns) :
  tenant.sorted.Pairwise (fun first second => second.key < first.key) := by
  have ordered : tenant.sorted.Pairwise (fun first second => second.key ≤ first.key) := by
    have sorted : tenant.sorted.Pairwise (fun first second =>
        decide (second.key ≤ first.key) = true) :=
      pairwise_mergeSort
        (fun _ _ _ above below => decide_eq_true
          ((of_decide_eq_true below).trans (of_decide_eq_true above)))
        (fun first second => by simpa using le_total second.key first.key) tenant.runs
    exact sorted.imp of_decide_eq_true
  have apart : tenant.sorted.Pairwise (fun first second => first.runId ≠ second.runId) :=
    pairwise_map.mp
      (((mergeSort_perm _ _).map TaskRun.runId).nodup_iff.mpr tenant.distinct)
  refine (ordered.and apart).imp ?_
  rintro first second ⟨below, apart⟩
  refine lt_of_le_of_ne below fun same => apart ?_
  exact (congrArg (fun key : TaskKey => (ofLex key).2) same).symm

end TenantRuns

def Visits (triggerId : String) (filter : TaskFilter) (pageSize : PageSize)
  (visited : List TaskRun) : Prop :=
  ∃ fuel, ∀ enough, fuel ≤ enough → listTasks tenant triggerId filter pageSize enough = some visited

theorem visits_iff (triggerId : String) (filter : TaskFilter) (pageSize : PageSize) :
  Visits tenant triggerId filter pageSize (tenant.matching triggerId filter) ↔
    (∀ run ∈ tenant.sorted.drop TenantRuns.limit,
    TenantRuns.admits triggerId filter run = false) ∧
    Aligned pageSize.value (tenant.filtered triggerId filter) := by
  have descending : (tenant.filtered triggerId filter).Pairwise
    (fun first second => second.key < first.key) :=
    (tenant.sorted_descending.sublist (take_sublist _ _)).filter _
  obtain ⟨visited, visits, bound, complete⟩ := followPages_visits pageSize.positive descending _
    [] (tenant.filtered triggerId filter) none rfl rfl (Nat.lt_succ_self _)
  have whole : tenant.matching triggerId filter = tenant.filtered triggerId filter ++
    (tenant.sorted.drop TenantRuns.limit).filter (TenantRuns.admits triggerId filter) := by
    rw [TenantRuns.matching, TenantRuns.filtered, ← filter_append, take_append_drop]
  have beyond : (∀ run ∈ tenant.sorted.drop TenantRuns.limit,
    TenantRuns.admits triggerId filter run = false) ↔
      (tenant.sorted.drop TenantRuns.limit).filter (TenantRuns.admits triggerId filter) = [] := by
    rw [filter_eq_nil_iff]
    simp
  rw [beyond]
  constructor
  · rintro ⟨fuel, enough⟩
    have same := (visits _ (le_max_right fuel _)).symm.trans (enough _ (le_max_left fuel _))
    rw [some.inj same, whole, length_append] at bound
    have none : (tenant.sorted.drop TenantRuns.limit).filter
      (TenantRuns.admits triggerId filter) = [] :=
      eq_nil_of_length_eq_zero (by omega)
    rw [none, append_nil] at whole
    exact ⟨none, complete.mp ((some.inj same).trans whole)⟩
  rintro ⟨none, aligned⟩
  rw [none, append_nil] at whole
  rw [whole, ← complete.mpr aligned]
  exact ⟨_, visits⟩

theorem pages_visit_all_iff (tenant : TenantRuns) (triggerId : String) (filter : TaskFilter)
  (pageSize : PageSize) :
  Visits tenant triggerId filter pageSize (tenant.matching triggerId filter) ↔
    (∀ run ∈ tenant.sorted.drop TenantRuns.limit,
    TenantRuns.admits triggerId filter run = false) ∧
    Aligned pageSize.value (tenant.filtered triggerId filter) :=
  visits_iff tenant triggerId filter pageSize

def taskAt (runId : String) (updatedAt : Int) : TaskRun where
  runId
  triggerId := "trigger"
  sessionId := "session"
  status := .succeeded
  updatedAt

def twoTasks : TenantRuns where
  runs := [taskAt "run_a" 1500, taskAt "run_b" 1400]
  distinct := by decide

theorem pages_miss_task : ¬ Visits twoTasks "trigger" {} ⟨1, by decide, by decide⟩
  (twoTasks.matching "trigger" {}) := by
  intro visits
  obtain ⟨_, aligned⟩ := (visits_iff _ _ _ _).mp visits
  have listed : twoTasks.filtered "trigger" {} = twoTasks.runs := by
    rw [TenantRuns.filtered, TenantRuns.sorted, mergeSort_of_pairwise (by decide)]
    rfl
  rw [listed] at aligned
  exact absurd (aligned 0 (taskAt "run_a" 1500) (taskAt "run_b" 1400) rfl rfl) (by decide)

end AgentHarness.Triggers
