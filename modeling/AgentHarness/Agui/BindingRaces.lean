import AgentHarness.Agui.Bindings

/-!
Operations on thread bindings, over every interleaving.

In memory each of them is one step.  In Postgres each takes effect with its commit, or with the
read that ends it; the commit does what the operation would have done alone there as long as it
finds the row that was read.
-/

namespace AgentHarness.Agui

open Collections Interaction Program

namespace BindingTable

theorem flushed_self (read written : BindingRow) : flushed read read written = written := by
  obtain ⟨sessionId, payload⟩ := written
  unfold flushed
  congr 1
  · by_cases same : sessionId = read.sessionId
    · exact (if_pos same).trans same.symm
    exact if_neg same
  by_cases same : payload = read.payload
  · exact (if_pos same).trans same.symm
  exact if_neg same

theorem Indexed.set {table : BindingTable} (indexed : table.Indexed) (thread : BindingKey)
  {row : BindingRow} (agrees : row.sessionId = row.payload.sessionId) :
  Indexed (Dict.set table thread row) :=
  Dict.forall_set agrees indexed

theorem Indexed.commit {table : BindingTable} (indexed : table.Indexed) {thread : BindingKey}
  {read written : BindingRow} (found : table.get? thread = some read)
  (agrees : written.sessionId = written.payload.sessionId) :
  Indexed (table.answer (.commit thread read written)).2 := by
  dsimp only [answer]
  split
  · exact indexed
  rw [found]
  dsimp only
  split
  · exact indexed
  rw [flushed_self]
  exact indexed.set thread agrees

end BindingTable

namespace PostgresBindings

open BindingTable

variable {thread : BindingKey} {edited : BindingRow → Option BindingRow}
  {reports : BindingError → BindingError} {actor : Nat} {table : BindingTable}

def committed (reports : BindingError → BindingError) (written : BindingRow) :
    Except BindingError Unit → Except BindingError AguiThreadBinding
  | .ok _ => .ok written.payload
  | .error error => .error (reports error)

theorem reads (row : Option BindingRow) (found : table.get? thread = row) :
  component.respond actor () table (.get thread) = (.ok row, table) := by
  rw [← found]
  rfl

theorem alone_missing (edited : BindingRow → Option BindingRow)
  (reports : BindingError → BindingError) (actor : Nat) (missing : table.get? thread = none) :
  (edit thread edited reports).alone component actor () table =
    (.error (threadNotFound thread), table) := by
  rw [edit, alone, reads none missing]
  rfl

theorem alone_found (edited : BindingRow → Option BindingRow)
  (reports : BindingError → BindingError) (actor : Nat) {row : BindingRow} (found : table.get? thread = some row) :
  (edit thread edited reports).alone component actor () table =
    (write thread row reports (edited row)).alone component actor () table := by
  rw [edit, alone, reads (some row) found]

theorem alone_write (row written : BindingRow) :
  (write thread row reports (some written)).alone component actor () table =
    (committed reports written (table.answer (.commit thread row written)).1,
    (table.answer (.commit thread row written)).2) := by
  have commits : component.respond actor () table (.commit thread row written) =
    table.answer (.commit thread row written) := rfl
  rw [write, alone, commits]
  cases (table.answer (.commit thread row written)).1 with
  | ok _ | error error => rfl

theorem edit_takesEffectLast :
  (edit thread edited reports).TakesEffectLast component Unwritten actor
    (edit thread edited reports) := by
  intro table _
  cases found : table.get? thread with
  | none =>
    have alone := alone_missing edited reports actor found
    rw [reads none found]
    exact ⟨alone, trivial⟩
  | some row =>
    have alone := alone_found edited reports actor found
    rw [reads (some row) found]
    dsimp only
    cases writes : edited row with
    | none =>
      rw [writes] at alone
      exact ⟨alone, trivial⟩
    | some written =>
      refine ⟨rfl, ?_⟩
      intro later unwritten
      have last := alone_found edited reports actor unwritten
      rw [writes, alone_write] at last
      have commits : component.respond actor () later (.commit thread row written) =
        later.answer (.commit thread row written) := rfl
      rw [commits]
      cases answered : (later.answer (.commit thread row written)).1 with
      | ok _ | error error =>
        rw [answered] at last
        exact ⟨last, trivial⟩

theorem add_takesEffectLast (binding : AguiThreadBinding) :
  (add binding).TakesEffectLast component Unwritten actor (add binding) := by
  intro table _
  dsimp only [component]
  cases answered :
    (table.answer (.insert binding.threadKey ⟨binding.sessionId, binding⟩)).1 with
  | ok _ | error error =>
    refine ⟨?_, trivial⟩
    simp [outcome?, add, alone, answered]

variable (request : BindingRequest)

theorem serve_takesEffectLast :
  (serve request).TakesEffectLast component Unwritten actor (serve request) := by
  cases request with
  | add binding => exact add_takesEffectLast binding
  | updateTitle thread title source generatedAt | setArchived thread archivedAt
  | rebindSession thread sessionId updatedAt => exact edit_takesEffectLast

theorem serve_unstarted : (serve request).outcome? = none := by
  cases request <;> rfl

theorem edit_indexed (indexed : table.Indexed) (agrees : ∀ row written, edited row = some written →
    row.sessionId = row.payload.sessionId → written.sessionId = written.payload.sessionId) :
  Indexed ((edit thread edited reports).alone component actor () table).2 := by
  cases found : table.get? thread with
  | none =>
    rw [alone_missing edited reports actor found]
    exact indexed
  | some row =>
    rw [alone_found edited reports actor found]
    cases writes : edited row with
    | none => exact indexed
    | some written =>
      rw [alone_write]
      exact indexed.commit found (agrees row written writes (indexed thread row found))

theorem serve_indexed (indexed : table.Indexed) :
  Indexed ((serve request).alone component actor () table).2 := by
  cases request with
  | add binding =>
    have inserted :
      ((serve (.add binding)).alone component actor () table).2 =
        (table.answer (.insert binding.threadKey ⟨binding.sessionId, binding⟩)).2 := by
      simp only [serve, add, alone, component]
      cases (table.answer (.insert binding.threadKey ⟨binding.sessionId, binding⟩)).1 <;> rfl
    rw [inserted]
    dsimp only [answer]
    split
    · exact indexed
    exact indexed.set binding.threadKey rfl
  | updateTitle thread title source generatedAt =>
    apply edit_indexed indexed
    intro row written writes agrees
    unfold titled at writes
    split at writes
    · cases writes
    cases writes
    exact agrees
  | setArchived thread archivedAt =>
    apply edit_indexed indexed
    intro row written writes agrees
    cases writes
    exact agrees
  | rebindSession thread sessionId updatedAt =>
    apply edit_indexed indexed
    intro row written writes _
    cases writes
    rfl

end PostgresBindings

theorem InMemoryBindings.run_inTurn (requests : Nat → BindingRequest)
  (schedule : List (Nat × Unit)) :
  InTurn InMemoryBindings.component (fun actor => InMemoryBindings.serve (requests actor))
    InMemoryBindings.empty
    ((InMemoryBindings.pool requests).run InMemoryBindings.component schedule) := by
  have always : ∀ (state : InMemoryBindings) (actor : Nat) (op : BindingRequest) (input : Unit),
    (fun _ _ _ _ => True : InMemoryBindings → Nat → BindingRequest → Unit → Prop)
      state actor op input := fun _ _ _ _ => trivial
  apply Pool.run_inTurn (fun actor => takesEffectLast_perform _ _) (fun _ => rfl) schedule
  exact Pool.along_of_forall always _ schedule

/-- While every commit finds the row its operation has read, the bindings are what the operations
that have ended would have made of them one after the other, and the columns agree. -/
theorem bindings_in_turn (requests : Nat → BindingRequest) (schedule : List (Nat × Unit))
  (unwritten : (bindingPool requests).Along BindingTable.component BindingTable.Unwritten
    schedule) :
  InTurn BindingTable.component (fun actor => PostgresBindings.serve (requests actor))
    Dict.empty ((bindingPool requests).run BindingTable.component schedule) ∧
    ((bindingPool requests).run BindingTable.component schedule).state.Indexed := by
  have inTurn := Pool.run_inTurn
    (fun actor => PostgresBindings.serve_takesEffectLast (requests actor))
    (fun actor => PostgresBindings.serve_unstarted (requests actor)) schedule unwritten
  refine ⟨inTurn, inTurn.invariant ?_ ?_⟩
  · intro thread row found
    cases found
  intro actor table indexed
  exact PostgresBindings.serve_indexed (requests actor) indexed

def titleAndRebind : Nat → BindingRequest
  | 0 => .add
      { tenantId := "t", userId := "u", threadId := "c", sessionId := "s1"
        previousSessionIds := [], title := none, titleSource := none, titleUpdatedAt := none
        archivedAt := none, createdAt := 0, updatedAt := 0 }
  | 1 => .updateTitle ("t", "u", "c") "Report" .model 1
  | _ => .rebindSession ("t", "u", "c") "s2" 2

theorem bindings_in_turn_titleAndRebind : ((bindingPool titleAndRebind).run BindingTable.component
  [(0, ()), (1, ()), (1, ()), (2, ()), (2, ())]).state.Indexed :=
  (bindings_in_turn titleAndRebind [(0, ()), (1, ()), (1, ()), (2, ()), (2, ())]
    (by decide +kernel)).2

/-- The title is written over the second session, which stays in the column alone. -/
theorem bindings_out_of_turn : ¬ ∀ (requests : Nat → BindingRequest) (schedule : List (Nat × Unit)),
  InTurn BindingTable.component (fun actor => PostgresBindings.serve (requests actor))
  Dict.empty ((bindingPool requests).run BindingTable.component schedule) ∧
  ((bindingPool requests).run BindingTable.component schedule).state.Indexed := by
  intro claimed
  have agrees := (claimed titleAndRebind [(0, ()), (1, ()), (2, ()), (2, ()), (1, ())]).2
  have stored :
    (((bindingPool titleAndRebind).run BindingTable.component
      [(0, ()), (1, ()), (2, ()), (2, ()), (1, ())]).state.get? ("t", "u", "c")).map
        (fun row => (row.sessionId, row.payload.sessionId)) = some ("s2", "s1") := by
    decide +kernel
  obtain ⟨row, found, sessions⟩ := Option.map_eq_some_iff.mp stored
  have same := agrees ("t", "u", "c") row found
  have first : row.sessionId = "s2" := congrArg Prod.fst sessions
  have second : row.payload.sessionId = "s1" := congrArg Prod.snd sessions
  rw [first, second] at same
  exact absurd same (by decide)

end AgentHarness.Agui
