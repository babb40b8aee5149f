import AgentHarness.Text.Substrings
import Mathlib.Data.List.Sort
import Mathlib.Data.Prod.Lex
import Mathlib.Data.String.Basic

/-!
The Runs of a thread that its history replays.
-/

namespace AgentHarness.Agui

open Text List Option

/-- `prompt` is `none` when the input has no such text, `conversationPrompts` when it has
no such list; an item that is no text is `none`. -/
structure ThreadRun where
  runId : String
  createdAt : Nat
  prompt : Option String
  conversationPrompts : Option (List (Option String))

namespace ThreadRun

/-- `(created_at, run_id)` of the one is at most that of the other. -/
def NotAfter (left right : ThreadRun) : Prop :=
  left.createdAt < right.createdAt ∨ left.createdAt = right.createdAt ∧ left.runId ≤ right.runId

instance : DecidableRel NotAfter := fun _ _ => inferInstanceAs (Decidable (_ ∨ _))

theorem notAfter_iff {left right : ThreadRun} : NotAfter left right ↔
  toLex (left.createdAt, left.runId) ≤ toLex (right.createdAt, right.runId) := by
  rw [Prod.Lex.toLex_le_toLex]
  rfl

instance : Std.Total NotAfter where
  total _ _ := by
    simp only [notAfter_iff]
    exact le_total _ _

instance : IsTrans ThreadRun NotAfter where
  trans _ _ _ first second := notAfter_iff.mpr
    ((notAfter_iff.mp first).trans (notAfter_iff.mp second))

def conversation (run : ThreadRun) : Option (List String) :=
  match (run.conversationPrompts.getD []).mapM id with
  | some items => if items ≠ [] ∧ run.prompt = items.getLast? then some items else none
  | none => none

end ThreadRun

def inOrder (runs : List ThreadRun) : List ThreadRun := runs.insertionSort ThreadRun.NotAfter

def isTurn (prompt : String) : Bool := stripSpace prompt ≠ ""

/-- The first Run behind the cursor for each prompt; `none` when one has no such Run. -/
def selectTurns : List String → List ThreadRun → Option (List ThreadRun)
  | [], _ => some []
  | _ :: _, [] => none
  | prompt :: prompts, run :: runs =>
    if run.prompt = some prompt then (selectTurns prompts runs).map (run :: ·)
    else selectTurns (prompt :: prompts) runs

def visibleThreadRuns (runs : List ThreadRun) : List ThreadRun :=
  let ordered := inOrder runs
  match ordered.getLast? with
  | none => []
  | some latest =>
    match latest.conversation with
    | none => ordered
    | some stored =>
      match selectTurns (stored.filter isTurn).dropLast ordered.dropLast with
      | none => ordered
      | some selected => selected ++ [latest]

variable {prompts : List String}

theorem selectTurns_some {runs selected : List ThreadRun}
  (found : selectTurns prompts runs = some selected) :
  selected.Sublist runs ∧ selected.map ThreadRun.prompt = prompts.map some := by
  fun_induction selectTurns prompts runs generalizing selected with
  | case1 => simp_all
  | case2 => cases found
  | case3 prompt prompts run runs same ih =>
    obtain ⟨rest, step, rfl⟩ := map_eq_some_iff.mp found
    have ⟨within, turns⟩ := ih step
    exact ⟨within.cons_cons run, by rw [map_cons, map_cons, same, turns]⟩
  | case4 prompt prompts run runs other ih =>
    have ⟨within, turns⟩ := ih found
    exact ⟨within.cons run, turns⟩

theorem selectTurns_none {runs : List ThreadRun} (missing : selectTurns prompts runs = none) :
  ¬ (prompts.map some).Sublist (runs.map ThreadRun.prompt) := by
  fun_induction selectTurns prompts runs with
  | case1 => cases missing
  | case2 => simp
  | case3 prompt prompts run runs same ih =>
    rw [map_cons, map_cons, same, cons_sublist_cons]
    exact ih (map_eq_none_iff.mp missing)
  | case4 prompt prompts run runs other ih =>
    intro within
    rw [map_cons, map_cons, sublist_cons_iff] at within
    rcases within with within | ⟨_, same, _⟩
    · exact ih missing within
    exact other (List.cons.inj same).1.symm

variable {stored : List String}

theorem conversation_some {run : ThreadRun}
  (kept : run.conversation = some stored) : stored ≠ [] ∧ run.prompt = stored.getLast? := by
  unfold ThreadRun.conversation at kept
  split at kept
  · split at kept
    · next fits => cases kept; exact fits
    cases kept
  cases kept

theorem turns_dropLast {prompt : String}
  (last : stored.getLast? = some prompt) (turn : isTurn prompt = true) :
  (stored.filter isTurn).dropLast = stored.dropLast.filter isTurn := by
  obtain ⟨earlier, rfl⟩ := getLast?_eq_some_iff.mp last
  simp [turn]

theorem visibleThreadRuns_turns (runs : List ThreadRun) :
  (inOrder runs).Perm runs ∧ (inOrder runs).Pairwise ThreadRun.NotAfter ∧
    (visibleThreadRuns runs).Sublist (inOrder runs) ∧
    (visibleThreadRuns runs).getLast? = (inOrder runs).getLast? ∧
    ∀ latest, (inOrder runs).getLast? = some latest →
      (latest.conversation = none → visibleThreadRuns runs = inOrder runs) ∧
      ∀ stored, latest.conversation = some stored → latest.prompt.all isTurn = true →
        let turns := (stored.dropLast.filter isTurn).map some
        (turns.Sublist ((inOrder runs).dropLast.map ThreadRun.prompt) →
          (visibleThreadRuns runs).map ThreadRun.prompt = turns ++ [latest.prompt]) ∧
        (¬ turns.Sublist ((inOrder runs).dropLast.map ThreadRun.prompt) →
          visibleThreadRuns runs = inOrder runs) := by
  refine ⟨perm_insertionSort _ _, pairwise_insertionSort _ _, ?_⟩
  cases last : (inOrder runs).getLast? with
  | none =>
    have : visibleThreadRuns runs = [] := by simp only [visibleThreadRuns, last]
    simp [this]
  | some latest =>
    have split : (inOrder runs).dropLast ++ [latest] = inOrder runs :=
      dropLast_append_getLast? latest last
    cases kept : latest.conversation with
    | none =>
      have all : visibleThreadRuns runs = inOrder runs := by
        simp [visibleThreadRuns, last, kept]
      rw [all]
      exact ⟨List.Sublist.refl _, last, fun _ same => ⟨fun _ => rfl, by simp_all⟩⟩
    | some stored =>
      have ⟨nonempty, own⟩ := conversation_some kept
      have turns (turn : latest.prompt.all isTurn = true) :
        (stored.filter isTurn).dropLast = stored.dropLast.filter isTurn := by
        cases prompt : latest.prompt with
        | none => exact absurd (getLast?_eq_none_iff.mp (own.symm.trans prompt)) nonempty
        | some text => exact turns_dropLast (own.symm.trans prompt) (by simpa [prompt] using turn)
      cases found : selectTurns (stored.filter isTurn).dropLast (inOrder runs).dropLast with
      | none =>
        have all : visibleThreadRuns runs = inOrder runs := by
          simp [visibleThreadRuns, last, kept, found]
        rw [all]
        refine ⟨List.Sublist.refl _, last, fun other same => ⟨fun _ => rfl, ?_⟩⟩
        intro texts stores turn
        cases same
        cases stores.symm.trans kept
        exact ⟨fun within => absurd (turns turn ▸ within) (selectTurns_none found), fun _ => rfl⟩
      | some selected =>
        have chosen : visibleThreadRuns runs = selected ++ [latest] := by
          simp [visibleThreadRuns, last, kept, found]
        have ⟨within, matched⟩ := selectTurns_some found
        rw [chosen]
        refine ⟨split ▸ within.append (List.Sublist.refl _), by simp, fun other same => ?_⟩
        cases same
        refine ⟨fun missing => (nomatch missing.symm.trans kept), fun texts stores turn => ?_⟩
        cases stores.symm.trans kept
        have matched := (turns turn) ▸ matched
        refine ⟨fun _ => by rw [map_append, matched]; rfl, fun missing => ?_⟩
        exact absurd (matched ▸ within.map ThreadRun.prompt) missing

def retriedThread : List ThreadRun := [⟨"run-1", 1, some "a", none⟩, ⟨"run-2", 2, some "a", none⟩,
    ⟨"run-3", 3, some "b", some [some "x", some "a", some "b"]⟩]

theorem visibleThreadRuns_repeats :
  ((visibleThreadRuns retriedThread).filter (·.prompt = some "a")).length = 2 ∧
    (visibleThreadRuns retriedThread).filter (·.prompt = some "x") = [] := by
  decide +kernel

end AgentHarness.Agui
