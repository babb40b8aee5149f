import Mathlib.Data.List.Basic

/-!
Reading an ascending list from a position on.
-/

namespace Collections

open List

variable {Item : Type} {position : Item → Nat} {items read rest : List Item}

def cursor (position : Item → Nat) (start : Nat) (read : List Item) : Nat :=
  (read.getLast?.map position).getD start

theorem cursor_cons (start : Nat) (first : Item) (read : List Item) :
  cursor position start (first :: read) = cursor position (position first) read := by
  unfold cursor
  rw [getLast?_cons]
  cases read.getLast? with
  | none | some last => rfl

theorem filter_cursor {start : Nat}
  (ascending : items.Pairwise fun first second => position first < position second)
  (split : items.filter (fun item => start < position item) = read ++ rest) :
  items.filter (fun item => cursor position start read < position item) = rest := by
  cases last : read.getLast? with
  | none =>
    rw [getLast?_eq_none_iff.mp last] at split ⊢
    exact split
  | some item =>
    have reaches : cursor position start read = position item := by
      unfold cursor
      rw [last]
      rfl
    have sorted : (read ++ rest).Pairwise fun first second => position first < position second :=
      split ▸ ascending.filter _
    obtain ⟨before, here⟩ := getLast?_eq_some_iff.mp last
    have later : start < position item := by
      have member : item ∈ items.filter fun item => start < position item := by
        rw [split, here]
        simp
      simpa using (mem_filter.mp member).2
    have narrowed : items.filter (fun other => position item < position other) =
      (read ++ rest).filter fun other => position item < position other := by
      rw [← split, filter_filter]
      apply filter_congr
      intro other _
      rw [Bool.eq_iff_iff]
      simp only [Bool.and_eq_true, decide_eq_true_eq]
      omega
    rw [reaches, narrowed, filter_append]
    obtain ⟨ordered, _, across⟩ := pairwise_append.mp sorted
    rw [here] at ordered across ⊢
    have nothing : (before ++ [item]).filter
      (fun other => position item < position other) = [] := by
      apply filter_eq_nil_iff.mpr
      intro other member
      simp only [decide_eq_true_eq]
      rcases mem_append.mp member with earlier | same
      · have less := (pairwise_append.mp ordered).2.2 other earlier item (by simp)
        omega
      rw [mem_singleton.mp same]
      omega
    have everything : rest.filter (fun other => position item < position other) = rest :=
      filter_eq_self.mpr fun other member => by
        simpa using across item (by simp) other member
    rw [nothing, everything, nil_append]

theorem filter_before {item : Item} (ascending : (read ++ item :: rest).Pairwise fun first second =>
    position first < position second) :
  (read ++ item :: rest).filter (fun other => position other < position item) = read := by
  obtain ⟨_, behind, across⟩ := pairwise_append.mp ascending
  have nothing : (item :: rest).filter (fun other => position other < position item) = [] := by
    apply filter_eq_nil_iff.mpr
    intro other member
    simp only [decide_eq_true_eq]
    rcases mem_cons.mp member with same | later
    · rw [same]
      omega
    have less := rel_of_pairwise_cons behind later
    omega
  have everything : read.filter (fun other => position other < position item) = read :=
    filter_eq_self.mpr fun other member => by simpa using across other member item (by simp)
  rw [filter_append, nothing, everything, append_nil]

end Collections
