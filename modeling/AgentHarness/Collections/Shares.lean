import Mathlib.Algebra.GroupWithZero.Nat
import Mathlib.Data.List.Nodup

/-!
Shares of a range: the items of a list take, one after another, as many of the numbers from zero
as their weight says.
-/

namespace Collections

open List

variable {Item : Type} (weight : Item → Nat)

def totalWeight (items : List Item) : Nat := (items.map weight).sum

def shareOf : List Item → Nat → Option Item
  | [], _ => none
  | item :: rest, number =>
    if number < weight item then some item else shareOf rest (number - weight item)

variable {weight}

@[simp] theorem totalWeight_cons (item : Item) (rest : List Item) :
  totalWeight weight (item :: rest) = weight item + totalWeight weight rest := rfl

variable {items : List Item} {number : Nat}

theorem shareOf_mem {item : Item}
  (shared : shareOf weight items number = some item) : item ∈ items := by
  induction items generalizing number with
  | nil => cases shared
  | cons first rest ih =>
    rw [shareOf] at shared
    split at shared
    · cases shared
      exact mem_cons_self
    exact mem_cons_of_mem first (ih shared)

theorem shareOf_of_lt (below : number < totalWeight weight items) :
  ∃ item, shareOf weight items number = some item := by
  induction items generalizing number with
  | nil => exact absurd below (Nat.not_lt_zero number)
  | cons first rest ih =>
    by_cases own : number < weight first
    · exact ⟨first, if_pos own⟩
    rw [totalWeight_cons] at below
    have within : number - weight first < totalWeight weight rest := by omega
    obtain ⟨item, shared⟩ := ih within
    exact ⟨item, (if_neg own).trans shared⟩

section

variable [DecidableEq Item]

variable {items : List Item} {item : Item}

end

end Collections
