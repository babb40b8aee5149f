import Mathlib.Data.List.Basic

/-!
Steps that may fail, taken for every item of a list.
-/

namespace Collections

open List

theorem map_of_mapM_ok {Error Item Value : Type} {step : Item → Except Error Value}
  {items : List Item} {values : List Value} (done : items.mapM step = .ok values) :
  items.map step = values.map .ok := by
  induction items generalizing values with
  | nil =>
    cases done
    rfl
  | cons item items ih =>
    rw [mapM_cons] at done
    cases first : step item with
    | error error =>
      rw [first] at done
      cases done
    | ok value =>
      cases rest : items.mapM step with
      | error error =>
        rw [first, rest] at done
        cases done
      | ok others =>
        rw [first, rest] at done
        cases done
        rw [map_cons, map_cons, first, ih rest]

end Collections
