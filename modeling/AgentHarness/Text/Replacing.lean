import AgentHarness.Text.Substrings
import Mathlib.Algebra.GroupWithZero.Nat

/-!
`str.count` and `str.replace`, and reading a file in text mode.
-/

namespace Text

open List

/-- What stands between the occurrences, taken from the left; some characters belong to one. -/
def split (old : List Char) : Nat → List Char → List (List Char)
  | _, [] => [[]]
  | skip + 1, _ :: rest => split old skip rest
  | 0, char :: rest =>
    if old <+: char :: rest then [] :: split old (old.length - 1) rest
    else joinLine char (split old 0 rest)

/-- The empty text occurs before every character and at the end. -/
def pieces (old text : List Char) : List (List Char) :=
  if old = [] then [] :: (text.map fun char => [char]) ++ [[]] else split old 0 text

/-- `text.count(old)`. -/
def occurrences (old text : List Char) : Nat := (pieces old text).length - 1

/-- `text.replace(old, new)`. -/
def replaceAll (old new text : List Char) : List Char := new.intercalate (pieces old text)

/-- `text.replace(old, new, 1)`. -/
def replaceFirst (old new text : List Char) : List Char :=
  match pieces old text with
  | first :: second :: rest => first ++ new ++ old.intercalate (second :: rest)
  | _ => text

/-- Text mode reads every line end as a line feed. -/
def translate : List Char → List Char
  | [] => []
  | '\r' :: '\n' :: rest => '\n' :: translate rest
  | char :: rest => (if char = '\r' then '\n' else char) :: translate rest

variable {old new text : List Char}

theorem nil_intercalate (parts : List (List Char)) :
  ([] : List Char).intercalate parts = parts.flatten := by
  induction parts with
  | nil => rfl
  | cons first rest ih =>
    by_cases last : rest = []
    · simp [last]
    rw [intercalate_cons_of_ne_nil last, ih, append_nil, flatten_cons]

theorem intercalate_joinLine (char : Char) {lines : List (List Char)} (some : lines ≠ []) :
  old.intercalate (joinLine char lines) = char :: old.intercalate lines := by
  obtain ⟨line, rest, rfl⟩ := exists_cons_of_ne_nil some
  exact intercalate_cons_cons_left

theorem split_ne_nil (old : List Char) (skip : Nat) (text : List Char) :
  split old skip text ≠ [] := by
  fun_induction split old skip text with
  | case1 => exact cons_ne_nil _ _
  | case2 skip char rest more => exact more
  | case3 => exact cons_ne_nil _ _
  | case4 char rest absent more => cases lines : split old 0 rest <;> simp [joinLine]

theorem intercalate_split (filled : old ≠ []) (skip : Nat) (text : List Char) :
  old.intercalate (split old skip text) = text.drop skip := by
  fun_induction split old skip text with
  | case1 => simp
  | case2 skip char rest more => exact more
  | case3 char rest starts more =>
    obtain ⟨after, same⟩ := starts
    have length : old.length = old.length - 1 + 1 :=
      (Nat.sub_add_cancel (length_pos_iff.mpr filled)).symm
    have left : rest.drop (old.length - 1) = after := by
      rw [← drop_succ_cons (a := char), ← length, ← same, drop_left]
    rw [intercalate_cons_of_ne_nil (split_ne_nil old _ _), more, left, nil_append, same, drop_zero]
  | case4 char rest absent more => rw [intercalate_joinLine char (split_ne_nil old _ _), more]; rfl

theorem pieces_ne_nil (old text : List Char) : pieces old text ≠ [] := by
  unfold pieces
  split
  · exact cons_ne_nil _ _
  exact split_ne_nil old 0 text

theorem intercalate_pieces (old text : List Char) : old.intercalate (pieces old text) = text := by
  unfold pieces
  split
  · next empty =>
    subst empty
    simp [nil_intercalate, ← flatMap_def]
  next filled => exact intercalate_split filled 0 text

theorem countP_intercalate (test : Char → Bool) (sep : List Char) (parts : List (List Char)) :
  (sep.intercalate parts).countP test =
    (parts.map (countP test)).sum + (parts.length - 1) * sep.countP test := by
  induction parts with
  | nil => simp
  | cons first rest ih =>
    by_cases last : rest = []
    · simp [last]
    have more : rest.length = rest.length - 1 + 1 :=
      (Nat.sub_add_cancel (length_pos_iff.mpr last)).symm
    rw [intercalate_cons_of_ne_nil last, countP_append, countP_append, ih, map_cons, sum_cons,
      length_cons, Nat.add_sub_cancel, more, Nat.add_sub_cancel, Nat.succ_mul]
    omega

theorem countP_replaceAll (test : Char → Bool) (old new text : List Char) :
  (replaceAll old new text).countP test + occurrences old text * old.countP test =
    text.countP test + occurrences old text * new.countP test := by
  have whole := countP_intercalate test old (pieces old text)
  rw [intercalate_pieces] at whole
  rw [replaceAll, countP_intercalate, whole, occurrences]
  omega

theorem replaceFirst_once (once : occurrences old text = 1) :
  replaceFirst old new text = replaceAll old new text := by
  unfold occurrences at once
  unfold replaceFirst replaceAll
  match shape : pieces old text with
  | [] => exact absurd shape (pieces_ne_nil old text)
  | [first] => simp [shape] at once
  | [first, second] => simp
  | first :: second :: third :: rest => simp [shape] at once

theorem translate_plain (plain : '\r' ∉ text) : translate text = text := by
  fun_induction translate text with
  | case1 => rfl
  | case2 => simp at plain
  | case3 char rest single more =>
    have other : char ≠ '\r' := fun same => plain (same ▸ mem_cons_self)
    rw [if_neg other, more fun member => plain (mem_cons_of_mem _ member)]

theorem not_mem_translate (text : List Char) : '\r' ∉ translate text := by
  fun_induction translate text with
  | case1 => exact not_mem_nil
  | case2 rest more => simpa using more
  | case3 char rest single more =>
    by_cases same : char = '\r'
    · simpa [same] using more
    simpa [same, Ne.symm same] using more

theorem splitlines_translate (text : List Char) :
  splitlines (translate text) = splitlines text := by
  fun_induction translate text with
  | case1 => rfl
  | case2 rest more => simp [splitlines, isLineEnd, more]
  | case3 char rest single more =>
    by_cases same : char = '\r'
    · subst same
      cases rest <;> simp_all [splitlines, isLineEnd]
    rw [if_neg same, splitlines, splitlines, more]
    · exact single
    exact fun _ own _ => same own

end Text
