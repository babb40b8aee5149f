import Mathlib.Data.String.Basic

/-!
Relative paths in their POSIX spelling, as `PurePosixPath` reads and writes them.
-/

namespace AgentHarness.Packages

open List

/-- `PurePosixPath(text)`: empty parts and single dots are dropped. -/
structure PurePosixPath where
  isAbsolute : Bool
  parts : List String

namespace PurePosixPath

def ofString (text : String) : PurePosixPath where
  isAbsolute := text.toList.head? == some '/'
  parts := ((text.toList.splitOn '/').map String.ofList).filter fun part =>
    part != "" && part != "."

end PurePosixPath

/-- `as_posix()` of a relative path. -/
def asPosix (parts : List String) : String :=
  String.ofList (['/'].intercalate (parts.map String.toList))

structure ProperPart (part : String) : Prop where
  nonempty : part ≠ ""
  notHere : part ≠ "."
  notUp : part ≠ ".."
  noSlash : '/' ∉ part.toList
  noNull : '\x00' ∉ part.toList

instance (part : String) : Decidable (ProperPart part) :=
  decidable_of_iff
    (part ≠ "" ∧ part ≠ "." ∧ part ≠ ".." ∧ '/' ∉ part.toList ∧ '\x00' ∉ part.toList)
    ⟨fun ⟨nonempty, notHere, notUp, noSlash, noNull⟩ => ⟨nonempty, notHere, notUp, noSlash, noNull⟩,
      fun proper => ⟨proper.nonempty, proper.notHere, proper.notUp, proper.noSlash, proper.noNull⟩⟩

structure PackagePath where
  parts : List String
  nonempty : parts ≠ []
  proper : ∀ part ∈ parts, ProperPart part
  deriving DecidableEq

def PackagePath.posix (path : PackagePath) : String := asPosix path.parts

def PackagePath.name (path : PackagePath) : String := path.parts.getLast path.nonempty

variable {parts : List String}

theorem splitOn_posix (nonempty : parts ≠ []) (proper : ∀ part ∈ parts, ProperPart part) :
  (asPosix parts).toList.splitOn '/' = parts.map String.toList := by
  rw [asPosix, String.toList_ofList]
  apply splitOn_intercalate
  · intro chars member
    obtain ⟨part, part_mem, rfl⟩ := mem_map.mp member
    exact (proper part part_mem).noSlash
  exact fun empty => nonempty (map_eq_nil_iff.mp empty)

theorem parts_ofString_posix (nonempty : parts ≠ []) (proper : ∀ part ∈ parts, ProperPart part) :
  (PurePosixPath.ofString (asPosix parts)).parts = parts := by
  have spelled : (parts.map String.toList).map String.ofList = parts := by
    rw [map_map]
    exact (map_congr_left fun part _ => String.ofList_toList).trans (map_id parts)
  rw [PurePosixPath.ofString, splitOn_posix nonempty proper, spelled]
  apply filter_eq_self.mpr
  intro part member
  have named := proper part member
  simp [bne_iff_ne, named.nonempty, named.notHere]

theorem head_posix (proper : ∀ part ∈ parts, ProperPart part) :
  (asPosix parts).toList.head? ≠ some '/' := by
  rw [asPosix, String.toList_ofList]
  cases parts with
  | nil => exact fun same => nomatch same
  | cons part rest =>
    have named := proper part mem_cons_self
    cases shape : part.toList with
    | nil => exact absurd (String.toList_eq_nil_iff.mp shape) named.nonempty
    | cons char chars =>
      have notSlash : char ≠ '/' := by
        rintro rfl
        exact named.noSlash (shape ▸ mem_cons_self)
      have headed : (['/'].intercalate ((part :: rest).map String.toList)).head? = some char := by
        cases rest with
        | nil | cons next rest => simp [List.intercalate, shape]
      rw [headed]
      exact fun same => notSlash (Option.some.inj same)

theorem isAbsolute_ofString_posix (proper : ∀ part ∈ parts, ProperPart part) :
  (PurePosixPath.ofString (asPosix parts)).isAbsolute = false :=
  beq_eq_false_iff_ne.mpr (head_posix proper)

theorem getLast_posix (nonempty : parts ≠ []) (proper : ∀ part ∈ parts, ProperPart part) : (asPosix parts).toList.getLast? ≠ some '/' := by
  intro ends
  obtain ⟨start, shape⟩ := getLast?_eq_some_iff.mp ends
  have segments := splitOn_posix nonempty proper
  rw [shape, splitOn_append_cons_self, splitOn_nil] at segments
  have empty : [] ∈ parts.map String.toList := by
    rw [← segments]
    exact mem_append_right _ mem_cons_self
  obtain ⟨part, member, same⟩ := mem_map.mp empty
  exact (proper part member).nonempty (String.toList_eq_nil_iff.mp same)

theorem asPosix_inj {others : List String} (nonempty : parts ≠ []) (nonempty' : others ≠ [])
  (proper : ∀ part ∈ parts, ProperPart part) (proper' : ∀ part ∈ others, ProperPart part)
  (same : asPosix parts = asPosix others) : parts = others := by
  rw [← parts_ofString_posix nonempty proper, same, parts_ofString_posix nonempty' proper']

theorem mem_posix {char : Char} (found : char ∈ (asPosix parts).toList) :
  char = '/' ∨ ∃ part ∈ parts, char ∈ part.toList := by
  rw [asPosix, String.toList_ofList] at found
  induction parts with
  | nil => cases found
  | cons part rest ih =>
    cases rest with
    | nil => exact .inr ⟨part, mem_cons_self, by simpa [List.intercalate] using found⟩
    | cons next rest =>
      have cut : char ∈ part.toList ∨ char = '/' ∨
        char ∈ ['/'].intercalate ((next :: rest).map String.toList) := by
        simpa [List.intercalate] using found
      obtain here | rfl | later := cut
      · exact .inr ⟨part, mem_cons_self, here⟩
      · exact .inl rfl
      obtain slash | ⟨other, member, inside⟩ := ih later
      · exact .inl slash
      exact .inr ⟨other, mem_cons_of_mem _ member, inside⟩

theorem mem_splitOn {mark : Char} {chars segment : List Char}
  (member : segment ∈ chars.splitOn mark) :
  mark ∉ segment ∧ ∀ char ∈ segment, char ∈ chars := by
  induction chars generalizing segment with
  | nil =>
    rw [splitOn_nil, mem_singleton] at member
    subst member
    exact ⟨not_mem_nil, fun _ => id⟩
  | cons first rest ih =>
    have later : ∀ {other}, other ∈ rest.splitOn mark →
      mark ∉ other ∧ ∀ char ∈ other, char ∈ first :: rest := by
      intro other other_mem
      obtain ⟨unmarked, within⟩ := ih other_mem
      exact ⟨unmarked, fun char inside => mem_cons_of_mem _ (within char inside)⟩
    rw [splitOn_cons_eq_if_modifyHead] at member
    split at member
    · obtain rfl | member := mem_cons.mp member
      · exact ⟨not_mem_nil, fun _ inside => nomatch inside⟩
      exact later member
    case isFalse other =>
      cases cut : rest.splitOn mark with
      | nil => exact absurd cut (splitOn_ne_nil mark rest)
      | cons head tail =>
        rw [cut] at member later
        obtain rfl | member := mem_cons.mp member
        · obtain ⟨unmarked, within⟩ := later mem_cons_self
          constructor
          · intro inside
            obtain rfl | inside := mem_cons.mp inside
            · exact other (beq_self_eq_true mark)
            exact unmarked inside
          intro char inside
          obtain rfl | inside := mem_cons.mp inside
          · exact mem_cons_self
          exact within char inside
        exact later (mem_cons_of_mem _ member)

theorem parts_ofString {text part : String} (member : part ∈ (PurePosixPath.ofString text).parts) :
  part ≠ "" ∧ part ≠ "." := by
  have kept := (mem_filter.mp member).2
  simpa only [bne_iff_ne, ne_eq, Bool.and_eq_true] using kept

theorem properPart_of_ofString {text part : String}
  (member : part ∈ (PurePosixPath.ofString text).parts) (notUp : part ≠ "..")
  (noNull : '\x00' ∉ text.toList) : ProperPart part := by
  obtain ⟨segment_mem, kept⟩ := mem_filter.mp member
  obtain ⟨segment, cut, rfl⟩ := mem_map.mp segment_mem
  obtain ⟨unmarked, within⟩ := mem_splitOn cut
  simp only [bne_iff_ne, ne_eq, Bool.and_eq_true] at kept
  exact
    { nonempty := kept.1, notHere := kept.2, notUp
      noSlash := by rwa [String.toList_ofList]
      noNull := by
        rw [String.toList_ofList]
        exact fun inside => noNull (within _ inside) }

end AgentHarness.Packages
