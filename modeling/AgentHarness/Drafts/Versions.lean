import Mathlib.Data.List.Basic

/-!
Semantic versions as `_SEMVER` matches them, and the next patch version.
-/

namespace AgentHarness.Drafts

open List

/-- The decimal digits that `\d` matches and `int` reads; `0` to `9` are among them, and the
separators of a version are not. -/
structure DecimalDigits where
  value : Char → Option Nat
  ascii : ∀ char, char.isDigit = true → value char = some (char.toNat - '0'.toNat)
  separators : ∀ char ∈ ['.', '-', '+'], value char = none

namespace DecimalDigits

variable (digits : DecimalDigits)

def isDigit (char : Char) : Bool := (digits.value char).isSome

/-- `int`, of a text of digits. -/
def read (text : List Char) : Nat :=
  text.foldl (fun sofar char => 10 * sofar + (digits.value char).getD 0) 0

theorem read_ascii {text : List Char} (ascii : ∀ char ∈ text, char.isDigit = true) :
  digits.read text = Nat.ofDigitChars 10 text 0 := by
  have along : ∀ start : Nat,
    text.foldl (fun sofar char => 10 * sofar + (digits.value char).getD 0) start =
      Nat.ofDigitChars 10 text start := by
    induction text with
    | nil => exact fun start => Nat.ofDigitChars_nil.symm
    | cons char rest ih =>
      intro start
      rw [foldl_cons, Nat.ofDigitChars_cons, digits.ascii char (ascii char mem_cons_self)]
      exact ih (fun other member => ascii other (mem_cons_of_mem char member)) _
  exact along 0

theorem read_toDigits (number : Nat) : digits.read (Nat.toDigits 10 number) = number := by
  rw [read_ascii]
  · exact Nat.ofDigitChars_toDigits (by decide) (by decide)
  intro char member
  exact Nat.isDigit_of_mem_toDigits (by decide) (by decide) member

/-- `(0|[1-9]\d*)`, and what is left. -/
def numeric : List Char → Option (List Char × List Char)
  | [] => none
  | char :: rest =>
    if char = '0' then some ([char], rest)
    else if '1' ≤ char ∧ char ≤ '9' then
      some (char :: rest.takeWhile digits.isDigit, rest.dropWhile digits.isDigit)
    else none

theorem numeric_append {text number rest : List Char}
  (matched : digits.numeric text = some (number, rest)) : text = number ++ rest := by
  cases text with
  | nil => cases matched
  | cons char tail =>
    simp only [numeric] at matched
    split at matched
    · cases matched
      rfl
    split at matched
    case isTrue =>
      cases matched
      rw [cons_append, takeWhile_append_dropWhile]
    · cases matched

end DecimalDigits

/-- `[0-9A-Za-z-]`. -/
def isIdentifierChar (char : Char) : Bool :=
  char.isDigit || char.isUpper || char.isLower || char = '-'

/-- `[0-9A-Za-z-]+(?:\.[0-9A-Za-z-]+)*`. -/
def areIdentifiers (text : List Char) : Bool :=
  (text.splitOn '.').all fun identifier => !identifier.isEmpty && identifier.all isIdentifierChar

def isSuffix (mark : Char) : List Char → Bool
  | [] => true
  | first :: identifiers => first = mark && areIdentifiers identifiers

structure Semver where
  (major minor patch : List Char)

/-- `_SEMVER.fullmatch`. -/
def DecimalDigits.semver (digits : DecimalDigits) (version : String) : Option Semver :=
  match digits.numeric version.toList with
  | some (major, '.' :: afterMajor) =>
    match digits.numeric afterMajor with
    | some (minor, '.' :: afterMinor) =>
      match digits.numeric afterMinor with
      | some (patch, suffixes) =>
        if isSuffix '-' (suffixes.takeWhile (· ≠ '+')) ∧
            isSuffix '+' (suffixes.dropWhile (· ≠ '+')) then
          some { major, minor, patch }
        else none
      | none => none
    | _ => none
  | _ => none

def DecimalDigits.nextPatchVersion (digits : DecimalDigits) (version : String) : String :=
  match digits.semver version with
  | none => version
  | some matched =>
    String.ofList (matched.major ++ '.' :: (matched.minor ++ '.' ::
      Nat.toDigits 10 (digits.read matched.patch + 1)))

theorem suffixes_head {suffixes : List Char}
  (prerelease : isSuffix '-' (suffixes.takeWhile (· ≠ '+')) = true) {first : Char}
  {rest : List Char} (shape : suffixes = first :: rest) : first = '-' ∨ first = '+' := by
  subst shape
  by_cases build : first = '+'
  · exact .inr build
  have unmarked : decide (first ≠ '+') = true := decide_eq_true build
  rw [takeWhile_cons_of_pos (p := fun char => decide (char ≠ '+')) unmarked, isSuffix,
    Bool.and_eq_true, decide_eq_true_eq] at prerelease
  exact .inl prerelease.1

theorem DecimalDigits.semver_shape {digits : DecimalDigits} {version : String} {matched : Semver}
  (parsed : digits.semver version = some matched) :
  ∃ suffixes, version.toList =
    matched.major ++ '.' :: (matched.minor ++ '.' :: (matched.patch ++ suffixes)) ∧
    ∀ first rest, suffixes = first :: rest → first = '-' ∨ first = '+' := by
  unfold semver at parsed
  split at parsed
  case h_2 => cases parsed
  case h_1 major afterMajor majorMatched =>
    split at parsed
    case h_2 => cases parsed
    case h_1 minor afterMinor minorMatched =>
      split at parsed
      case h_2 => cases parsed
      case h_1 patch suffixes patchMatched =>
        split at parsed
        case isFalse => cases parsed
        case isTrue marked =>
          cases parsed
          refine ⟨suffixes, ?_, fun first rest shape => suffixes_head marked.1 shape⟩
          rw [numeric_append digits majorMatched, numeric_append digits minorMatched,
            numeric_append digits patchMatched]

theorem DecimalDigits.nextPatchVersion_ne {digits : DecimalDigits} {version : String}
  (parsed : (digits.semver version).isSome) : digits.nextPatchVersion version ≠ version := by
  obtain ⟨matched, found⟩ := Option.isSome_iff_exists.mp parsed
  obtain ⟨suffixes, shape, marked⟩ := semver_shape found
  intro same
  have texts : matched.patch ++ suffixes = Nat.toDigits 10 (digits.read matched.patch + 1) := by
    have whole := congrArg String.toList same
    simp only [nextPatchVersion, found, String.toList_ofList, shape] at whole
    have behind := append_cancel_left whole
    rw [List.cons.injEq] at behind
    have last := append_cancel_left behind.2
    rw [List.cons.injEq] at last
    exact last.2.symm
  cases suffixes with
  | nil =>
    rw [append_nil] at texts
    have counted : digits.read matched.patch = digits.read matched.patch + 1 := by
      conv_lhs => rw [texts, read_toDigits]
    omega
  | cons first rest =>
    -- a mark behind the patch number is not a digit of the next one
    have digit : first.isDigit = true := by
      apply Nat.isDigit_of_mem_toDigits (b := 10) (by decide) (by decide)
      rw [← texts]
      exact mem_append_right _ mem_cons_self
    cases marked first rest rfl with
    | inl minus | inr plus =>
      subst first
      revert digit
      decide

end AgentHarness.Drafts
