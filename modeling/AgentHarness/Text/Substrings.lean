import AgentHarness.Text.Fnmatch
import AgentHarness.Text.Characters

/-!
What Python's `str` offers for looking inside a text.
-/

namespace Text

/-- `needle in text`. -/
def occursIn (needle text : String) : Bool := (suffixes text.toList).any needle.toList.isPrefixOf

def hasPrefix (start text : String) : Bool := start.toList.isPrefixOf text.toList

def hasSuffix (ending text : String) : Bool := ending.toList.isSuffixOf text.toList

/-- `str.strip`. -/
def stripSpace (text : String) : String :=
  String.ofList (((text.toList.dropWhile isSpace).reverse.dropWhile isSpace).reverse)

theorem dropWhile_none {test : Char → Bool} {chars : List Char}
  (plain : ∀ char ∈ chars, test char = false) : chars.dropWhile test = chars := by
  cases chars with
  | nil => rfl
  | cons char rest => simp [plain char List.mem_cons_self]

theorem stripSpace_eq_self {text : String} (plain : ∀ char ∈ text.toList, isSpace char = false) :
  stripSpace text = text := by
  unfold stripSpace
  rw [dropWhile_none plain, dropWhile_none (by simpa using plain), List.reverse_reverse,
    String.ofList_toList]

/-- `str.replace` of one character by another. -/
def replaceChar (old new : Char) (text : String) : String :=
  String.ofList (text.toList.map fun char => if char = old then new else char)

/-- The line boundaries of `str.splitlines`. -/
def isLineEnd (char : Char) : Bool :=
  let code := char.toNat
  (0x0A ≤ code && code ≤ 0x0D) || (0x1C ≤ code && code ≤ 0x1E) || code = 0x85 ||
    code = 0x2028 || code = 0x2029

def joinLine (char : Char) : List (List Char) → List (List Char)
  | [] => [[char]]
  | line :: lines => (char :: line) :: lines

/-- `str.splitlines`: a boundary at the end starts no further line. -/
def splitlines : List Char → List (List Char)
  | [] => []
  | '\r' :: '\n' :: rest => [] :: splitlines rest
  | char :: rest => if isLineEnd char then [] :: splitlines rest else joinLine char (splitlines rest)

example : (splitlines "one\r\ntwo\n\nfour\n".toList).map String.ofList =
  ["one", "two", "", "four"] := by decide

end Text
