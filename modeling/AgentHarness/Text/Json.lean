import Mathlib.Data.List.Basic

/-!
JSON texts as `json.dumps` writes them without spaces and with every character outside printable
ASCII escaped.
-/

namespace Text

open List

def fourHex (unit : Nat) : List Char :=
  [Nat.digitChar (unit / 4096 % 16), Nat.digitChar (unit / 256 % 16),
    Nat.digitChar (unit / 16 % 16), Nat.digitChar (unit % 16)]

variable (char : Char)

def escape : List Char :=
  if char = '"' then ['\\', '"']
  else if char = '\\' then ['\\', '\\']
  else if char = '\n' then ['\\', 'n']
  else if char = '\r' then ['\\', 'r']
  else if char = '\t' then ['\\', 't']
  else if char = '\x0c' then ['\\', 'f']
  else if char = '\x08' then ['\\', 'b']
  else if 0x20 ≤ char.toNat ∧ char.toNat ≤ 0x7E then [char]
  else if char.toNat < 0x10000 then '\\' :: 'u' :: fourHex char.toNat
  else
    '\\' :: 'u' :: fourHex (0xD800 + (char.toNat - 0x10000) / 0x400) ++
      '\\' :: 'u' :: fourHex (0xDC00 + (char.toNat - 0x10000) % 0x400)

def quote (text : String) : List Char := '"' :: (text.toList.flatMap escape ++ ['"'])

def hexValue (digit : Char) : Nat :=
  if digit.toNat < 0x3A then digit.toNat - 0x30 else digit.toNat - 0x57

theorem hexValue_digitChar : ∀ digit < 16, hexValue (Nat.digitChar digit) = digit := by
  decide

def unitValue (first second third fourth : Char) : Nat :=
  ((hexValue first * 16 + hexValue second) * 16 + hexValue third) * 16 + hexValue fourth

def shortEscape (mark : Char) : Option Nat :=
  if mark = '"' then some 0x22
  else if mark = '\\' then some 0x5C
  else if mark = 'n' then some 0x0A
  else if mark = 'r' then some 0x0D
  else if mark = 't' then some 0x09
  else if mark = 'f' then some 0x0C
  else if mark = 'b' then some 0x08
  else none

def lowSurrogate (high : Nat) : List Char → Option (Nat × List Char)
  | _ :: _ :: first :: second :: third :: fourth :: rest =>
    some (0x10000 + (high - 0xD800) * 0x400 + (unitValue first second third fourth - 0xDC00), rest)
  | _ => none

def codeUnit : List Char → Option (Nat × List Char)
  | first :: second :: third :: fourth :: rest =>
    if 0xD800 ≤ unitValue first second third fourth ∧
        unitValue first second third fourth < 0xDC00 then
      lowSurrogate (unitValue first second third fourth) rest
    else some (unitValue first second third fourth, rest)
  | _ => none

def unescape : List Char → Option (Nat × List Char)
  | [] => none
  | char :: rest =>
    if char = '\\' then
      match rest with
      | [] => none
      | mark :: rest =>
        if mark = 'u' then codeUnit rest else (shortEscape mark).map fun code => (code, rest)
    else some (char.toNat, rest)

theorem unitValue_fourHex (unit : Nat) (fits : unit < 0x10000) :
  unitValue (Nat.digitChar (unit / 4096 % 16)) (Nat.digitChar (unit / 256 % 16))
    (Nat.digitChar (unit / 16 % 16)) (Nat.digitChar (unit % 16)) = unit := by
  have below : ∀ n : Nat, n % 16 < 16 := fun n => Nat.mod_lt n (by decide)
  simp only [unitValue, hexValue_digitChar _ (below _)]
  omega

theorem codeUnit_fourHex (unit : Nat) (rest : List Char) (fits : unit < 0x10000) :
  codeUnit (fourHex unit ++ rest) =
    if 0xD800 ≤ unit ∧ unit < 0xDC00 then lowSurrogate unit rest else some (unit, rest) := by
  simp [codeUnit, fourHex, unitValue_fourHex unit fits]

theorem lowSurrogate_fourHex (high low : Nat) (first second : Char) (rest : List Char)
  (fits : low < 0x10000) :
  lowSurrogate high (first :: second :: fourHex low ++ rest) =
    some (0x10000 + (high - 0xD800) * 0x400 + (low - 0xDC00), rest) := by
  simp [lowSurrogate, fourHex, unitValue_fourHex low fits]

theorem unescape_mark (mark : Char) (code : Nat) (rest : List Char)
  (other : mark ≠ 'u') (short : shortEscape mark = some code) :
  unescape ('\\' :: mark :: rest) = some (code, rest) := by
  simp [unescape, if_neg other, short]

theorem unescape_unit (rest : List Char) : unescape ('\\' :: 'u' :: rest) = codeUnit rest := by
  simp [unescape]

theorem toNat_range : char.toNat < 0xD800 ∨ 0xDFFF < char.toNat ∧ char.toNat < 0x110000 :=
  char.valid

theorem unescape_escape (rest : List Char) :
  unescape (escape char ++ rest) = some (char.toNat, rest) := by
  unfold escape
  split
  case isTrue isQuote => subst isQuote; exact unescape_mark _ _ rest (by decide) rfl
  split
  case isTrue isBackslash => subst isBackslash; exact unescape_mark _ _ rest (by decide) rfl
  case isFalse notBackslash =>
  split
  case isTrue isNewline => subst isNewline; exact unescape_mark _ _ rest (by decide) rfl
  split
  case isTrue isReturn => subst isReturn; exact unescape_mark _ _ rest (by decide) rfl
  split
  case isTrue isTab => subst isTab; exact unescape_mark _ _ rest (by decide) rfl
  split
  case isTrue isFeed => subst isFeed; exact unescape_mark _ _ rest (by decide) rfl
  split
  case isTrue isBackspace => subst isBackspace; exact unescape_mark _ _ rest (by decide) rfl
  split
  · simp only [unescape, cons_append, nil_append, if_neg notBackslash]
  have range := toNat_range char
  split
  case isTrue basic =>
      simp only [cons_append, unescape_unit]
      rw [codeUnit_fourHex _ _ basic, if_neg (by omega)]
  case isFalse above =>
      have high : 0xD800 + (char.toNat - 0x10000) / 0x400 < 0xDC00 := by omega
      have low : 0xDC00 + (char.toNat - 0x10000) % 0x400 < 0x10000 := by omega
      rw [append_assoc, cons_append, cons_append, unescape_unit,
        codeUnit_fourHex _ _ (by omega), if_pos ⟨by omega, high⟩,
        lowSurrogate_fourHex _ _ '\\' 'u' rest low]
      have restored : 0x10000 + (0xD800 + (char.toNat - 0x10000) / 0x400 - 0xD800) * 0x400 +
        (0xDC00 + (char.toNat - 0x10000) % 0x400 - 0xDC00) = char.toNat := by omega
      rw [restored]

variable {rest rest' : List Char}

theorem escape_inj {char other : Char}
  (same : escape char ++ rest = escape other ++ rest') : char = other ∧ rest = rest' := by
  have decoded := unescape_escape char rest
  rw [same, unescape_escape other rest'] at decoded
  simp only [Option.some.injEq, Prod.mk.injEq] at decoded
  exact ⟨Char.toNat_inj.mp decoded.1.symm, decoded.2.symm⟩

theorem escape_head : ∃ head tail, escape char = head :: tail ∧ head ≠ '"' := by
  by_cases isQuote : char = '"'
  case pos => exact ⟨'\\', ['"'], if_pos isQuote, by decide⟩
  unfold escape
  rw [if_neg isQuote]
  repeat' split
  all_goals first
    | exact ⟨'\\', _, rfl, by decide⟩
    | exact ⟨char, [], rfl, isQuote⟩

theorem escaped_inj : ∀ {text other : List Char} {rest rest' : List Char},
    text.flatMap escape ++ '"' :: rest = other.flatMap escape ++ '"' :: rest' →
      text = other ∧ rest = rest'
  | [], [], _, _, same => ⟨rfl, tail_eq_of_cons_eq same⟩
  | [], char :: chars, _, _, same => by
      obtain ⟨head, tail, shape, notQuote⟩ := escape_head char
      simp only [flatMap_nil, nil_append, flatMap_cons, shape, cons_append, List.cons.injEq] at same
      exact absurd same.1.symm notQuote
  | char :: chars, [], _, _, same => by
      obtain ⟨head, tail, shape, notQuote⟩ := escape_head char
      simp only [flatMap_nil, nil_append, flatMap_cons, shape, cons_append, List.cons.injEq] at same
      exact absurd same.1 notQuote
  | char :: chars, other :: others, _, _, same => by
      simp only [flatMap_cons, append_assoc] at same
      obtain ⟨rfl, remaining⟩ := escape_inj same
      obtain ⟨rfl, rest_eq⟩ := escaped_inj remaining
      exact ⟨rfl, rest_eq⟩

theorem quote_inj {text other : String} (same : quote text ++ rest = quote other ++ rest') : text = other ∧ rest = rest' := by
  simp only [quote, cons_append, append_assoc, nil_append, List.cons.injEq, true_and] at same
  obtain ⟨chars, rest_eq⟩ := escaped_inj same
  exact ⟨String.toList_inj.mp chars, rest_eq⟩

def delimits : Bool :=
  char == ',' || char == ']' || char == '}'

def numberHead : Bool := char.isDigit || char == '-' || char == 'I' || char == 'N'

/-- The spelling of a number, by which Python's integers and floats are told apart. -/
structure NumberToken where
  head : Char
  tail : List Char
  headed : numberHead head = true
  plain : ∀ char ∈ head :: tail, delimits char = false

def NumberToken.text (token : NumberToken) : List Char := token.head :: token.tail

def Delimited (rest : List Char) : Prop := ∀ char ∈ rest.head?, delimits char = true

variable {token other : NumberToken}

theorem NumberToken.ext_text (same : token.text = other.text) : token = other := by
  cases token
  cases other
  obtain ⟨rfl, rfl⟩ := same
  rfl

theorem NumberToken.takeWhile_text (token : NumberToken) (delimited : Delimited rest) :
  (token.text ++ rest).takeWhile (fun char => !delimits char) = token.text := by
  have stops : rest.takeWhile (fun char => !delimits char) = [] := by
    cases rest with
    | nil => rfl
    | cons char chars =>
      have ends := delimited char rfl
      simp [ends]
  rw [takeWhile_append_of_pos fun char member => by
    simp only [token.plain char member, Bool.not_false], stops, append_nil]

theorem NumberToken.text_inj
  (same : token.text ++ rest = other.text ++ rest') (delimited : Delimited rest)
  (delimited' : Delimited rest') : token = other ∧ rest = rest' := by
  have taken := token.takeWhile_text delimited
  rw [same, other.takeWhile_text delimited'] at taken
  rw [taken] at same
  exact ⟨(NumberToken.ext_text taken).symm, append_cancel_left same⟩

theorem isDigit_plain {char : Char} (digit : char.isDigit = true) : delimits char = false := by
  simp only [delimits, Bool.or_eq_false_iff, beq_eq_false_iff_ne]
  refine ⟨⟨?_, ?_⟩, ?_⟩ <;> (rintro rfl; revert digit; decide)

def NumberToken.ofNat (number : Nat) : NumberToken :=
  match shape : Nat.toDigits 10 number with
  | [] => absurd shape Nat.toDigits_ne_nil
  | head :: tail =>
    have digits : ∀ char ∈ head :: tail, char.isDigit = true := fun _ member =>
      Nat.isDigit_of_mem_toDigits (by decide) (by decide) (shape ▸ member)
    { head, tail
      headed := by simp only [numberHead, digits head mem_cons_self, Bool.true_or]
      plain := fun char member => isDigit_plain (digits char member) }

theorem NumberToken.text_ofNat (number : Nat) : (ofNat number).text = Nat.toDigits 10 number := by
  unfold ofNat
  split
  case h_1 shape => exact absurd shape Nat.toDigits_ne_nil
  case h_2 shape => exact shape.symm

theorem NumberToken.ofNat_inj {number other : Nat} (same : ofNat number = ofNat other) :
  number = other := by
  have texts := congrArg NumberToken.text same
  rw [text_ofNat, text_ofNat] at texts
  have read : ∀ n, Nat.ofDigitChars 10 (Nat.toDigits 10 n) 0 = n := fun _ =>
    Nat.ofDigitChars_toDigits (by decide) (by decide)
  calc
    number = Nat.ofDigitChars 10 (Nat.toDigits 10 number) 0 := (read number).symm
    _ = Nat.ofDigitChars 10 (Nat.toDigits 10 other) 0 := by rw [texts]
    _ = other := read other

inductive Json
  | null
  | bool (value : Bool)
  | number (token : NumberToken)
  | string (text : String)
  | array (items : List Json)
  | object (members : List (String × Json))

namespace Json

mutual

def render : Json → List Char
  | .null => "null".toList
  | .bool true => "true".toList
  | .bool false => "false".toList
  | .number token => token.text
  | .string text => quote text
  | .array items => '[' :: renderItems items
  | .object members => '{' :: renderMembers members

def renderItems : List Json → List Char
  | [] => [']']
  | item :: items => render item ++ moreItems items

def moreItems : List Json → List Char
  | [] => [']']
  | item :: items => ',' :: (render item ++ moreItems items)

def renderMembers : List (String × Json) → List Char
  | [] => ['}']
  | (name, value) :: members => quote name ++ ':' :: (render value ++ moreMembers members)

def moreMembers : List (String × Json) → List Char
  | [] => ['}']
  | (name, value) :: members => ',' :: (quote name ++ ':' :: (render value ++ moreMembers members))

end

/-- `json.dumps(value, separators=(",", ":"))`. -/
def dumps (value : Json) : String := String.ofList value.render

private inductive Leading
  | nothing | truth | falsity | number | text | sequence | mapping | closing
  deriving DecidableEq

def classify (char : Char) : Leading :=
  if char = 'n' then .nothing
  else if char = 't' then .truth
  else if char = 'f' then .falsity
  else if char = '"' then .text
  else if char = '[' then .sequence
  else if char = '{' then .mapping
  else if char = ']' then .closing
  else .number

def leading : Json → Leading
  | .null => .nothing
  | .bool true => .truth
  | .bool false => .falsity
  | .number _ => .number
  | .string _ => .text
  | .array _ => .sequence
  | .object _ => .mapping

theorem classify_numberHead {char : Char} (headed : numberHead char = true) :
  classify char = .number := by
  have differs : ∀ other, numberHead other = false → char ≠ other := by
    rintro other notHead rfl
    simp only [notHead, Bool.false_eq_true] at headed
  unfold classify
  rw [if_neg (differs 'n' (by decide)), if_neg (differs 't' (by decide)),
    if_neg (differs 'f' (by decide)), if_neg (differs '"' (by decide)),
    if_neg (differs '[' (by decide)), if_neg (differs '{' (by decide)),
    if_neg (differs ']' (by decide))]

theorem render_leading (value : Json) (rest : List Char) :
  (value.render ++ rest).head?.map classify = some value.leading := by
  cases value with
  | null => rfl
  | bool value => cases value <;> rfl
  | number token => exact congrArg some (classify_numberHead token.headed)
  | string text | array items | object members => rfl

variable {rest rest' : List Char}

theorem leading_eq {value other : Json}
  (same : value.render ++ rest = other.render ++ rest') : value.leading = other.leading := by
  have kinds := render_leading value rest
  rw [same, render_leading other rest'] at kinds
  exact (Option.some.inj kinds).symm

theorem moreItems_delimited (items : List Json) (rest : List Char) :
  Delimited (moreItems items ++ rest) := by
  cases items with
  | nil | cons item items => rintro _ ⟨⟩; rfl

theorem moreMembers_delimited (members : List (String × Json)) (rest : List Char) :
  Delimited (moreMembers members ++ rest) := by
  cases members with
  | nil => rintro _ ⟨⟩; rfl
  | cons member members => obtain ⟨name, value⟩ := member; rintro _ ⟨⟩; rfl

theorem tail_eq {char : Char} (same : char :: rest = char :: rest') : rest = rest' :=
  (List.cons.inj same).2

theorem closing_leading (value : Json) : classify ']' ≠ value.leading := by
  cases value with
  | bool value => cases value <;> decide
  | _ => exact fun same => nomatch (show Leading.closing = _ from same)

mutual

theorem render_inj : ∀ (value other : Json) (rest rest' : List Char),
    value.render ++ rest = other.render ++ rest' → Delimited rest → Delimited rest' →
      value = other ∧ rest = rest'
  | .null, other, rest, rest', same, _, _ => by
      have kinds := leading_eq same
      cases other with
      | null => exact ⟨rfl, append_cancel_left same⟩
      | bool value => cases value <;> cases kinds
      | _ => cases kinds
  | .bool value, other, rest, rest', same, _, _ => by
      have kinds := leading_eq same
      cases other with
      | bool other =>
        cases value <;> cases other
        case false.false => exact ⟨rfl, append_cancel_left same⟩
        case true.true => exact ⟨rfl, append_cancel_left same⟩
        all_goals cases kinds
      | _ => cases value <;> cases kinds
  | .number token, other, rest, rest', same, delimited, delimited' => by
      have kinds := leading_eq same
      cases other with
      | number other =>
        obtain ⟨rfl, rest_eq⟩ := NumberToken.text_inj same delimited delimited'
        exact ⟨rfl, rest_eq⟩
      | bool value => cases value <;> cases kinds
      | _ => cases kinds
  | .string text, other, rest, rest', same, _, _ => by
      have kinds := leading_eq same
      cases other with
      | string other =>
        obtain ⟨rfl, rest_eq⟩ := quote_inj same
        exact ⟨rfl, rest_eq⟩
      | bool value => cases value <;> cases kinds
      | _ => cases kinds
  | .array items, other, rest, rest', same, _, _ => by
      have kinds := leading_eq same
      cases other with
      | array others =>
        obtain ⟨rfl, rest_eq⟩ := renderItems_inj items others rest rest' (tail_eq same)
        exact ⟨rfl, rest_eq⟩
      | bool value => cases value <;> cases kinds
      | _ => cases kinds
  | .object members, other, rest, rest', same, _, _ => by
      have kinds := leading_eq same
      cases other with
      | object others =>
        obtain ⟨rfl, rest_eq⟩ := renderMembers_inj members others rest rest' (tail_eq same)
        exact ⟨rfl, rest_eq⟩
      | bool value => cases value <;> cases kinds
      | _ => cases kinds

theorem renderItems_inj : ∀ (items others : List Json) (rest rest' : List Char),
    renderItems items ++ rest = renderItems others ++ rest' → items = others ∧ rest = rest'
  | [], [], _, _, same => ⟨rfl, tail_eq same⟩
  | [], other :: others, rest, rest', same => by
      have closes := render_leading other (moreItems others ++ rest')
      rw [renderItems, renderItems, append_assoc] at same
      rw [← same] at closes
      exact absurd (Option.some.inj closes) (closing_leading other)
  | item :: items, [], rest, rest', same => by
      have closes := render_leading item (moreItems items ++ rest)
      rw [renderItems, renderItems, append_assoc] at same
      rw [same] at closes
      exact absurd (Option.some.inj closes) (closing_leading item)
  | item :: items, other :: others, rest, rest', same => by
      rw [renderItems, renderItems, append_assoc, append_assoc] at same
      obtain ⟨rfl, remaining⟩ := render_inj item other _ _ same (moreItems_delimited _ _)
        (moreItems_delimited _ _)
      obtain ⟨rfl, rest_eq⟩ := moreItems_inj items others rest rest' remaining
      exact ⟨rfl, rest_eq⟩

theorem moreItems_inj : ∀ (items others : List Json) (rest rest' : List Char),
    moreItems items ++ rest = moreItems others ++ rest' → items = others ∧ rest = rest'
  | [], [], _, _, same => ⟨rfl, tail_eq same⟩
  | [], _ :: _, _, _, same => by cases (List.cons.inj same).1
  | _ :: _, [], _, _, same => by cases (List.cons.inj same).1
  | item :: items, other :: others, rest, rest', same => by
      rw [moreItems, moreItems, cons_append, cons_append, append_assoc, append_assoc] at same
      obtain ⟨rfl, remaining⟩ := render_inj item other _ _ (tail_eq same) (moreItems_delimited _ _)
        (moreItems_delimited _ _)
      obtain ⟨rfl, rest_eq⟩ := moreItems_inj items others rest rest' remaining
      exact ⟨rfl, rest_eq⟩

theorem renderMembers_inj : ∀ (members others : List (String × Json)) (rest rest' : List Char),
    renderMembers members ++ rest = renderMembers others ++ rest' → members = others ∧ rest = rest'
  | [], [], _, _, same => ⟨rfl, tail_eq same⟩
  | [], (_, _) :: _, _, _, same => by cases (List.cons.inj same).1
  | (_, _) :: _, [], _, _, same => by cases (List.cons.inj same).1
  | (name, value) :: members, (name', value') :: others, rest, rest', same => by
      rw [renderMembers, renderMembers, append_assoc, append_assoc, cons_append,
        cons_append, append_assoc, append_assoc] at same
      obtain ⟨rfl, afterName⟩ := quote_inj same
      obtain ⟨rfl, remaining⟩ := render_inj value value' _ _ (tail_eq afterName)
        (moreMembers_delimited _ _) (moreMembers_delimited _ _)
      obtain ⟨rfl, rest_eq⟩ := moreMembers_inj members others rest rest' remaining
      exact ⟨rfl, rest_eq⟩

theorem moreMembers_inj : ∀ (members others : List (String × Json)) (rest rest' : List Char),
    moreMembers members ++ rest = moreMembers others ++ rest' → members = others ∧ rest = rest'
  | [], [], _, _, same => ⟨rfl, tail_eq same⟩
  | [], (_, _) :: _, _, _, same => by cases (List.cons.inj same).1
  | (_, _) :: _, [], _, _, same => by cases (List.cons.inj same).1
  | (name, value) :: members, (name', value') :: others, rest, rest', same => by
      rw [moreMembers, moreMembers, cons_append, cons_append, append_assoc,
        append_assoc, cons_append, cons_append, append_assoc,
        append_assoc] at same
      obtain ⟨rfl, afterName⟩ := quote_inj (tail_eq same)
      obtain ⟨rfl, remaining⟩ := render_inj value value' _ _ (tail_eq afterName)
        (moreMembers_delimited _ _) (moreMembers_delimited _ _)
      obtain ⟨rfl, rest_eq⟩ := moreMembers_inj members others rest rest' remaining
      exact ⟨rfl, rest_eq⟩

end

theorem render_object_inj {members others : List (String × Json)}
  (same : (Json.object members).render ++ rest = (Json.object others).render ++ rest') :
  members = others ∧ rest = rest' :=
  renderMembers_inj members others rest rest' (tail_eq same)

end Json

end Text
