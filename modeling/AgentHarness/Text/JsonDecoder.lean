import Mathlib.Data.List.Basic

/-!
The decoder of Python's `json`, as a machine that reads a text character by character.
-/

namespace Text

open List Option

/-- A decoded value. A string is a sequence of code points, lone surrogates included; an object
has its keys in the order in which they came first. -/
inductive JsonData
  | null
  | bool (value : Bool)
  | number (token : List Char)
  | string (points : List Nat)
  | array (items : List JsonData)
  | object (members : List (List Nat × JsonData))

namespace JsonDecoder

def setMember (members : List (List Nat × JsonData)) (key : List Nat) (value : JsonData) :
  List (List Nat × JsonData) :=
  match members with
  | [] => [(key, value)]
  | member :: rest =>
    if member.1 = key then (key, value) :: rest else member :: setMember rest key value

variable (char : Char)

def isDigit : Bool := '0' ≤ char && char ≤ '9'

def integerPart : List Char → Option (List Char × List Char)
  | [] => none
  | char :: rest =>
    if char = '0' then some ([char], rest)
    else if isDigit char then some (char :: rest.takeWhile isDigit, rest.dropWhile isDigit)
    else none

def fractionPart : List Char → List Char × List Char
  | '.' :: rest =>
    if (rest.takeWhile isDigit).isEmpty then ([], '.' :: rest)
    else ('.' :: rest.takeWhile isDigit, rest.dropWhile isDigit)
  | text => ([], text)

def signPart : List Char → List Char × List Char
  | '+' :: rest => (['+'], rest)
  | '-' :: rest => (['-'], rest)
  | text => ([], text)

def exponentPart : List Char → List Char × List Char
  | [] => ([], [])
  | char :: rest =>
    if char = 'e' ∨ char = 'E' then
      let (sign, digits) := signPart rest
      if (digits.takeWhile isDigit).isEmpty then ([], char :: rest)
      else (char :: sign ++ digits.takeWhile isDigit, digits.dropWhile isDigit)
    else ([], char :: rest)

variable (text : List Char)

/-- `(-?(?:0|[1-9]\d*))(\.\d+)?([eE][-+]?\d+)?`, and what is left. -/
def numberPrefix : Option (List Char × List Char) :=
  let (sign, unsigned) :=
    match text with
    | '-' :: rest => (['-'], rest)
    | text => ([], text)
  match integerPart unsigned with
  | none => none
  | some (integer, afterInteger) =>
    let (fraction, afterFraction) := fractionPart afterInteger
    let (exponent, rest) := exponentPart afterFraction
    some (sign ++ integer ++ fraction ++ exponent, rest)

/-- `-Infinity` or a number, and what is left. -/
def numberFirst : Option (List Char × List Char) :=
  if "-Infinity".toList.isPrefixOf text then
    some ("-Infinity".toList, text.drop "-Infinity".length)
  else numberPrefix text

def isNumberChar : Bool :=
  isDigit char || char = '.' || char = '+' || char = '-' || char = 'e' || char = 'E'

def isNumber (token : List Char) : Bool := (numberPrefix token).any fun parts => parts.2.isEmpty

def hexValue : Option Nat :=
  if isDigit char then some (char.toNat - '0'.toNat)
  else if 'a' ≤ char ∧ char ≤ 'f' then some (char.toNat - 'a'.toNat + 10)
  else if 'A' ≤ char ∧ char ≤ 'F' then some (char.toNat - 'A'.toNat + 10)
  else none

def escaped : Option Nat :=
  match char with
  | '"' => some 0x22
  | '\\' => some 0x5C
  | '/' => some 0x2F
  | 'b' => some 0x08
  | 'f' => some 0x0C
  | 'n' => some 0x0A
  | 'r' => some 0x0D
  | 't' => some 0x09
  | _ => none

def joinSurrogates : List Nat → List Nat
  | high :: low :: rest =>
    if 0xD800 ≤ high ∧ high ≤ 0xDBFF ∧ 0xDC00 ≤ low ∧ low ≤ 0xDFFF then
      (0x10000 + (high - 0xD800) * 0x400 + (low - 0xDC00)) :: joinSurrogates rest
    else high :: joinSurrogates (low :: rest)
  | points => points

inductive Container
  | array (items : List JsonData)
  | object (members : List (List Nat × JsonData))
  | member (members : List (List Nat × JsonData)) (key : List Nat)

/-- What is read next; a string is read backwards, and `fresh` says that the container may end. -/
inductive Mode
  | value (fresh : Bool)
  | key (fresh : Bool)
  | colon
  | after
  | literal (rest : List Char) (value : JsonData)
  | number (token : List Char)
  | text (points : List Nat)
  | escape (points : List Nat)
  | unicode (points : List Nat) (digits sofar : Nat)

structure State where
  mode : Mode
  containers : List Container

inductive Outcome
  | failed
  | next (state : State)
  | finished (value : JsonData)

def isBlank : Bool := char = ' ' || char = '\t' || char = '\n' || char = '\r'

variable (containers : List Container)

def complete (value : JsonData) : Outcome :=
  match containers with
  | [] => .finished value
  | .array items :: outer => .next ⟨.after, .array (items ++ [value]) :: outer⟩
  | .member members key :: outer => .next ⟨.after, .object (setMember members key value) :: outer⟩
  | .object _ :: _ => .failed

def completeText (points : List Nat) : Outcome :=
  match containers with
  | .object members :: outer =>
    .next ⟨.colon, .member members (joinSurrogates points.reverse) :: outer⟩
  | containers => complete containers (.string (joinSurrogates points.reverse))

def stepAfter (char : Char) : Outcome :=
  if isBlank char then .next ⟨.after, containers⟩
  else
    match containers, char with
    | .array items :: outer, ',' => .next ⟨.value false, .array items :: outer⟩
    | .array items :: outer, ']' => complete outer (.array items)
    | .object members :: outer, ',' => .next ⟨.key false, .object members :: outer⟩
    | .object members :: outer, '}' => complete outer (.object members)
    | _, _ => .failed

def stepValue (fresh : Bool) (containers : List Container) (char : Char) : Outcome :=
  match char with
  | '"' => .next ⟨.text [], containers⟩
  | '{' => .next ⟨.key true, .object [] :: containers⟩
  | '[' => .next ⟨.value true, .array [] :: containers⟩
  | 'n' => .next ⟨.literal "ull".toList .null, containers⟩
  | 't' => .next ⟨.literal "rue".toList (.bool true), containers⟩
  | 'f' => .next ⟨.literal "alse".toList (.bool false), containers⟩
  | 'N' => .next ⟨.literal "aN".toList (.number "NaN".toList), containers⟩
  | 'I' => .next ⟨.literal "nfinity".toList (.number "Infinity".toList), containers⟩
  | ']' => if fresh then stepAfter containers ']' else .failed
  | char => if char = '-' ∨ isDigit char then .next ⟨.number [char], containers⟩ else .failed

def stepText (points : List Nat) (containers : List Container) (char : Char) : Outcome :=
  if char = '"' then completeText containers points
  else if char = '\\' then .next ⟨.escape points, containers⟩
  else if char.toNat < 0x20 then .failed
  else .next ⟨.text (char.toNat :: points), containers⟩

def step (state : State) (char : Char) : Outcome :=
  match state.mode with
  | .value fresh => if isBlank char then .next state else stepValue fresh state.containers char
  | .key fresh =>
    if isBlank char then .next state
    else if char = '"' then .next ⟨.text [], state.containers⟩
    else if char = '}' ∧ fresh then stepAfter state.containers char
    else .failed
  | .colon =>
    if isBlank char then .next state
    else if char = ':' then .next ⟨.value false, state.containers⟩
    else .failed
  | .after => stepAfter state.containers char
  | .literal [] _ => .failed
  | .literal (expected :: rest) value =>
    if char ≠ expected then .failed
    else if rest = [] then complete state.containers value
    else .next ⟨.literal rest value, state.containers⟩
  | .number token =>
    if isNumberChar char then .next ⟨.number (token ++ [char]), state.containers⟩
    else if token = ['-'] ∧ char = 'I' then
      .next ⟨.literal "nfinity".toList (.number "-Infinity".toList), state.containers⟩
    else if isNumber token then
      match complete state.containers (.number token) with
      | .next later => stepAfter later.containers char
      | _ => .failed
    else .failed
  | .text points => stepText points state.containers char
  | .escape points =>
    if char = 'u' then .next ⟨.unicode points 0 0, state.containers⟩
    else
      match escaped char with
      | some point => .next ⟨.text (point :: points), state.containers⟩
      | none => .failed
  | .unicode points digits sofar =>
    match hexValue char with
    | none => .failed
    | some value =>
      if digits = 3 then .next ⟨.text ((16 * sofar + value) :: points), state.containers⟩
      else .next ⟨.unicode points (digits + 1) (16 * sofar + value), state.containers⟩

def run : State → List Char → Option (JsonData × List Char)
  | _, [] => none
  | state, char :: rest =>
    match step state char with
    | .failed => none
    | .next later => run later rest
    | .finished value => some (value, rest)

/-- `JSONDecoder().raw_decode`; a number alone is the longest one there is. -/
def rawDecode : Option (JsonData × List Char) :=
  match text with
  | [] => none
  | char :: rest =>
    if char = '-' ∨ isDigit char then
      (numberFirst (char :: rest)).map fun parts => (.number parts.1, parts.2)
    else if isBlank char then none
    else run ⟨.value false, []⟩ (char :: rest)

/-- `json.loads`. -/
def loads : Option JsonData :=
  match rawDecode (text.dropWhile isBlank) with
  | none => none
  | some (value, rest) => if rest.all isBlank then some value else none

theorem run_append {state : State} {text rest : List Char} {value : JsonData}
  (decodes : run state text = some (value, rest)) (more : List Char) :
  run state (text ++ more) = some (value, rest ++ more) := by
  induction text generalizing state with
  | nil => cases decodes
  | cons char tail ih =>
    rw [run] at decodes
    rw [cons_append, run]
    cases outcome : step state char with
    | failed =>
      rw [outcome] at decodes
      cases decodes
    | next later =>
      rw [outcome] at decodes
      exact ih decodes
    | finished result =>
      rw [outcome] at decodes
      cases decodes
      rfl

variable {members : List (List Nat × JsonData)}

theorem rawDecode_append {text rest : List Char}
  (decodes : rawDecode text = some (.object members, rest)) (more : List Char) :
  rawDecode (text ++ more) = some (.object members, rest ++ more) := by
  cases text with
  | nil => cases decodes
  | cons char tail =>
    simp only [rawDecode, cons_append] at decodes ⊢
    split at decodes
    · rw [map_eq_some_iff] at decodes
      obtain ⟨parts, _, number⟩ := decodes
      cases number
    case isFalse plain =>
      rw [if_neg plain]
      split at decodes
      · cases decodes
      case isFalse visible =>
        rw [if_neg visible]
        exact run_append decodes more

theorem rawDecode_cut {text more : List Char}
  (decodes : rawDecode (text ++ more) = some (.object members, [])) (cut : more ≠ [])
  (started : text ≠ []) : rawDecode text = none := by
  cases text with
  | nil => exact absurd rfl started
  | cons char tail =>
    simp only [rawDecode, cons_append] at decodes ⊢
    split at decodes
    · rw [map_eq_some_iff] at decodes
      obtain ⟨parts, _, number⟩ := decodes
      cases number
    case isFalse plain =>
      rw [if_neg plain]
      split at decodes
      · cases decodes
      case isFalse visible =>
        rw [if_neg visible]
        cases early : run ⟨.value false, []⟩ (char :: tail) with
        | none => rfl
        | some result =>
          have whole := run_append early more
          rw [cons_append, decodes, some.injEq, Prod.mk.injEq] at whole
          exact absurd (append_eq_nil_iff.mp whole.2.symm).2 cut

end JsonDecoder

end Text
