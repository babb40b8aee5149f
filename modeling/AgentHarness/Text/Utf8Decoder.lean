import Mathlib.Data.List.Basic

/-!
UTF-8, decoded with a replacement character for what is malformed.
-/

namespace Text

open List UInt8

variable (text : List Char)

/-- `str.encode("utf-8")`. -/
def encodeUtf8 : List UInt8 := text.flatMap String.utf8EncodeChar

def firstChar (bytes : List UInt8) : Option Char := bytes.toByteArray.utf8DecodeChar? 0

def continues (first second : UInt8) : Bool :=
  if first = 0xE0 then 0xA0 ≤ second && second ≤ 0xBF
  else if first = 0xED then 0x80 ≤ second && second ≤ 0x9F
  else if first = 0xF0 then 0x90 ≤ second && second ≤ 0xBF
  else if first = 0xF4 then 0x80 ≤ second && second ≤ 0x8F
  else 0xE0 ≤ first && first ≤ 0xF4 && 0x80 ≤ second && second ≤ 0xBF

/-- How many of the bytes, none of which begins a character here, one replacement stands for. -/
def malformedLength : List UInt8 → Nat
  | first :: second :: rest =>
    if continues first second then
      match rest with
      | third :: _ => if 0xF0 ≤ first ∧ 0x80 ≤ third ∧ third ≤ 0xBF then 3 else 2
      | [] => 2
    else 1
  | _ => 1

def decodeWithin : Nat → List UInt8 → List Char
  | 0, _ => []
  | _ + 1, [] => []
  | fuel + 1, bytes =>
    match firstChar bytes with
    | some char => char :: decodeWithin fuel (bytes.drop char.utf8Size)
    | none => '\uFFFD' :: decodeWithin fuel (bytes.drop (malformedLength bytes))

/-- `bytes.decode("utf-8", errors="replace")`. -/
def decodeUtf8 (bytes : List UInt8) : List Char := decodeWithin bytes.length bytes

@[simp] theorem encodeUtf8_nil : encodeUtf8 [] = [] := rfl

theorem encodeUtf8_cons (char : Char) (text : List Char) :
  encodeUtf8 (char :: text) = String.utf8EncodeChar char ++ encodeUtf8 text :=
  flatMap_cons

theorem encodeUtf8_append (other : List Char) :
  encodeUtf8 (text ++ other) = encodeUtf8 text ++ encodeUtf8 other :=
  flatMap_append

theorem firstChar_encode (char : Char) (rest : List UInt8) :
  firstChar (String.utf8EncodeChar char ++ rest) = some char := by
  have shape : (String.utf8EncodeChar char ++ rest).toByteArray =
    [char].utf8Encode ++ rest.toByteArray := by
    rw [List.utf8Encode_singleton, toByteArray_append]
  rw [firstChar, shape]
  exact List.utf8DecodeChar?_utf8Encode_singleton_append

theorem decodeWithin_encode :
  ∀ fuel, text.length ≤ fuel → decodeWithin fuel (encodeUtf8 text) = text := by
  induction text with
  | nil =>
    intro fuel _
    cases fuel <;> rfl
  | cons char rest ih =>
    intro fuel enough
    cases fuel with
    | zero => cases enough
    | succ fuel =>
      rw [encodeUtf8_cons]
      have first := firstChar_encode char (encodeUtf8 rest)
      have size : (String.utf8EncodeChar char).length = char.utf8Size :=
        String.length_utf8EncodeChar char
      have positive : 0 < char.utf8Size := char.utf8Size_pos
      cases bytes : String.utf8EncodeChar char ++ encodeUtf8 rest with
      | nil =>
        have empty := congrArg List.length bytes
        rw [length_append, length_nil] at empty
        omega
      | cons byte others =>
        rw [decodeWithin, ← bytes, first]
        · dsimp only
          rw [← size, drop_left, ih fuel (Nat.le_of_succ_le_succ enough)]
        exact cons_ne_nil byte others

theorem length_le_encodeUtf8 : text.length ≤ (encodeUtf8 text).length := by
  induction text with
  | nil => exact Nat.le_refl _
  | cons char rest ih =>
    have positive : 0 < char.utf8Size := char.utf8Size_pos
    rw [encodeUtf8_cons, length_append, String.length_utf8EncodeChar, length_cons]
    omega

theorem decodeUtf8_encode : decodeUtf8 (encodeUtf8 text) = text :=
  decodeWithin_encode text _ (length_le_encodeUtf8 text)

theorem encodeUtf8_inj {text other : List Char} (same : encodeUtf8 text = encodeUtf8 other) :
  text = other := by
  rw [← decodeUtf8_encode text, same, decodeUtf8_encode]

/-- The decoder between two bytes: how many bytes of a character are missing, the bits it has of
it, and the range of the next byte. -/
structure Utf8Decoder where
  needed : Nat := 0
  codePoint : Nat := 0
  lower : Nat := 0x80
  upper : Nat := 0xBF

namespace Utf8Decoder

def first (byte : Nat) : List Char × Utf8Decoder :=
  if byte ≤ 0x7F then ([Char.ofNat byte], {})
  else if 0xC2 ≤ byte ∧ byte ≤ 0xDF then ([], { needed := 1, codePoint := byte % 32 })
  else if 0xE0 ≤ byte ∧ byte ≤ 0xEF then
    ([], { needed := 2, codePoint := byte % 16, lower := if byte = 0xE0 then 0xA0 else 0x80
           upper := if byte = 0xED then 0x9F else 0xBF })
  else if 0xF0 ≤ byte ∧ byte ≤ 0xF4 then
    ([], { needed := 3, codePoint := byte % 8, lower := if byte = 0xF0 then 0x90 else 0x80
           upper := if byte = 0xF4 then 0x8F else 0xBF })
  else (['\uFFFD'], {})

def step (decoder : Utf8Decoder) (byte : Nat) : List Char × Utf8Decoder :=
  if decoder.needed = 0 then first byte
  else if byte < decoder.lower ∨ decoder.upper < byte then
    ('\uFFFD' :: (first byte).1, (first byte).2)
  else
    let codePoint := decoder.codePoint * 64 + byte % 64
    if decoder.needed = 1 then ([Char.ofNat codePoint], {})
    else ([], { needed := decoder.needed - 1, codePoint })

def decode (decoder : Utf8Decoder) : List UInt8 → List Char × Utf8Decoder
  | [] => ([], decoder)
  | byte :: rest =>
    let (text, later) := decoder.step byte.toNat
    let (more, last) := later.decode rest
    (text ++ more, last)

theorem decode_append (decoder : Utf8Decoder) (bytes more : List UInt8) :
  decoder.decode (bytes ++ more) =
    ((decoder.decode bytes).1 ++ ((decoder.decode bytes).2.decode more).1,
    ((decoder.decode bytes).2.decode more).2) := by
  induction bytes generalizing decoder with
  | nil => rfl
  | cons byte rest ih => simp only [cons_append, decode, ih, append_assoc]

variable {byte first second : Nat} {decoder : Utf8Decoder}

theorem step_waits (silent : (decoder.step byte).1 = []) : (decoder.step byte).2.needed ≠ 0 := by
  unfold step first at silent ⊢
  grind

theorem decode_emits {bytes : List UInt8} (arrived : bytes ≠ [])
  (complete : (decoder.decode bytes).2.needed = 0) : (decoder.decode bytes).1 ≠ [] := by
  induction bytes generalizing decoder with
  | nil => exact absurd rfl arrived
  | cons byte rest ih =>
    intro silent
    have parts := append_eq_nil_iff.mp silent
    cases rest with
    | nil => exact step_waits parts.1 complete
    | cons next others => exact ih (cons_ne_nil next others) complete parts.2

theorem toNat_ofNat (small : byte < 256) : (ofNat byte).toNat = byte := by
  rw [toNat_ofNat']
  exact Nat.mod_eq_of_lt small

theorem step_within (missing : decoder.needed ≠ 0) (low : decoder.lower ≤ byte)
  (high : byte ≤ decoder.upper) :
  decoder.step byte =
    if decoder.needed = 1 then ([Char.ofNat (decoder.codePoint * 64 + byte % 64)], {})
    else ([], { needed := decoder.needed - 1
                codePoint := decoder.codePoint * 64 + byte % 64 }) := by
  have within : ¬(byte < decoder.lower ∨ decoder.upper < byte) := by omega
  rw [step, if_neg missing, if_neg within]

theorem decode_two (lead : 0xC2 ≤ first ∧ first ≤ 0xDF) (next : 0x80 ≤ second ∧ second ≤ 0xBF) :
  ({} : Utf8Decoder).decode [ofNat first, ofNat second] =
    ([Char.ofNat (first % 32 * 64 + second % 64)], {}) := by
  simp only [decode]
  rw [toNat_ofNat (by omega), toNat_ofNat (by omega), step, if_pos rfl, Utf8Decoder.first,
    if_neg (by omega), if_pos lead]
  rw [step_within (Nat.succ_ne_zero _) next.1 next.2]
  rfl

theorem decode_three {third : Nat} (lead : 0xE0 ≤ first ∧ first ≤ 0xEF)
  (low : (if first = 0xE0 then 0xA0 else 0x80) ≤ second)
  (high : second ≤ if first = 0xED then 0x9F else 0xBF) (next : 0x80 ≤ third ∧ third ≤ 0xBF) :
  ({} : Utf8Decoder).decode [ofNat first, ofNat second, ofNat third] =
    ([Char.ofNat ((first % 16 * 64 + second % 64) * 64 + third % 64)], {}) := by
  have small : second < 256 := by split at high <;> omega
  simp only [decode]
  rw [toNat_ofNat (by omega), toNat_ofNat small, toNat_ofNat (by omega), step, if_pos rfl,
    Utf8Decoder.first, if_neg (by omega), if_neg (by omega), if_pos lead]
  rw [step_within (Nat.succ_ne_zero _) low high]
  dsimp only
  rw [if_neg (by decide), step_within (Nat.succ_ne_zero _) next.1 next.2]
  rfl

theorem decode_four {third fourth : Nat} (lead : 0xF0 ≤ first ∧ first ≤ 0xF4)
  (low : (if first = 0xF0 then 0x90 else 0x80) ≤ second)
  (high : second ≤ if first = 0xF4 then 0x8F else 0xBF) (next : 0x80 ≤ third ∧ third ≤ 0xBF)
  (last : 0x80 ≤ fourth ∧ fourth ≤ 0xBF) : ({} : Utf8Decoder).decode
      [ofNat first, ofNat second, ofNat third, ofNat fourth] =
    ([Char.ofNat (((first % 8 * 64 + second % 64) * 64 + third % 64) * 64 + fourth % 64)], {}) := by
  have small : second < 256 := by split at high <;> omega
  simp only [decode]
  rw [toNat_ofNat (by omega), toNat_ofNat small, toNat_ofNat (by omega), toNat_ofNat (by omega),
    step, if_pos rfl, Utf8Decoder.first, if_neg (by omega), if_neg (by omega), if_neg (by omega),
    if_pos lead]
  rw [step_within (Nat.succ_ne_zero _) low high]
  dsimp only
  rw [if_neg (by decide), step_within (Nat.succ_ne_zero _) next.1 next.2]
  dsimp only
  rw [if_neg (by decide), step_within (Nat.succ_ne_zero _) last.1 last.2]
  rfl

theorem decode_char (char : Char) : ({} : Utf8Decoder).decode (String.utf8EncodeChar char) =
  ([char], {}) := by
  have valid : char.val.toNat < 0xD800 ∨ 0xDFFF < char.val.toNat ∧ char.val.toNat < 0x110000 :=
    char.valid
  have back : Char.ofNat char.val.toNat = char := Char.ofNat_toNat char
  unfold String.utf8EncodeChar
  generalize char.val.toNat = point at valid back ⊢
  dsimp only
  split
  case isTrue one =>
    simp only [decode]
    rw [toNat_ofNat (by omega), step, if_pos rfl, first, if_pos one, back]
    rfl
  split
  case isTrue two =>
    rw [decode_two (by omega) (by omega), ← back]
    congr 3
    omega
  split
  case isTrue three =>
    rw [decode_three (by omega) (by split <;> omega) (by split <;> omega) (by omega), ← back]
    congr 3
    omega
  case isFalse four =>
    rw [decode_four (by omega) (by split <;> omega) (by split <;> omega) (by omega) (by omega),
      ← back]
    congr 3
    omega

theorem decode_text (text : List Char) (bytes : List UInt8) :
  ({} : Utf8Decoder).decode (encodeUtf8 text ++ bytes) =
    (text ++ (({} : Utf8Decoder).decode bytes).1, (({} : Utf8Decoder).decode bytes).2) := by
  induction text with
  | nil => rfl
  | cons char rest ih =>
    rw [encodeUtf8_cons, append_assoc, decode_append, decode_char, ih]
    rfl

theorem decode_short (text : List Char) (count : Nat) (short : count < (encodeUtf8 text).length) :
  ∃ missing, missing ≠ [] ∧
    (({} : Utf8Decoder).decode ((encodeUtf8 text).take count)).1 ++ missing = text := by
  have whole := decode_text text []
  rw [append_nil, ← take_append_drop count (encodeUtf8 text), decode_append] at whole
  have parts := Prod.mk.inj whole
  refine ⟨_, ?_, parts.1.trans (append_nil text)⟩
  apply decode_emits
  · intro nothing
    have lengths := congrArg List.length nothing
    rw [length_drop, length_nil] at lengths
    omega
  rw [parts.2]
  rfl

end Utf8Decoder

end Text
