/-!
Character classes of Python's `str`.
-/

namespace Text

/-- `str.isspace` of one character; `strip()` and `\s` go by the same class. -/
def isSpace (char : Char) : Bool :=
  let code := char.toNat
  (0x09 ≤ code && code ≤ 0x0D) || (0x1C ≤ code && code ≤ 0x20) || code = 0x85 || code = 0xA0 ||
    code = 0x1680 || (0x2000 ≤ code && code ≤ 0x200A) || code = 0x2028 || code = 0x2029 ||
    code = 0x202F || code = 0x205F || code = 0x3000

end Text
