import Quartz.Text.Utf8

/-!
# `Quartz.Text.Blank`: white space around a text

The blanks are the characters with the White_Space property: the ASCII
blanks and controls from tab to carriage return, and the spaces and
separators beyond ASCII.
-/

set_option autoImplicit false

namespace Quartz

/-- A character with the White_Space property. -/
def isBlank (c : Char) : Bool :=
  let n := c.toNat
  (0x09 ≤ n && n ≤ 0x0D) || n == 0x20 || n == 0x85 || n == 0xA0 || n == 0x1680 ||
    (0x2000 ≤ n && n ≤ 0x200A) || n == 0x2028 || n == 0x2029 || n == 0x202F ||
    n == 0x205F || n == 0x3000

/-- A rune that is a blank character. -/
def Rune.isBlank : Rune → Bool
  | .char c => Quartz.isBlank c
  | .stray _ => false

/-- A text without the blanks at both ends. -/
def Bytes.trimBlank (s : Bytes) : Bytes :=
  ((((Rune.decode s).dropWhile Rune.isBlank).reverse.dropWhile Rune.isBlank).reverse).flatMap
    Rune.encode

end Quartz
