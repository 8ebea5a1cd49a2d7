import Quartz.Text.Printable

/-!
# `Quartz.Text.Quoted`: text in double quotes

The quoted form names every byte of a text in printable characters: the
quote and the backslash take a backslash, the seven common controls have a
letter, other characters that do not print are written by their code
point, and a stray byte by its two hexadecimal digits.
-/

set_option autoImplicit false

namespace Quartz

namespace Quoted

open Bytes

/-- The letter of a control character with a short escape. -/
def shortEscape (n : Nat) : Option Char :=
  match n with
  | 7 => some 'a'
  | 8 => some 'b'
  | 9 => some 't'
  | 10 => some 'n'
  | 11 => some 'v'
  | 12 => some 'f'
  | 13 => some 'r'
  | _ => none

/-- The escape of a character that does not print. -/
def escape (c : Char) : Bytes :=
  match shortEscape c.toNat with
  | some letter => [byte '\\', byte letter]
  | none =>
    if c.toNat < 0x80 then utf8 "\\x" ++ hex 2 c.toNat
    else if c.toNat < 0x10000 then utf8 "\\u" ++ hex 4 c.toNat
    else utf8 "\\U" ++ hex 8 c.toNat

/-- One rune inside the quotes. -/
def rune : Rune → Bytes
  | .char c =>
    if c = '"' || c = '\\' then [byte '\\', byte c]
    else if isPrintable c then String.utf8EncodeChar c
    else escape c
  | .stray b => utf8 "\\x" ++ hex 2 b.toNat

end Quoted

/-- A text in double quotes. -/
def Bytes.quoted (s : Bytes) : Bytes :=
  Bytes.byte '"' :: (Rune.decode s).flatMap Quoted.rune ++ [Bytes.byte '"']

end Quartz
