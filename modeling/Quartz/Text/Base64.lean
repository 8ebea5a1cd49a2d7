import Quartz.Text.Bytes

/-!
# `Quartz.Text.Base64`: bytes in the sixty-four letter alphabet

Four letters hold three bytes, and equals signs fill up the last four. Line
breaks do not count. Bits that the last letter holds beyond the last byte
are not looked at.
-/

set_option autoImplicit false

namespace Quartz.Base64

/-- The six bits that a letter stands for. -/
def value? (b : UInt8) : Option Nat :=
  if 65 ≤ b && b ≤ 90 then some (b.toNat - 65)
  else if 97 ≤ b && b ≤ 122 then some (b.toNat - 71)
  else if 48 ≤ b && b ≤ 57 then some (b.toNat + 4)
  else if b = Bytes.byte '+' then some 62
  else if b = Bytes.byte '/' then some 63
  else none

/-- The bytes in a row of six bits each. A last group of two holds one byte
and a last group of three holds two. -/
def bytes : List Nat → Bytes
  | a :: b :: c :: d :: rest =>
    (4 * a + b / 16).toUInt8 :: (16 * b + c / 4).toUInt8 :: (64 * c + d).toUInt8 :: bytes rest
  | [a, b, c] => [(4 * a + b / 16).toUInt8, (16 * b + c / 4).toUInt8]
  | [a, b] => [(4 * a + b / 16).toUInt8]
  | _ => []

/-- The bytes that a text holds, if it is well formed. -/
def decode? (s : Bytes) : Option Bytes := do
  let letters := s.filter fun b => b ≠ 10 && b ≠ 13
  let body := Bytes.trimEnd (· = Bytes.byte '=') letters
  let fill := letters.length - body.length
  let values ← body.mapM value?
  if letters.length % 4 = 0 && fill ≤ 2 then some (bytes values) else none

end Quartz.Base64
