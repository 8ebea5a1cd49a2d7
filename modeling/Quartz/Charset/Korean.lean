import Quartz.Charset.Ksx1001
import Quartz.Charset.Piece

/-!
# `Quartz.Charset.Korean`: reading EUC-KR

The pairs of the double-byte set, and in front of them pairs for the
syllables that the set leaves out, in the order of their codes.
-/

set_option autoImplicit false

namespace Quartz.Charset

/-- The number of syllables. -/
def syllableCount : Nat := 11172

/-- The place of a second byte in a row of the extension. There are cells
for capital letters, small letters and bytes from `81` on. -/
def extensionCell? (b : UInt8) : Option Nat :=
  if 0x41 ≤ b && b < 0x5B then some (b.toNat - 0x41)
  else if 0x61 ≤ b && b < 0x7B then some (b.toNat - 0x61 + 26)
  else if 0x81 ≤ b && b < 0xFF then some (b.toNat - 0x81 + 52)
  else none

/-- The syllable at a row and a cell of the extension. From the row of `A1`
on the extension has only the cells in front of the double-byte set. -/
def extensionSyllable? (a cell : Nat) : Option Char :=
  let place := if a < 0xA1 then 178 * (a - 0x81) + cell else 178 * 32 + 84 * (a - 0xA1) + cell
  if place < syllableCount - Ksx1001.syllables.length then
    some (Char.ofNat (leftOut Ksx1001.syllables 0xAC00 place))
  else none

/-- The character of a pair. -/
def eucKrPair? (a b : UInt8) : Option Char :=
  if 0xA1 ≤ a && 0xA1 ≤ b && b < 0xFF then Ksx1001.char? (a.toNat - 0xA1) (b.toNat - 0xA1)
  else if a < 0xC7 then (extensionCell? b).bind (extensionSyllable? a.toNat)
  else none

/-- What a first byte starts in EUC-KR. An ASCII byte behind a byte with
which it makes no pair is read on its own. -/
def eucKrPiece (a : UInt8) (rest : Bytes) : Piece :=
  if a < 0x80 then .ascii a
  else if 0x81 ≤ a && a < 0xFF then
    match rest with
    | b :: _ =>
      match eucKrPair? a b with
      | some c => .ofChar? (some c) 1
      | none => .unreadable (if b < 0x80 then 0 else 1)
    | [] => .unreadable 0
  else .unreadable 0

end Quartz.Charset
