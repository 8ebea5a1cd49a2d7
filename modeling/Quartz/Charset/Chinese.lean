import Quartz.Charset.Big5
import Quartz.Charset.Gb18030

/-!
# `Quartz.Charset.Chinese`: reading GBK, GB 18030 and Big5

GBK is GB 18030 without the sequences of four bytes. In both, a first byte
that is followed by nothing possible is replaced alone. In Big5 only a
second byte below `40` is read on its own.
-/

set_option autoImplicit false

namespace Quartz.Charset

/-! ### GBK and GB 18030 -/

/-- What a sequence of four bytes stands for. -/
def fourBytes (a b : UInt8) (rest : Bytes) : Piece :=
  match rest with
  | c :: d :: _ =>
    match Gb18030.four? a.toNat b.toNat c.toNat d.toNat with
    | some code => .ofCode code 3
    | none => .unreadable 0
  | _ => .unreadable 0

/-- What a first byte starts in GBK, or in GB 18030 if sequences may be
`long`. The byte `80` is the euro sign. -/
def gbkPiece (long : Bool) (a : UInt8) (rest : Bytes) : Piece :=
  if a < 0x80 then .ascii a
  else if a = 0x80 then .ofCode 0x20AC 0
  else if a = 0xFF then .unreadable 0
  else
    match rest with
    | b :: more =>
      if long && 0x30 ≤ b && b < 0x40 then fourBytes a b more
      else
        match Gb18030.pair? a.toNat b.toNat with
        | some code => .ofCode code 1
        | none => .unreadable 0
    | [] => .unreadable 0

/-! ### Big5 -/

/-- The pairs that stand for a letter and an accent. -/
def accented : List ((UInt8 × UInt8) × List Char) :=
  [((0x88, 0x62), ['Ê', '\u0304']), ((0x88, 0x64), ['Ê', '\u030c']),
    ((0x88, 0xA3), ['ê', '\u0304']), ((0x88, 0xA5), ['ê', '\u030c'])]

/-- The character of a pair. The rows start with `87`. -/
def big5Pair? (a b : Nat) : Option Char :=
  if a < 0x87 then none
  else if b < 0x7F then Big5.char? (a - 0x87) (b - 0x40)
  else Big5.char? (a - 0x87) (b - 0x62)

/-- What a first byte starts in Big5. -/
def big5Piece (a : UInt8) (rest : Bytes) : Piece :=
  if a < 0x80 then .ascii a
  else if a = 0x80 || a = 0xFF then .unreadable 0
  else
    match rest with
    | b :: _ =>
      if b < 0x40 then .unreadable 0
      else if (0x7F ≤ b && b < 0xA1) || b = 0xFF then .unreadable 1
      else
        match accented.lookup (a, b) with
        | some chars => ⟨chars, 1⟩
        | none => .ofChar? (big5Pair? a.toNat b.toNat) 1
    | [] => .unreadable 0

end Quartz.Charset
