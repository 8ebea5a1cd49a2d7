import Quartz.Charset.Jis208
import Quartz.Charset.Jis212
import Quartz.Charset.Piece

/-!
# `Quartz.Charset.Japanese`: reading Shift_JIS, EUC-JP and ISO-2022-JP

All three hold ASCII, half-width katakana and pairs of bytes for the
double-byte set. In the first two a first byte that is followed by no
possible second one is replaced alone, so that an ASCII byte behind it is
read as such. In the third, escape sequences tell which set the bytes
behind them are in.
-/

set_option autoImplicit false

namespace Quartz.Charset

/-- The code of the first half-width katakana. -/
def firstKatakana : Nat := 0xFF61

/-! ### Shift_JIS -/

/-- Whether a byte starts a pair. -/
def isLead (b : UInt8) : Bool := (0x81 ≤ b && b < 0xA0) || (0xE0 ≤ b && b < 0xFD)

/-- What a pair stands for. A first byte stands for two rows, and the second
byte tells which. -/
def shiftJisPair (a b : UInt8) : Piece :=
  let rows := 2 * (if a ≤ 0x9F then a.toNat - 0x81 else a.toNat - 0xC1)
  let b := b.toNat
  if b < 0x40 || b = 0x7F then .unreadable 0
  else if b < 0x7F then .ofChar? (Jis208.char? rows (b - 0x40)) 1
  else if b < 0x9F then .ofChar? (Jis208.char? rows (b - 0x41)) 1
  else if b < 0xFD then .ofChar? (Jis208.char? (rows + 1) (b - 0x9F)) 1
  else .unreadable 1

/-- What a first byte starts in Shift_JIS. -/
def shiftJisPiece (a : UInt8) (rest : Bytes) : Piece :=
  if isLead a then
    match rest with
    | b :: _ => shiftJisPair a b
    | [] => .unreadable 0
  else if a ≤ 0x80 then .ascii a
  else if 0xA1 ≤ a && a < 0xE0 then .ofCode (firstKatakana + (a.toNat - 0xA1)) 0
  else .unreadable 0

/-! ### EUC-JP -/

/-- A byte of a pair. -/
def isHigh (b : UInt8) : Bool := 0xA1 ≤ b && b ≤ 0xFE

/-- The place of a byte in a row or among the rows. -/
def place (b : UInt8) : Nat := b.toNat - 0xA1

/-- What a first byte starts in EUC-JP. -/
def eucJpPiece (a : UInt8) (rest : Bytes) : Piece :=
  if a < 0x80 then .ascii a
  else if a = 0x8E then
    match rest with
    | b :: _ =>
      if b < 0xA1 || b = 0xFF then .unreadable 0
      else if 0xDF < b then .unreadable 1
      else .ofCode (firstKatakana + place b) 1
    | [] => .unreadable 0
  else if a = 0x8F then
    match rest with
    | b :: c :: _ =>
      if !isHigh b then .unreadable 0
      else if !isHigh c then .unreadable 1
      else .ofChar? (Jis212.char? (place b) (place c)) 2
    | [b] => .unreadable (if 0xA1 ≤ b && b < 0xFE then 1 else 0)
    | [] => .unreadable 0
  else if isHigh a then
    match rest with
    | b :: _ =>
      if isHigh b then .ofChar? (Jis208.char? (place a) (place b)) 1 else .unreadable 0
    | [] => .unreadable 0
  else .unreadable 0

/-! ### ISO-2022-JP -/

/-- The set that bytes are in. -/
inductive CodeSet where
  | ascii
  | katakana
  | jis208
  | jis212
  deriving DecidableEq, Repr

/-- The set that an escape sequence names, and the number of bytes behind
the escape. -/
def designated? : Bytes → Option (CodeSet × Nat)
  | 0x24 :: 0x40 :: _ => some (.jis208, 2)
  | 0x24 :: 0x42 :: _ => some (.jis208, 2)
  | 0x24 :: 0x28 :: 0x44 :: _ => some (.jis212, 3)
  | 0x28 :: 0x42 :: _ => some (.ascii, 2)
  | 0x28 :: 0x4A :: _ => some (.ascii, 2)
  | 0x28 :: 0x49 :: _ => some (.katakana, 2)
  | _ => none

/-- The row and the cell of a pair. The distance of a byte from the first
cell is taken modulo 256, and a cell beyond the end of a row goes on in the
rows behind it. -/
def rowAndCell (a b : UInt8) : Nat × Nat :=
  let n := 94 * (a - 0x21).toNat + (b - 0x21).toNat
  (n / 94, n % 94)

/-- What a first byte starts in a set, and the set behind it. A line end
leaves the double-byte sets. -/
def inSet (set : CodeSet) (a : UInt8) (rest : Bytes) : Piece × CodeSet :=
  let pair (char? : Nat → Nat → Option Char) : Piece × CodeSet :=
    if a = 0x0A then (.ascii a, .ascii)
    else
      match rest with
      | b :: _ => (.ofChar? (char? (rowAndCell a b).1 (rowAndCell a b).2) 1, set)
      | [] => (.unreadable 0, set)
  if 0x80 ≤ a then (.unreadable 0, set)
  else
    match set with
    | .ascii => (.ascii a, set)
    | .katakana =>
      if 0x21 ≤ a && a < 0x60 then (.ofCode (firstKatakana + (a.toNat - 0x21)) 0, set)
      else (.unreadable 0, set)
    | .jis208 => pair Jis208.char?
    | .jis212 => pair Jis212.char?

/-- ISO-2022-JP as characters, from a place with a set on. -/
def readIso2022Jp (set : CodeSet) (s : Bytes) : List Char :=
  match s with
  | [] => []
  | a :: rest =>
    match if a = 0x1B then designated? rest else none with
    | some (next, n) => readIso2022Jp next (rest.drop n)
    | none =>
      if a = 0x1B then Rune.replacement :: readIso2022Jp set rest
      else
        (inSet set a rest).1.chars ++
          readIso2022Jp (inSet set a rest).2 (rest.drop (inSet set a rest).1.more)
termination_by s.length
decreasing_by all_goals simp only [List.length_drop, List.length_cons]; omega

end Quartz.Charset
