import Quartz.Text.Bytes

/-!
# `Quartz.Text.Utf8`: characters in bytes

`Rune.decode` reads a byte sequence as UTF-8 without ever failing: a byte
that belongs to no well-formed sequence is a rune of its own. So every
byte sequence has a rune count, and a column is a number of runes.
-/

set_option autoImplicit false

namespace Quartz

/-- What stands at one place of a text: a character, or a byte that is
part of no well-formed sequence. -/
inductive Rune where
  | char (c : Char)
  | stray (b : UInt8)
  deriving DecidableEq, Repr

namespace Rune

/-- A continuation byte of a longer sequence. -/
def isContinuation (b : UInt8) : Bool := 0x80 ≤ b && b ≤ 0xBF

/-- The six payload bits of a continuation byte. -/
def payload (b : UInt8) : Nat := b.toNat % 64

/-- The bytes that may follow the first byte of a longer sequence. They
shut out overlong forms, surrogates and everything above U+10FFFF. -/
def secondRange (first : UInt8) : UInt8 × UInt8 :=
  if first = 0xE0 then (0xA0, 0xBF)
  else if first = 0xED then (0x80, 0x9F)
  else if first = 0xF0 then (0x90, 0xBF)
  else if first = 0xF4 then (0x80, 0x8F)
  else (0x80, 0xBF)

/-- Whether a byte may stand second after a given first byte. -/
def secondFits (first second : UInt8) : Bool :=
  (secondRange first).1 ≤ second && second ≤ (secondRange first).2

/-- The length of the sequence that a first byte announces; zero for a
byte that starts none. -/
def announced (first : UInt8) : Nat :=
  if first < 0x80 then 1
  else if first < 0xC2 then 0
  else if first < 0xE0 then 2
  else if first < 0xF0 then 3
  else if first < 0xF5 then 4
  else 0

/-- The rune at the front of a text, and how many bytes it takes beyond
the first. -/
def first (b : UInt8) (rest : Bytes) : Rune × Nat :=
  match announced b, rest with
  | 1, _ => (.char (Char.ofNat b.toNat), 0)
  | 2, c :: _ =>
    if secondFits b c then
      (.char (Char.ofNat ((b.toNat - 0xC0) * 64 + payload c)), 1)
    else (.stray b, 0)
  | 3, c :: d :: _ =>
    if secondFits b c && isContinuation d then
      (.char (Char.ofNat (((b.toNat - 0xE0) * 64 + payload c) * 64 + payload d)), 2)
    else (.stray b, 0)
  | 4, c :: d :: e :: _ =>
    if secondFits b c && isContinuation d && isContinuation e then
      (.char (Char.ofNat
        ((((b.toNat - 0xF0) * 64 + payload c) * 64 + payload d) * 64 + payload e)), 3)
    else (.stray b, 0)
  | _, _ => (.stray b, 0)

/-- A text as its runes, left to right. -/
def decode (s : Bytes) : List Rune :=
  match s with
  | [] => []
  | b :: rest => (first b rest).1 :: decode (rest.drop (first b rest).2)
termination_by s.length
decreasing_by simp only [List.length_drop, List.length_cons]; omega

/-- The bytes of a rune. -/
def encode : Rune → Bytes
  | .char c => String.utf8EncodeChar c
  | .stray b => [b]

/-- The replacement character, which stands for what cannot be read. -/
def replacement : Char := Char.ofNat 0xFFFD

/-- A rune as a character; a stray byte reads as the replacement. -/
def toChar : Rune → Char
  | .char c => c
  | .stray _ => replacement

/-- Whether the rune is a character. -/
def isChar : Rune → Bool
  | .char _ => true
  | .stray _ => false

end Rune

/-- The number of characters in a text, a stray byte counting as one. -/
def Bytes.runeCount (s : Bytes) : Nat := (Rune.decode s).length

/-- Whether a text is well-formed UTF-8. -/
def Bytes.isUtf8 (s : Bytes) : Bool := (Rune.decode s).all Rune.isChar

end Quartz
