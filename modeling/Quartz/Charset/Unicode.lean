import Quartz.Text.Utf8

/-!
# `Quartz.Charset.Unicode`: reading UTF-8 and UTF-16

What cannot be read becomes the replacement character. In UTF-8 one
replacement stands for a whole beginning of a sequence that breaks off; a
byte that cannot begin or continue a sequence has one of its own. In UTF-16
one stands for a surrogate without a partner and for a last odd byte.
-/

set_option autoImplicit false

namespace Quartz.Charset

/-- How many bytes belong to a sequence that breaks off, beyond the first:
those that could have gone on to a character. -/
def brokenLength (b : UInt8) (rest : Bytes) : Nat :=
  match Rune.announced b, rest with
  | 0, _ => 0
  | n, c :: more =>
    if !Rune.secondFits b c then 0
    else
      match more with
      | d :: _ => if n = 4 && Rune.isContinuation d then 2 else 1
      | [] => 1
  | _, [] => 0

/-- UTF-8 as characters. -/
def readUtf8 (s : Bytes) : List Char :=
  match s with
  | [] => []
  | b :: rest =>
    match Rune.first b rest with
    | (.char c, n) => c :: readUtf8 (rest.drop n)
    | (.stray _, _) => Rune.replacement :: readUtf8 (rest.drop (brokenLength b rest))
termination_by s.length
decreasing_by all_goals simp only [List.length_drop, List.length_cons]; omega

/-- The bytes of the mark that may stand at the start of UTF-8. -/
def utf8Mark : Bytes := [0xEF, 0xBB, 0xBF]

/-- UTF-8 as characters, without one mark at the start. -/
def readMarkedUtf8 (s : Bytes) : List Char :=
  if utf8Mark.isPrefixOf s then readUtf8 (s.drop 3) else readUtf8 s

/-- The order of the two bytes of a unit. -/
inductive ByteOrder where
  | little
  | big
  deriving DecidableEq, Repr

/-- The unit that two bytes make. -/
def ByteOrder.unit (o : ByteOrder) (a b : UInt8) : Nat :=
  match o with
  | .little => 256 * b.toNat + a.toNat
  | .big => 256 * a.toNat + b.toNat

/-- A unit that stands for a character only together with another one. -/
def isSurrogate (u : Nat) : Bool := 0xD800 ≤ u && u < 0xE000

/-- A unit that stands first in such a pair. -/
def isLeading (u : Nat) : Bool := 0xD800 ≤ u && u < 0xDC00

/-- A unit that stands second in such a pair. -/
def isTrailing (u : Nat) : Bool := 0xDC00 ≤ u && u < 0xE000

/-- The character of a pair of surrogates. Two second ones are a broken
pair. -/
def pairChar (u w : Nat) : Char :=
  if isLeading u then Char.ofNat (0x10000 + (u - 0xD800) * 1024 + (w - 0xDC00))
  else Rune.replacement

/-- The character of a unit on its own. -/
def unitChar (u : Nat) : Char := if isSurrogate u then Rune.replacement else Char.ofNat u

/-- UTF-16 as characters. -/
def readUtf16 (o : ByteOrder) : Bytes → List Char
  | a :: b :: c :: d :: rest =>
    let u := o.unit a b
    let w := o.unit c d
    if isSurrogate u && isTrailing w then pairChar u w :: readUtf16 o rest
    else unitChar u :: readUtf16 o (c :: d :: rest)
  | a :: b :: rest => unitChar (o.unit a b) :: readUtf16 o rest
  | [_] => [Rune.replacement]
  | [] => []

/-- UTF-16 as characters, in the order that a mark at the start tells, or
else with the low byte first. -/
def readMarkedUtf16 : Bytes → List Char
  | 0xFE :: 0xFF :: rest => readUtf16 .big rest
  | 0xFF :: 0xFE :: rest => readUtf16 .little rest
  | s => readUtf16 .little s

end Quartz.Charset
