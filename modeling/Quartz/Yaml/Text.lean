import Quartz.Charset.Unicode
import Quartz.Yaml.Flaw

/-!
# `Quartz.Yaml.Text`: the characters of a YAML text

A text is UTF-8, or UTF-16 behind a byte order mark. It is read in blocks,
and a block with a flaw in it gives no characters at all, so what stands
before the flaw in the same block is never looked at.
-/

set_option autoImplicit false

namespace Quartz.Yaml

/-- How the characters of a text are written. -/
inductive Encoding where
  | octets
  | units (order : Charset.ByteOrder)
  deriving DecidableEq, Repr

/-- The characters of a text, and the flaw that stands behind them. -/
structure Text where
  chars : List Char
  flaw : Option Flaw := none
  deriving DecidableEq, Repr

namespace Encoding

/-- How many bytes the sequence has that a byte starts. -/
def width? (b : UInt8) : Option Nat :=
  if b < 0x80 then some 1
  else if 0xC0 ≤ b && b < 0xE0 then some 2
  else if 0xE0 ≤ b && b < 0xF0 then some 3
  else if 0xF0 ≤ b && b < 0xF8 then some 4
  else none

/-- The bits that the first byte of a sequence gives to its code point. -/
def leadingBits (width : Nat) (b : UInt8) : Nat :=
  match width with
  | 1 => b.toNat
  | 2 => b.toNat % 32
  | 3 => b.toNat % 16
  | _ => b.toNat % 8

/-- The least code point that needs a width. -/
def leastOf : Nat → Nat
  | 2 => 0x80
  | 3 => 0x800
  | 4 => 0x10000
  | _ => 0

/-- The code point at the front of UTF-8, and how many bytes it takes
beyond the first. Nothing if it is cut off. -/
def firstOctets (b : UInt8) (rest : Bytes) : Except Flaw (Option (Nat × Nat)) :=
  match width? b with
  | none => .error .leadingOctet
  | some width =>
    let trail := rest.take (width - 1)
    if trail.length < width - 1 then .ok none
    else if !trail.all Rune.isContinuation then .error .trailingOctet
    else
      let code := trail.foldl (fun n c => 64 * n + Rune.payload c) (leadingBits width b)
      if code < leastOf width then .error .overlong
      else if Charset.isSurrogate code || 0x10FFFF < code then .error .noCharacter
      else .ok (some (code, width - 1))

/-- The code point at the front of UTF-16, and how many bytes it takes
beyond the first. Nothing if it is cut off. -/
def firstUnits (order : Charset.ByteOrder) (b : UInt8) (rest : Bytes) :
    Except Flaw (Option (Nat × Nat)) :=
  match rest with
  | [] => .ok none
  | c :: more =>
    let unit := order.unit b c
    if Charset.isTrailing unit then .error .unpairedSurrogate
    else if Charset.isLeading unit then
      match more with
      | d :: e :: _ =>
        let second := order.unit d e
        if Charset.isTrailing second then
          .ok (some (0x10000 + (unit - 0xD800) * 1024 + (second - 0xDC00), 3))
        else .error .missingSurrogate
      | _ => .ok none
    else .ok (some (unit, 1))

/-- The code point at the front of a text. -/
def first (e : Encoding) : UInt8 → Bytes → Except Flaw (Option (Nat × Nat)) :=
  match e with
  | .octets => firstOctets
  | .units order => firstUnits order

/-- The flaw of a text that ends inside a character. -/
def cutOff (e : Encoding) (left : Bytes) : Flaw :=
  match e with
  | .octets => .incompleteOctets
  | .units _ => if left.length < 2 then .halfUnit else .halfPair

/-- Whether a code point may stand in a text. -/
def isAllowed (n : Nat) : Bool :=
  n = 0x09 || n = 0x0A || n = 0x0D || (0x20 ≤ n && n ≤ 0x7E) || n = 0x85 ||
    (0xA0 ≤ n && n ≤ 0xD7FF) || (0xE000 ≤ n && n ≤ 0xFFFD) || 0x10000 ≤ n

/-- The characters of a block, and what is left of it when it ends inside a
character. -/
def block (e : Encoding) (s : Bytes) : Except Flaw (List Char × Bytes) :=
  match s with
  | [] => .ok ([], [])
  | b :: rest =>
    match e.first b rest with
    | .error f => .error f
    | .ok none => .ok ([], b :: rest)
    | .ok (some (code, more)) =>
      if isAllowed code then
        (block e (rest.drop more)).map fun p => (Char.ofNat code :: p.1, p.2)
      else .error .control
termination_by s.length
decreasing_by simp only [List.length_drop, List.length_cons]; omega

end Encoding

namespace Text

/-- The size of a block. -/
def blockSize : Nat := 512

/-- The characters of a text whose first block has a size of its own. Every
step takes at least one byte, so a step more than there are bytes is
enough. -/
def blocks (e : Encoding) : Nat → Nat → Bytes → Text
  | _, _, [] => ⟨[], none⟩
  | 0, _, _ => ⟨[], none⟩
  | steps + 1, size, s =>
    match e.block (s.take size) with
    | .error f => ⟨[], some f⟩
    | .ok ([], left) => ⟨[], some (e.cutOff left)⟩
    | .ok (chars, left) =>
      let more := blocks e steps blockSize (left ++ s.drop size)
      ⟨chars ++ more.chars, more.flaw⟩

/-- The encoding of a text and the length of the mark that tells it. -/
def encoding : Bytes → Encoding × Nat
  | 0xFF :: 0xFE :: _ => (.units .little, 2)
  | 0xFE :: 0xFF :: _ => (.units .big, 2)
  | 0xEF :: 0xBB :: 0xBF :: _ => (.octets, 3)
  | _ => (.octets, 0)

/-- The characters of a text. The mark is part of the first block. -/
def ofBytes (s : Bytes) : Text :=
  let (e, mark) := encoding s
  blocks e (s.length + 1) (blockSize - mark) (s.drop mark)

end Text

end Quartz.Yaml
