/-!
# `Quartz.Text.Bytes`: text as a sequence of bytes

A script, its names, its strings and every message about it are byte
sequences: a source may hold bytes that are no valid UTF-8, and positions
in it count bytes. Characters enter only where a rule speaks of them
(columns, quoting, case), and `Quartz.Text.Utf8` reads them out of the
bytes there.
-/

set_option autoImplicit false

namespace Quartz

/-- Text as its bytes; no encoding is assumed. -/
abbrev Bytes := List UInt8

/-- The UTF-8 bytes of a string. -/
def utf8 (s : String) : Bytes := s.toList.flatMap String.utf8EncodeChar

namespace Bytes

/-- The byte of an ASCII character. -/
def byte (c : Char) : UInt8 := c.toNat.toUInt8

/-- A natural number in decimal digits. -/
def ofNat (n : Nat) : Bytes := (Nat.toDigits 10 n).map byte

/-- An integer in decimal digits, with a minus sign below zero. -/
def ofInt : Int → Bytes
  | .ofNat n => ofNat n
  | .negSucc n => byte '-' :: ofNat (n + 1)

/-- The lower-case hexadecimal digit of a number below sixteen. -/
def hexDigit (n : Nat) : UInt8 :=
  if n < 10 then (48 + n).toUInt8 else (87 + n).toUInt8

/-- The last `width` hexadecimal digits of a number, zeros in front. -/
def hex : Nat → Nat → Bytes
  | 0, _ => []
  | width + 1, n => hex width (n / 16) ++ [hexDigit (n % 16)]

/-- An ASCII decimal digit. -/
def isDigit (b : UInt8) : Bool := 48 ≤ b && b ≤ 57

/-- The number that a run of decimal digits spells. -/
def digitsValue (ds : Bytes) : Nat :=
  ds.foldl (fun n d => 10 * n + (d.toNat - 48)) 0

/-- The pieces joined with a separator between them. -/
def join (separator : Bytes) : List Bytes → Bytes
  | [] => []
  | [b] => b
  | b :: rest => b ++ separator ++ join separator rest

/-- The pieces between the occurrences of a byte; always at least one. -/
def splitOn (sep : UInt8) : Bytes → List Bytes
  | [] => [[]]
  | b :: rest =>
    if b = sep then [] :: splitOn sep rest
    else match splitOn sep rest with
      | [] => [[b]]
      | first :: more => (b :: first) :: more

/-- Every occurrence of one byte replaced by another. -/
def replace (old new : UInt8) (s : Bytes) : Bytes :=
  s.map fun b => if b = old then new else b

/-- The text without the bytes at its end that satisfy a test. -/
def trimEnd (p : UInt8 → Bool) (s : Bytes) : Bytes := (s.reverse.dropWhile p).reverse

/-- Padding in front up to a width. -/
def padStart (width : Nat) (s : Bytes) : Bytes :=
  List.replicate (width - s.length) (byte ' ') ++ s

/-- The line break that ends every line of output. -/
def newline : UInt8 := 10

/-- Insertion into a list that is ascending in byte order. -/
def insertSorted (s : Bytes) : List Bytes → List Bytes
  | [] => [s]
  | t :: rest => if s ≤ t then s :: t :: rest else t :: insertSorted s rest

/-- Texts in ascending byte order. -/
def sort (l : List Bytes) : List Bytes := l.foldr insertSorted []

end Bytes

end Quartz
