import Quartz.Text.Utf8

/-!
# `Quartz.Charset.Piece`: charsets of several bytes

Where a character may take several bytes, the first byte tells how the ones
behind it are to be read. A reader of such a charset says what a first byte
starts, and `Piece.readAll` puts the pieces together. What cannot be read
becomes the replacement character.
-/

set_option autoImplicit false

namespace Quartz.Charset

/-- What a first byte starts: characters, and how many bytes beyond the
first they take. -/
structure Piece where
  chars : List Char
  more : Nat
  deriving DecidableEq, Repr

namespace Piece

/-- A character that takes a number of bytes beyond the first, if it is
known. -/
def ofChar? (c : Option Char) (more : Nat) : Piece := ⟨[c.getD Rune.replacement], more⟩

/-- A character with a code of its own. -/
def ofCode (code more : Nat) : Piece := ⟨[Char.ofNat code], more⟩

/-- The ASCII character of a byte. -/
def ascii (b : UInt8) : Piece := ofCode b.toNat 0

/-- Bytes that cannot be read. -/
def unreadable (more : Nat) : Piece := ofChar? none more

/-- A text, read piece by piece. -/
def readAll (front : UInt8 → Bytes → Piece) (s : Bytes) : List Char :=
  match s with
  | [] => []
  | a :: rest => (front a rest).chars ++ readAll front (rest.drop (front a rest).more)
termination_by s.length
decreasing_by simp only [List.length_drop, List.length_cons]; omega

end Piece

/-! ### Tables -/

/-- The number at a place of the numbers that ascending `taken` ones leave
out, from `first` on. -/
def leftOut (taken : List Nat) (first place : Nat) : Nat :=
  taken.foldl (fun n t => if t ≤ n then n + 1 else n) (first + place)

/-- The image of a number under runs, each of which maps its first number
and all that follow in order. -/
def alongRuns (runs : List (Nat × Nat)) (n : Nat) : Nat :=
  runs.foldl (fun found r => if r.1 ≤ n then r.2 + (n - r.1) else found) 0

end Quartz.Charset
