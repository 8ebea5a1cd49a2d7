import Quartz.Text.Utf8

/-!
# `Quartz.Source.Position`: lines and columns

A byte offset of a source is shown as a line and a column, both counted
from one. A column counts characters, so a character of several bytes is
one column wide.
-/

set_option autoImplicit false

namespace Quartz

/-- A place in a source. Line zero is no place. -/
structure Position where
  line : Nat
  column : Nat
  deriving DecidableEq, Repr

namespace Position

/-- What stands behind the last line break of a text. -/
def lastLine (s : Bytes) : Bytes := (s.reverse.takeWhile (· ≠ Bytes.newline)).reverse

/-- The place of a byte offset. One beyond the end is the end; a negative
one is no place. -/
def ofOffset (source : Bytes) (offset : Int) : Position :=
  if offset < 0 then ⟨0, 0⟩
  else
    let before := source.take offset.toNat
    ⟨before.count Bytes.newline + 1, (lastLine before).runeCount + 1⟩

end Position

end Quartz
