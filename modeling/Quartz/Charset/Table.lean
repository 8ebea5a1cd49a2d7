/-!
# `Quartz.Charset.Table`: characters in rows of cells

The double-byte sets are tables of characters, and each row is written as a
text. A blank stands for an unassigned cell, and a row may be shorter than
its cells. Characters often follow in the order of their codes. An ASCII
character from the digits on says how many codes the character in its cell
lies behind the one before it. The ASCII marks below the digits add to that
and have no cell of their own.
-/

set_option autoImplicit false

namespace Quartz.Charset.Table

/-- How far a character goes that stands for the next one. -/
def step? (c : Char) : Option Nat :=
  if '0' ≤ c ∧ c ≤ '~' then some (c.toNat - 47) else none

/-- How far a mark goes. -/
def jump? (c : Char) : Option Nat :=
  if '!' ≤ c ∧ c < '0' then some (75 * (c.toNat - 32)) else none

/-- The cells of a row behind a code. -/
def cellsBehind (code : Nat) : List Char → List (Option Char)
  | [] => []
  | c :: rest =>
    match step? c, jump? c with
    | some n, _ => some (Char.ofNat (code + n)) :: cellsBehind (code + n) rest
    | none, some n => cellsBehind (code + n) rest
    | none, none =>
      if c = ' ' then none :: cellsBehind code rest else some c :: cellsBehind c.toNat rest

/-- The cells of a row. -/
def cells (row : String) : List (Option Char) := cellsBehind 0 row.toList

/-- The character at a row and a cell, both counted from zero. -/
def char? (rows : List String) (row cell : Nat) : Option Char :=
  (cells (rows.getD row ""))[cell]?.join

end Quartz.Charset.Table
