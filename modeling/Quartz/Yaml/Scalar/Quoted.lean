import Quartz.Yaml.Cursor

/-!
# `Quartz.Yaml.Scalar.Quoted`: texts in quotes

In single quotes only the quote itself is special, and is written twice. In
double quotes a backslash starts an escape, and one at the end of a line
joins it to the next line. Line breaks are folded in both.
-/

set_option autoImplicit false

namespace Quartz.Yaml

/-- What the character behind a backslash stands for. -/
inductive Escape where
  | char (c : Char)
  | code (digits : Nat)
  deriving DecidableEq, Repr

namespace Escape

/-- The escapes that stand for one character, by the character behind the
backslash. -/
def table : List (Char × Nat) :=
  [('0', 0), ('a', 7), ('b', 8), ('t', 9), ('\t', 9), ('n', 10), ('v', 11), ('f', 12), ('r', 13),
    ('e', 27), (' ', 32), ('"', 34), ('\'', 39), ('\\', 92), ('N', 0x85), ('_', 0xA0),
    ('L', 0x2028), ('P', 0x2029)]

/-- The escape that a character names. -/
def of? (c : Char) : Option Escape :=
  if c = 'x' then some (.code 2)
  else if c = 'u' then some (.code 4)
  else if c = 'U' then some (.code 8)
  else (table.lookup c).map fun n => .char (Char.ofNat n)

/-- The number that hexadecimal digits spell. -/
def hex? (digits : List Char) : Option Nat :=
  digits.foldlM (fun n c => (hexValue? c).map (16 * n + ·)) 0

/-- The character with a code point, if there is one. -/
def char? (n : Nat) : Option Char :=
  if (0xD800 ≤ n && n ≤ 0xDFFF) || 0x10FFFF < n then none else some (Char.ofNat n)

/-- The escape behind a backslash: its character, and the cursor behind
it. -/
def read (start : Mark) (c : Cursor) : Except Problem (Char × Cursor) :=
  match (c.rest.drop 1).head?.bind of? with
  | none => .error ((Problem.inToken .unknownEscape start c.mark).reaching 1)
  | some (.char d) => .ok (d, c.skip 2)
  | some (.code n) =>
    let behind := c.skip 2
    let digits := behind.rest.take n
    let value := if digits.length = n then hex? digits else none
    match value, value.bind char? with
    | none, _ => .error ((Problem.inToken .noHexDigits start behind.mark).reaching (n - 1))
    | _, none => .error (.inToken .escapedNoCharacter start behind.mark)
    | _, some d => .ok (d, behind.skip n)

end Escape

/-- A text behind its opening quote, and the cursor behind the closing one.
Every step takes a character, so a step more than there are characters is
enough. -/
def quotedFrom (double : Bool) (start : Mark) : Nat → Cursor → Except Problem (List Char × Cursor)
  | 0, c => .error (.inToken .endInQuotes start c.mark)
  | steps + 1, c =>
    let onward (piece : List Char) (behind : Cursor) : Except Problem (List Char × Cursor) :=
      (quotedFrom double start steps behind).map fun p => (piece ++ p.1, p.2)
    if c.atDocumentMark then .error ((Problem.inToken .documentInQuotes start c.mark).reaching 3)
    else
      match c.rest with
      | [] => .error (.inToken .endInQuotes start c.mark)
      | d :: rest =>
        if isBlank d || isBreak d then
          let (gap, behind) := c.gap 0 {}
          onward gap.text behind
        else if double then
          if d = '"' then .ok ([], c.skip 1)
          else if d ≠ '\\' then onward [d] (c.skip 1)
          else if rest.head?.any isBreak then
            let (gap, behind) := (c.skip 1).takeBreak.2.gap 0 { broken := true }
            onward gap.text behind
          else
            match Escape.read start c with
            | .error p => .error p
            | .ok (e, behind) => onward [e] behind
        else if d ≠ '\'' then onward [d] (c.skip 1)
        else if rest.head? = some '\'' then onward [d] (c.skip 2)
        else .ok ([], c.skip 1)

/-- The text in quotes at a cursor. -/
def quoted (c : Cursor) : Except Problem (List Char × Cursor) :=
  quotedFrom (c.next = some '"') c.mark (c.rest.length + 1) (c.skip 1)

end Quartz.Yaml
