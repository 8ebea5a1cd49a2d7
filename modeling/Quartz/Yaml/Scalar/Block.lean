import Quartz.Yaml.Cursor

/-!
# `Quartz.Yaml.Scalar.Block`: texts in lines of their own

A block scalar starts with a header: a bar keeps the line breaks, an angle
folds them. Behind it may stand how many blanks the lines are indented and
what becomes of the line breaks at the end. Without a number the first line
that is not empty tells the indent.
-/

set_option autoImplicit false

namespace Quartz.Yaml

/-- What becomes of the line breaks at the end of a block scalar. -/
inductive Chomping where
  | strip
  | clip
  | keep
  deriving DecidableEq, Repr

/-- The header of a block scalar. An indent of zero is not given. -/
structure BlockHeader where
  chomping : Chomping := .clip
  indent : Nat := 0
  deriving DecidableEq, Repr

namespace BlockHeader

/-- The sign for the line breaks at the end, if it stands here. -/
def withSign (h : BlockHeader) (c : Cursor) : BlockHeader × Cursor :=
  if c.next = some '+' then ({ h with chomping := .keep }, c.skip 1)
  else if c.next = some '-' then ({ h with chomping := .strip }, c.skip 1)
  else (h, c)

/-- The number of blanks, if it stands here. -/
def withIndent (start : Mark) (h : BlockHeader) (c : Cursor) :
    Except Problem (BlockHeader × Cursor) :=
  match c.next with
  | some d =>
    if d = '0' then .error (.inToken .indentOfZero start c.mark)
    else if d.isDigit then .ok ({ h with indent := d.toNat - 48 }, c.skip 1)
    else .ok (h, c)
  | none => .ok (h, c)

/-- The header at a cursor, and the cursor on the next line. The sign and
the number stand in either order, with a comment behind them. -/
def read (start : Mark) (c : Cursor) : Except Problem (BlockHeader × Cursor) := do
  let (h, behind) ←
    if c.next.any Char.isDigit then (withIndent start {} c).map fun p => p.1.withSign p.2
    else
      let (h, behind) := withSign {} c
      if h.chomping = .clip then .ok (h, behind) else withIndent start h behind
  let blank := behind.skipBlanks
  let last := if blank.next = some '#' then blank.skipLine else blank
  if endsLine last.next then return (h, last.takeBreak.2)
  else .error (.inToken .textBehindHeader start last.mark)

end BlockHeader

/-- The cursor behind the blanks of an indent. An indent of zero takes all
of them. -/
def skipIndent (indent : Nat) (c : Cursor) : Cursor :=
  let blanks := (c.rest.takeWhile (· = ' ')).length
  c.skip (if indent = 0 then blanks else min blanks (indent - c.mark.column))

/-- The empty lines at a cursor: their breaks, the widest indent among them
and the line behind them, and the cursor there. Every step takes a line, so
a step more than there are characters is enough. -/
def emptyLines (start : Mark) (indent : Nat) :
    Nat → Cursor → Except Problem (List Char × Nat × Cursor)
  | 0, c => .ok ([], c.mark.column, c)
  | steps + 1, c =>
    let behind := skipIndent indent c
    let inIndent := indent = 0 || behind.mark.column < indent
    if inIndent && behind.next = some '\t' then .error (.inToken .tabInBlock start behind.mark)
    else if !behind.next.any isBreak then .ok ([], behind.mark.column, behind)
    else
      let (line, after) := behind.takeBreak
      (emptyLines start indent steps after).map fun p =>
        (line ++ p.1, max behind.mark.column p.2.1, p.2.2)

/-- The lines of a block scalar, from a cursor behind some empty lines:
their text, the break behind the last of them, the breaks behind that, and
the cursor there. A folded break between two lines that start with words
becomes a blank, or nothing before empty lines. -/
def blockLines (literal : Bool) (start : Mark) (indent : Nat) :
    Nat → (afterBlank : Bool) → (line more : List Char) → Cursor →
      Except Problem (List Char × List Char × List Char × Cursor)
  | 0, _, line, more, c => .ok ([], line, more, c)
  | steps + 1, afterBlank, line, more, c =>
    if c.mark.column ≠ indent || c.rest.isEmpty then .ok ([], line, more, c)
    else do
      let blank := c.next.any isBlank
      let folds := !literal && !afterBlank && !blank && line = ['\n']
      let joint := if folds then (if more = [] then [' '] else []) else line
      let (words, behind) := c.span fun d => !isBreak d
      let (line, after) := behind.takeBreak
      let (breaks, _, after) ← emptyLines start indent (after.rest.length + 1) after
      let (text, line, breaks, last) ← blockLines literal start indent steps blank line breaks after
      return (joint ++ more ++ words ++ text, line, breaks, last)

/-- The block scalar at a cursor, in a block whose content starts at a
column. -/
def blockScalar (inside : Nat) (c : Cursor) : Except Problem (List Char × Cursor) := do
  let start := c.mark
  let (header, first) ← BlockHeader.read start (c.skip 1)
  let given := if header.indent = 0 then 0 else (inside - 1) + header.indent
  let (breaks, widest, first) ← emptyLines start given (first.rest.length + 1) first
  let indent := if given = 0 then max (max widest inside) 1 else given
  let (text, line, more, last) ←
    blockLines (c.next = some '|') start indent (first.rest.length + 1) false [] breaks first
  let tail := match header.chomping with
    | .strip => []
    | .clip => line
    | .keep => line ++ more
  return (text ++ tail, last)

end Quartz.Yaml
