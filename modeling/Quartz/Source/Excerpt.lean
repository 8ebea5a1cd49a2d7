import Quartz.Source.Position

/-!
# `Quartz.Source.Excerpt`: the lines around a place

An excerpt shows the line of a place with up to two lines before and after
it. Line numbers are aligned to the right, the line itself is marked, and a
caret below it stands under the column.
-/

set_option autoImplicit false

namespace Quartz

namespace Excerpt

/-- How many lines are shown on each side. -/
def margin : Nat := 2

/-- A carriage return, which is dropped at the end of a shown line. -/
def isReturn (b : UInt8) : Bool := b = 13

/-- One row: a mark, a gutter and a text. -/
def row (mark : String) (gutter text : Bytes) : Bytes :=
  utf8 mark ++ gutter ++ utf8 " | " ++ text ++ [Bytes.newline]

/-- A line with its number, and the caret below it if it is the marked
one. -/
def rows (width : Nat) (p : Position) (number : Nat) (line : Bytes) : Bytes :=
  let gutter := Bytes.padStart width (Bytes.ofNat number)
  let text := Bytes.trimEnd isReturn line
  if number = p.line then
    row "> " gutter text ++
      row "  " (Bytes.padStart width [])
        (List.replicate (p.column - 1) (Bytes.byte ' ') ++ [Bytes.byte '^'])
  else row "  " gutter text

/-- The excerpt around a place. There is none for an empty source or for a
place outside it. -/
def around (source : Bytes) (p : Position) : Bytes :=
  let lines := Bytes.splitOn Bytes.newline source
  if source = [] ∨ p.line = 0 ∨ lines.length < p.line then []
  else
    let start := p.line - 1 - margin
    let stop := min (p.line + margin) lines.length
    let width := (Bytes.ofNat stop).length
    let shown := (lines.take stop).drop start
    (shown.mapIdx fun i line => rows width p (start + i + 1) line).flatten

end Excerpt

end Quartz
