import Quartz.Yaml.Flaw

/-!
# `Quartz.Yaml.Cursor`: a place in a text, and what stands there

A cursor is what is still to be read of a text, with its place. Line breaks
are counted here and nowhere else. A gap is a run of blanks and line breaks
between two words of a scalar; folding turns it into the text that it stands
for.
-/

set_option autoImplicit false

namespace Quartz.Yaml

/-- A blank inside a line. -/
def isBlank (c : Char) : Bool := c = ' ' || c = '\t'

/-- The two line breaks that a text keeps as they are. -/
def isSeparator (c : Char) : Bool := c.toNat = 0x2028 || c.toNat = 0x2029

/-- A character that ends a line. -/
def isBreak (c : Char) : Bool := c = '\r' || c = '\n' || c.toNat = 0x85 || isSeparator c

/-- A character of names: a letter, a digit, a dash or a low line. -/
def isNameChar (c : Char) : Bool := c.isAlphanum || c = '_' || c = '-'

/-- Whether a line ends here. The end of the text ends it too. -/
def endsLine (c : Option Char) : Bool := c.all isBreak

/-- Whether a word ends here. -/
def endsWord (c : Option Char) : Bool := c.all fun c => isBlank c || isBreak c

/-- The value of a hexadecimal digit. -/
def hexValue? (c : Char) : Option Nat :=
  if c.isDigit then some (c.toNat - 48)
  else if 'a' ≤ c && c ≤ 'f' then some (c.toNat - 87)
  else if 'A' ≤ c && c ≤ 'F' then some (c.toNat - 55)
  else none

/-- The character that a line break stands for. -/
def breakChar (c : Char) : Char := if isSeparator c then c else '\n'

namespace Mark

/-- The mark some characters further on in the line. -/
def along (m : Mark) (n : Nat) : Mark := ⟨m.index + n, m.line, m.column + n⟩

/-- The mark behind a line break of some characters. -/
def newLine (m : Mark) (n : Nat) : Mark := ⟨m.index + n, m.line + 1, 0⟩

end Mark

/-- What is still to be read, and where it stands. -/
structure Cursor where
  rest : List Char
  mark : Mark := {}
  deriving DecidableEq, Repr

namespace Cursor

/-- The character at a cursor. -/
def next (c : Cursor) : Option Char := c.rest.head?

/-- The cursor some characters further on in the line. -/
def skip (c : Cursor) (n : Nat) : Cursor := ⟨c.rest.drop n, c.mark.along n⟩

/-- The characters of a kind at a cursor, and the cursor behind them. -/
def span (c : Cursor) (p : Char → Bool) : List Char × Cursor :=
  let taken := c.rest.takeWhile p
  (taken, c.skip taken.length)

/-- The cursor behind the blanks at it. -/
def skipBlanks (c : Cursor) : Cursor := (c.span isBlank).2

/-- The cursor at the end of the line. -/
def skipLine (c : Cursor) : Cursor := (c.span fun d => !isBreak d).2

/-- The line break at a cursor as a text, and the cursor behind it. A return
and a newline are one break. -/
def takeBreak (c : Cursor) : List Char × Cursor :=
  match c.rest with
  | '\r' :: '\n' :: rest => (['\n'], ⟨rest, c.mark.newLine 2⟩)
  | d :: rest => if isBreak d then ([breakChar d], ⟨rest, c.mark.newLine 1⟩) else ([], c)
  | [] => ([], c)

/-- Whether a line starts here with a word of three characters. -/
def startsLine (c : Cursor) (word : String) : Bool :=
  c.mark.column = 0 && word.toList.isPrefixOf c.rest && endsWord (c.rest.drop 3).head?

/-- Whether a mark between documents stands here. -/
def atDocumentMark (c : Cursor) : Bool := c.startsLine "---" || c.startsLine "..."

end Cursor

/-- A run of blanks and line breaks. Blanks count only before the first
break, which is missing if it does not count itself. -/
structure Gap where
  blanks : List Char := []
  broken : Bool := false
  first : Option Char := none
  more : List Char := []
  deriving DecidableEq, Repr

namespace Gap

/-- The gap with a blank more. -/
def withBlank (g : Gap) (c : Char) : Gap :=
  if g.broken then g else { g with blanks := g.blanks ++ [c] }

/-- The gap with a break more. -/
def withBreak (g : Gap) (c : Char) : Gap :=
  if g.broken then { g with more := g.more ++ [c] } else { g with broken := true, first := some c }

/-- The text that a gap stands for. A single newline is folded into a
blank, and the first of several is dropped. -/
def text (g : Gap) : List Char :=
  if !g.broken then g.blanks
  else
    match g.first with
    | none => g.more
    | some c => if c ≠ '\n' then c :: g.more else if g.more = [] then [' '] else g.more

/-- Goes on with a gap. It stops at a tab that stands before a column in a
later line. -/
def extend (indent : Nat) (g : Gap) : List Char → Mark → Gap × Cursor
  | '\r' :: '\n' :: rest, m => (g.withBreak '\n').extend indent rest (m.newLine 2)
  | c :: rest, m =>
    if isBlank c then
      if g.broken && c = '\t' && m.column < indent then (g, ⟨c :: rest, m⟩)
      else (g.withBlank c).extend indent rest (m.along 1)
    else if isBreak c then (g.withBreak (breakChar c)).extend indent rest (m.newLine 1)
    else (g, ⟨c :: rest, m⟩)
  | [], m => (g, ⟨[], m⟩)

end Gap

/-- The gap at a cursor, and the cursor behind it. -/
def Cursor.gap (c : Cursor) (indent : Nat) (g : Gap) : Gap × Cursor :=
  g.extend indent c.rest c.mark

end Quartz.Yaml
