import Quartz.Yaml.Scalar.Block
import Quartz.Yaml.Scalar.Plain
import Quartz.Yaml.Scalar.Quoted
import Quartz.Yaml.Token.Property

/-!
# `Quartz.Yaml.Token.Scan`: from characters to tokens

Blocks are known by the columns at which they start. A key without a mark
of its own is known only by the colon behind it, so a place where a key may
start is remembered until a colon comes or cannot come any more; the tokens
for the key are then put in there.

A token is given out once two more are known, and once it is clear whether
a key starts with it. So a flaw hides the last tokens before it, and what
they would have led to is not found.
-/

set_option autoImplicit false

namespace Quartz.Yaml

/-- A place where a key may start, or could have started: the number of its
first token, its mark, whether nothing else can stand there, and whether a
colon can still make it one. -/
structure KeyPlace where
  number : Nat := 0
  mark : Mark := {}
  required : Bool := false
  possible : Bool := false
  deriving DecidableEq, Repr

namespace KeyPlace

/-- The longest key, in characters. -/
def maxLength : Nat := 1024

/-- Whether a colon at a mark comes too late for the key. -/
def isPast (k : KeyPlace) (m : Mark) : Bool :=
  k.mark.line < m.line || k.mark.index + maxLength < m.index

/-- The place after a look at it from a mark: a key that its colon cannot
reach any more is none, and one that had to be a key is missed. -/
def look (k : KeyPlace) (m : Mark) : Except Problem KeyPlace :=
  if !(k.possible && k.isPast m) then .ok k
  else if k.required then .error (.inToken .missingColon k.mark m)
  else .ok { k with possible := false }

end KeyPlace

/-- A text read up to a place. Tokens stand latest first, and so do the
columns of the blocks that are open. There is a place for a key in the
innermost brackets and one for each level around them, up to the one outside
of all. A token that may start a key waits, with the number of its level,
and the tokens before the first that is waited for are given out. -/
structure Scan where
  cursor : Cursor
  flaw : Option Flaw := none
  tokens : List Token := []
  count : Nat := 0
  given : Nat := 0
  columns : List Nat := []
  keyAllowed : Bool := true
  place : KeyPlace := {}
  outer : List KeyPlace := []
  waiting : List (Nat × Nat) := []

namespace Scan

/-- Whether the place is inside brackets. -/
def inFlow (s : Scan) : Bool := !s.outer.isEmpty

/-- The least column inside the innermost block. -/
def inside (s : Scan) : Nat := s.columns.head?.elim 0 (· + 1)

/-- The mark of the place. -/
def mark (s : Scan) : Mark := s.cursor.mark

/-- How many characters are looked at before a token is read. -/
def lookahead : Nat := 4

/-- A flaw at the place. -/
def flawHere (s : Scan) (f : Flaw) : Problem :=
  (Problem.inToken f s.mark s.mark).reaching (lookahead - 1)

/-- Adds a token. -/
def push (s : Scan) (kind : TokenKind) (m : Mark) : Scan :=
  { s with tokens := ⟨kind, m⟩ :: s.tokens, count := s.count + 1 }

/-- Puts a token before the one with a number, or last if that one is given
out. -/
def insert (s : Scan) (number : Nat) (kind : TokenKind) (m : Mark) : Scan :=
  let later := if number < s.given then 0 else s.count - number
  { s with
    tokens := s.tokens.take later ++ ⟨kind, m⟩ :: s.tokens.drop later, count := s.count + 1 }

/-- Adds the token of a mark of some characters and goes on behind it. -/
def pushMark (s : Scan) (kind : TokenKind) (length : Nat) : Scan :=
  { s.push kind s.mark with cursor := s.cursor.skip length }

/-! ### Blocks -/

/-- Ends the blocks that start behind a column; without one, all of them.
Brackets hide the blocks around them. -/
def endBlocks (s : Scan) (column : Option Nat) : Scan :=
  if s.inFlow then s
  else
    let ended := s.columns.takeWhile fun c => column.all (· < c)
    { s with
      tokens := ended.map (fun _ => ⟨.blockEnd, s.mark⟩) ++ s.tokens
      count := s.count + ended.length
      columns := s.columns.drop ended.length }

/-- Starts a block at a mark, unless one is open at its column. The token
goes before the one with a number. -/
def startBlock (s : Scan) (kind : TokenKind) (m : Mark) (number : Nat) : Except Problem Scan :=
  if s.inFlow || s.columns.head?.any (m.column ≤ ·) then .ok s
  else if maxDepth ≤ s.columns.length then
    .error (.inToken .tooDeep s.place.mark s.mark)
  else .ok ({ s with columns := m.column :: s.columns }.insert number kind m)

/-! ### Places for keys -/

/-- Waits no longer for a token. -/
def release (s : Scan) (number : Nat) : Scan :=
  { s with waiting := s.waiting.eraseP (·.1 = number) }

/-- Gives up the place for a key. One that had to be a key is missed. -/
def dropPlace (s : Scan) : Except Problem Scan :=
  if !s.place.possible then .ok s
  else if s.place.required then
    .error ((Problem.inToken .missingColon s.place.mark s.mark).reaching (lookahead - 1))
  else .ok { s.release s.place.number with place := { s.place with possible := false } }

/-- Remembers the place for a key, where one may start. At the column of the
block only a key can stand. -/
def savePlace (s : Scan) : Except Problem Scan :=
  if s.keyAllowed then do
    let required := !s.inFlow && s.columns.head? = some s.mark.column
    let kept ← s.dropPlace
    return { kept with
      place := ⟨s.count, s.mark, required, true⟩
      waiting := (s.count, s.outer.length) :: kept.waiting }
  else .ok s

/-- Changes the place for a key that stands some levels further out. -/
def setPlace (s : Scan) (further : Nat) (k : KeyPlace) : Scan :=
  match further with
  | 0 => { s with place := k }
  | n + 1 => { s with outer := s.outer.set n k }

/-- Whether the next token can be given out, and the places after the look
at its own. A token is still waited for when another key has taken the
place of its level. -/
def settled (s : Scan) : Except Problem (Bool × Scan) :=
  match s.waiting.lookup s.given with
  | none => .ok (true, s)
  | some level =>
    let further := s.outer.length - level
    match if s.outer.length < level then none else (s.place :: s.outer)[further]? with
    | none => .ok (true, s)
    | some k =>
      match k.look s.mark with
      | .error p => .error p
      | .ok seen => .ok (!seen.possible, if seen = k then s else s.setPlace further seen)

/-- Whether the text is read to its end. -/
def isFinished (s : Scan) : Bool := s.tokens.head?.any (·.kind = .streamEnd)

/-- How many tokens are known when one is given out. Behind the end of the
text there are always enough. -/
def window (s : Scan) : Nat := if s.isFinished then 1 else 3

/-- Gives out tokens as far as possible. A problem comes with the tokens
before it. Every step gives out one, so a step more than there are is
enough. -/
def giveOut : Nat → Scan → Except (Scan × Problem) Scan
  | 0, s => .ok s
  | steps + 1, s =>
    if s.count < s.given + s.window then .ok s
    else
      match s.settled with
      | .error p => .error (s, p)
      | .ok (false, s) => .ok s
      | .ok (true, s) => giveOut steps { s with given := s.given + 1 }

/-! ### Between tokens -/

/-- The cursor behind a comment and those in the lines below it, at the end
of the last of them. Every step takes a comment, so a step more than there
are characters is enough. -/
def skipComments : Nat → Cursor → Cursor
  | 0, c => c
  | steps + 1, c =>
    let last := c.skipLine
    let below := (last.gap 0 {}).2
    if below.next = some '#' then skipComments steps below else last

/-- Goes on to the next token. A tab is no blank where a key may start
outside of brackets. A new line may start with a key there. Every step takes
a character, so a step more than there are characters is enough. -/
def skipToToken : Nat → Scan → Scan
  | 0, s => s
  | steps + 1, s =>
    let isMark := s.mark.column = 0 && s.cursor.next.any (·.toNat = 0xFEFF)
    let c := if isMark then s.cursor.skip 1 else s.cursor
    let tabs := s.inFlow || !s.keyAllowed
    let c := (c.span fun d => d = ' ' || (tabs && d = '\t')).2
    let c := if c.next = some '#' then skipComments (c.rest.length + 1) c else c
    if c.next.any isBreak then
      skipToToken steps
        { s with cursor := c.takeBreak.2, keyAllowed := s.keyAllowed || !s.inFlow }
    else { s with cursor := c }

/-- Passes over a comment behind a token in the same line. -/
def skipComment (s : Scan) : Scan :=
  let c := s.cursor.skipBlanks
  if c.next = some '#' then { s with cursor := c.skipLine } else s

/-! ### Tokens -/

/-- The end of the text. -/
def finish (s : Scan) : Except Problem Scan := do
  let m := s.mark
  let final := if m.column = 0 then m else m.newLine 0
  let s ← ({ s with cursor := ⟨[], final⟩ }.endBlocks none).dropPlace
  return { s with keyAllowed := false }.push .streamEnd final

/-- A directive. -/
def takeDirective (s : Scan) : Except Problem Scan := do
  let s ← (s.endBlocks none).dropPlace
  let (kind, behind) ← directive s.cursor
  return { s.push kind s.mark with cursor := behind, keyAllowed := false }

/-- A mark between documents. -/
def takeDocumentMark (s : Scan) (kind : TokenKind) : Except Problem Scan := do
  let s ← (s.endBlocks none).dropPlace
  return { s with keyAllowed := false }.pushMark kind 3

/-- An opening bracket. -/
def takeOpening (s : Scan) (kind : TokenKind) : Except Problem Scan := do
  let s ← s.savePlace
  if maxDepth ≤ s.outer.length then .error (s.flawHere .tooDeep)
  else
    let place : KeyPlace := { number := s.count, mark := s.mark }
    return { s with outer := s.place :: s.outer, place, keyAllowed := true }.pushMark kind 1

/-- A closing bracket. -/
def takeClosing (s : Scan) (kind : TokenKind) : Except Problem Scan := do
  let s ← s.dropPlace
  let s := match s.outer with
    | place :: outer => { s.release s.place.number with place, outer }
    | [] => s
  return { s with keyAllowed := false }.pushMark kind 1

/-- A comma between brackets. -/
def takeComma (s : Scan) : Except Problem Scan := do
  let s ← s.dropPlace
  return { s with keyAllowed := true }.pushMark .comma 1

/-- The dash before an item. -/
def takeItem (s : Scan) : Except Problem Scan := do
  if !s.inFlow && !s.keyAllowed then .error (s.flawHere .misplacedItem)
  else
    let s ← s.startBlock .blockSequence s.mark s.count
    let s ← s.dropPlace
    return { s with keyAllowed := true }.pushMark .item 1

/-- The question mark before a key. -/
def takeKey (s : Scan) : Except Problem Scan := do
  if !s.inFlow && !s.keyAllowed then .error (s.flawHere .misplacedKey)
  else
    let s ← s.startBlock .blockMapping s.mark s.count
    let s ← s.dropPlace
    return { s with keyAllowed := !s.inFlow }.pushMark .key 1

/-- The colon before a value. It makes what stands at the place for a key a
key. -/
def takeValue (s : Scan) : Except Problem Scan := do
  let k ← s.place.look s.mark
  let s := { s with place := { k with possible := false } }
  if k.possible then
    let s := (s.release k.number).insert k.number .key k.mark
    let s ← s.startBlock .blockMapping k.mark k.number
    return { s with keyAllowed := false }.pushMark .value 1
  else if !s.inFlow && !s.keyAllowed then .error (s.flawHere .misplacedValue)
  else
    let s ← s.startBlock .blockMapping s.mark s.count
    return { s with keyAllowed := !s.inFlow }.pushMark .value 1

/-- An anchor or an alias. -/
def takeName (s : Scan) (kind : Bytes → TokenKind) : Except Problem Scan := do
  let s ← s.savePlace
  let (name, behind) ← anchorName s.cursor
  return { s.push (kind name) s.mark with cursor := behind, keyAllowed := false }

/-- A tag. -/
def takeTag (s : Scan) : Except Problem Scan := do
  let s ← s.savePlace
  let (h, suffix, behind) ← tag s.cursor
  return { s.push (.tag h suffix) s.mark with cursor := behind, keyAllowed := false }

/-- A block scalar. No line is left to have a comment. -/
def takeBlockScalar (s : Scan) : Except Problem Scan := do
  let s ← s.dropPlace
  let (text, behind) ← blockScalar s.inside s.cursor
  return { s.push (.scalar (bytesOf text) false) s.mark with cursor := behind, keyAllowed := true }

/-- A scalar in quotes. -/
def takeQuoted (s : Scan) : Except Problem Scan := do
  let s ← s.savePlace
  let (text, behind) ← quoted s.cursor
  return { s.push (.scalar (bytesOf text) false) s.mark with cursor := behind, keyAllowed := false }

/-- A plain scalar. A line break behind it makes room for a key. -/
def takePlain (s : Scan) : Except Problem Scan := do
  let s ← s.savePlace
  let (text, broken, behind) ← plain s.inFlow s.inside s.cursor
  let s := s.push (.scalar (bytesOf text) true) s.mark
  let s := { s with cursor := behind, keyAllowed := broken }
  return if broken then s else s.skipComment

/-- The token that starts with a character. -/
def takeToken (s : Scan) (c : Char) (rest : List Char) : Except Problem Scan :=
  let ends := endsWord rest.head?
  if c = '[' then (s.takeOpening .sequenceStart).map skipComment
  else if c = '\x7b' then (s.takeOpening .mappingStart).map skipComment
  else if c = ']' then (s.takeClosing .sequenceEnd).map skipComment
  else if c = '\x7d' then (s.takeClosing .mappingEnd).map skipComment
  else if c = ',' then s.takeComma.map skipComment
  else if c = '-' && ends then s.takeItem
  else if c = '?' && (s.inFlow || ends) then s.takeKey.map skipComment
  else if c = ':' && (s.inFlow || ends) then s.takeValue.map skipComment
  else if c = '*' then (s.takeName .alias).map skipComment
  else if c = '&' then (s.takeName .anchor).map skipComment
  else if c = '!' then s.takeTag.map skipComment
  else if (c = '|' || c = '>') && !s.inFlow then s.takeBlockScalar
  else if c = '\'' || c = '"' then s.takeQuoted.map skipComment
  else if startsPlain s.inFlow c rest then s.takePlain
  else .error (s.flawHere .noToken)

/-- The token at the place, or the end of the text. -/
def takeNext (s : Scan) : Except Problem Scan :=
  match s.cursor.rest with
  | [] => s.finish
  | c :: rest =>
    if s.mark.column = 0 && c = '%' then s.takeDirective
    else if s.cursor.startsLine "---" then s.takeDocumentMark .documentStart
    else if s.cursor.startsLine "..." then s.takeDocumentMark .documentEnd
    else s.takeToken c rest

/-- Reads the next token, and the starts and ends of blocks before it. What
can only be told with the characters behind the text is not told if there
is a flaw. -/
def advance (s : Scan) : Except Problem Scan :=
  let size := s.mark.index + s.cursor.rest.length
  let s := skipToToken (s.cursor.rest.length + 1) s
  match s.flaw, (s.endBlocks (some s.mark.column)).takeNext with
  | none, result => result
  | some f, result =>
    let reach := match result with
      | .error p => p.reach
      | .ok later => later.mark.index + 1
    if size < max reach (s.mark.index + lookahead) then .error { flaw := f } else result

/-! ### The whole text -/

/-- The tokens that are given out. -/
def output (s : Scan) : List Token := s.tokens.reverse.take s.given

/-- Reads the tokens of a text up to its end or its first flaw. Every step
takes a character, so a step more than there are characters is enough. -/
def all : Nat → Scan → List Token × Option Problem
  | 0, s => (s.output, none)
  | steps + 1, s =>
    match s.advance with
    | .error p => (s.output, some p)
    | .ok later =>
      match later.giveOut (later.count + 1) with
      | .error (last, p) => (last.output, some p)
      | .ok later => if later.isFinished then (later.output, none) else all steps later

end Scan

/-- The tokens of a text that show before its first flaw, and that flaw. -/
def Text.tokens (t : Text) : List Token × Option Problem :=
  Scan.all (t.chars.length + 1) { cursor := ⟨t.chars, {}⟩, flaw := t.flaw }

end Quartz.Yaml
