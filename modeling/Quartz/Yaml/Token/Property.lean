import Quartz.Yaml.Cursor
import Quartz.Yaml.Text
import Quartz.Yaml.Token.Basic

/-!
# `Quartz.Yaml.Token.Property`: anchors, tags and directives

An anchor gives a node a name and an alias stands for the node with it. A
tag names the type of a node, in full between angles or by a handle and a
suffix. A directive before a document tells its version or what a handle
stands for.
-/

set_option autoImplicit false

namespace Quartz.Yaml

/-- Characters as bytes. -/
def bytesOf (l : List Char) : Bytes := l.flatMap String.utf8EncodeChar

/-! ### Anchors and aliases -/

/-- The name behind the mark of an anchor or an alias, and the cursor behind
it. -/
def anchorName (c : Cursor) : Except Problem (Bytes × Cursor) :=
  let (name, behind) := (c.skip 1).span isNameChar
  let ends := endsWord behind.next ||
    behind.next.any fun d => ['?', ':', ',', ']', '\x7d', '%', '@', '\x60'].contains d
  if name = [] || !ends then .error (.inToken .anchorName c.mark behind.mark)
  else .ok (bytesOf name, behind)

/-! ### Tags -/

/-- A character that may stand in the name of a tag. -/
def isUriChar (c : Char) : Bool :=
  isNameChar c ||
    [';', '/', '?', ':', '@', '&', '=', '+', '$', ',', '.', '!', '~', '*', '\'', '(', ')', '[', ']',
      '%'].contains c

/-- The byte that a percent sign and two digits stand for. -/
def uriByte? (l : List Char) : Option UInt8 :=
  match l with
  | '%' :: a :: b :: _ => do return (16 * (← hexValue? a) + (← hexValue? b)).toUInt8
  | _ => none

/-- The later bytes of a character that is written with percent signs. -/
def uriTrail (start : Mark) : Nat → Cursor → Except Problem (Bytes × Cursor)
  | 0, c => .ok ([], c)
  | n + 1, c =>
    match uriByte? c.rest with
    | none => .error ((Problem.inToken .uriOctet start c.mark).reaching 2)
    | some b =>
      if b < 0x80 || 0xC0 ≤ b then .error (.inToken .uriTrailingOctet start c.mark)
      else (uriTrail start n (c.skip 3)).map fun p => (b :: p.1, p.2)

/-- A character that is written with percent signs. -/
def uriEscape (start : Mark) (c : Cursor) : Except Problem (Bytes × Cursor) :=
  match uriByte? c.rest with
  | none => .error ((Problem.inToken .uriOctet start c.mark).reaching 2)
  | some b =>
    match Encoding.width? b with
    | none => .error (.inToken .uriLeadingOctet start c.mark)
    | some width => (uriTrail start (width - 1) (c.skip 3)).map fun p => (b :: p.1, p.2)

/-- The characters of a tag's name at a cursor. Every step takes a
character, so a step more than there are characters is enough. -/
def uriFrom (start : Mark) : Nat → Cursor → Except Problem (Bytes × Cursor)
  | 0, c => .ok ([], c)
  | steps + 1, c =>
    match c.next with
    | none => .ok ([], c)
    | some d =>
      if !isUriChar d then .ok ([], c)
      else do
        let (piece, behind) ← if d = '%' then uriEscape start c else .ok (bytesOf [d], c.skip 1)
        let (more, last) ← uriFrom start steps behind
        return (piece ++ more, last)

/-- The name of a tag behind some characters that belong to it already. -/
def uri (start : Mark) (head : Bytes) (c : Cursor) : Except Problem (Bytes × Cursor) := do
  let (name, behind) ← uriFrom start (c.rest.length + 1) c
  if head = [] && behind.mark.index = c.mark.index then .error (.inToken .tagSuffix start c.mark)
  else return (head.drop 1 ++ name, behind)

/-- The handle at a cursor: an exclamation mark, a name, and a second mark
if it is there. -/
def handle (start : Mark) (c : Cursor) : Except Problem (Bytes × Cursor) :=
  if c.next ≠ some '!' then .error (.inToken .tagMark start c.mark)
  else
    let (name, behind) := (c.skip 1).span isNameChar
    if behind.next = some '!' then .ok (bytesOf ('!' :: name ++ ['!']), behind.skip 1)
    else .ok (bytesOf ('!' :: name), behind)

/-- Whether a handle has its second mark. -/
def isClosedHandle (h : Bytes) : Bool := 1 < h.length && h.getLast? = some (Bytes.byte '!')

/-- A tag in full, between angles. -/
def verbatimTag (start : Mark) (c : Cursor) : Except Problem (Bytes × Bytes × Cursor) := do
  let (name, behind) ← uri start [] (c.skip 2)
  if behind.next = some '>' then return ([], name, behind.skip 1)
  else .error (.inToken .tagUnclosed start behind.mark)

/-- A tag by a handle and a suffix. A lone exclamation mark is a suffix
without a handle. -/
def shorthandTag (start : Mark) (c : Cursor) : Except Problem (Bytes × Bytes × Cursor) := do
  let bang := utf8 "!"
  let (h, behind) ← handle start c
  if isClosedHandle h then
    let (suffix, behind) ← uri start [] behind
    return (h, suffix, behind)
  else
    let (suffix, behind) ← uri start h behind
    return if suffix = [] then ([], bang, behind) else (bang, suffix, behind)

/-- The tag at a cursor: its handle and its suffix. -/
def tag (c : Cursor) : Except Problem (Bytes × Bytes × Cursor) := do
  let verbatim := (c.rest.drop 1).head? = some '<'
  let (h, suffix, behind) ← if verbatim then verbatimTag c.mark c else shorthandTag c.mark c
  if endsWord behind.next then return (h, suffix, behind)
  else .error (.inToken .tagEnd c.mark behind.mark)

/-! ### Directives -/

/-- A number of a version: one or two digits. -/
def versionNumber (start : Mark) (c : Cursor) : Except Problem (Nat × Cursor) :=
  let (digits, behind) := c.span Char.isDigit
  if digits = [] then .error (.inToken .noVersion start c.mark)
  else if 2 < digits.length then .error (.inToken .versionLong start c.mark)
  else .ok (Bytes.digitsValue (bytesOf digits), behind)

/-- The version behind the name of its directive. -/
def versionDirective (start : Mark) (c : Cursor) : Except Problem (TokenKind × Cursor) := do
  let (major, behind) ← versionNumber start c.skipBlanks
  if behind.next ≠ some '.' then .error (.inToken .versionPoint start behind.mark)
  else
    let (minor, behind) ← versionNumber start (behind.skip 1)
    return (.version major minor, behind)

/-- The handle and what it stands for behind the name of its directive. -/
def handleDirective (start : Mark) (c : Cursor) : Except Problem (TokenKind × Cursor) := do
  let (h, behind) ← handle start c.skipBlanks
  if h ≠ utf8 "!" && !isClosedHandle h then .error (.inToken .tagMark start behind.mark)
  else if !behind.next.any isBlank then .error (.inToken .noBlankInDirective start behind.mark)
  else
    let (name, behind) ← uri start [] behind.skipBlanks
    if endsWord behind.next then return (.handle h name, behind)
    else .error (.inToken .tagEnd start behind.mark)

/-- The directive at a cursor, and the cursor on the next line. -/
def directive (c : Cursor) : Except Problem (TokenKind × Cursor) := do
  let start := c.mark
  let (name, behind) := (c.skip 1).span isNameChar
  if name = [] then .error (.inToken .noDirective start behind.mark)
  else if !endsWord behind.next then .error (.inToken .directiveEnd start behind.mark)
  else
    let (kind, behind) ←
      if name = "YAML".toList then versionDirective start behind
      else if name = "TAG".toList then handleDirective start behind
      else .error (.inToken .unknownDirective start behind.mark)
    let blank := behind.skipBlanks
    let last := if blank.next = some '#' then blank.skipLine else blank
    if endsLine last.next then return (kind, last.takeBreak.2)
    else .error (.inToken .textBehindHeader start last.mark)

end Quartz.Yaml
