import Quartz.Yaml.Cursor

/-!
# `Quartz.Yaml.Scalar.Plain`: texts without quotes

A plain scalar is a run of words. It ends at a colon behind which a word
ends, at a comment, at a mark between documents, inside brackets also at
the marks of brackets, and outside of them at a line that is not indented
far enough.
-/

set_option autoImplicit false

namespace Quartz.Yaml

/-- A character that ends a plain scalar inside brackets. -/
def endsFlow (c : Char) : Bool := [',', '?', '[', ']', '\x7b', '\x7d'].contains c

/-- A character that cannot start a plain scalar, whatever follows it. -/
def isIndicator (c : Char) : Bool :=
  [',', '[', ']', '\x7b', '\x7d', '#', '&', '*', '!', '|', '>', '\'', '"', '%', '@',
    '\x60'].contains c

/-- Whether a plain scalar starts with a character and what follows it. A
dash needs something else than a blank behind it; a question mark and a
colon start one only outside of brackets, before a character of the same
word. -/
def startsPlain (flow : Bool) (c : Char) (rest : List Char) : Bool :=
  if isBlank c || isBreak c then false
  else if c = '-' then !rest.head?.any isBlank
  else if c = '?' || c = ':' then !flow && !endsWord rest.head?
  else !isIndicator c

/-- The word at the front of a text. -/
def plainWord (flow : Bool) : List Char → List Char
  | [] => []
  | c :: rest =>
    if isBlank c || isBreak c || (c = ':' && endsWord rest.head?) || (flow && endsFlow c) then []
    else c :: plainWord flow rest

/-- A plain scalar that goes on behind a gap: its text, whether a line
break stands behind it, and the cursor there. Every step takes a character,
so a step more than there are characters is enough. -/
def plainFrom (flow : Bool) (indent : Nat) (start : Mark) :
    Nat → Gap → Cursor → Except Problem (List Char × Bool × Cursor)
  | 0, gap, c => .ok ([], gap.broken, c)
  | steps + 1, gap, c =>
    if c.atDocumentMark || c.next = some '#' then .ok ([], gap.broken, c)
    else
      let word := plainWord flow c.rest
      let behind := c.skip word.length
      let text := if word = [] then [] else gap.text ++ word
      let gap := if word = [] then gap else {}
      if !behind.next.any fun d => isBlank d || isBreak d then .ok (text, gap.broken, behind)
      else
        let (gap, onward) := behind.gap indent gap
        if onward.next = some '\t' then .error (.inToken .tabInPlain start onward.mark)
        else if !flow && onward.mark.column < indent then .ok (text, gap.broken, onward)
        else
          (plainFrom flow indent start steps gap onward).map fun p => (text ++ p.1, p.2)

/-- The plain scalar at a cursor, whose later lines reach at least to a
column. -/
def plain (flow : Bool) (indent : Nat) (c : Cursor) :
    Except Problem (List Char × Bool × Cursor) :=
  plainFrom flow indent c.mark (c.rest.length + 1) {} c

end Quartz.Yaml
