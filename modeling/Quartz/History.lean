import Quartz.Text.Lines
import Quartz.Text.Utf8

/-!
# `Quartz.History`: what was entered before

The history keeps the inputs of the prompt, the oldest first, up to a
limit. An input that repeats the one before it is not kept again. In its
file every input is a line.
-/

set_option autoImplicit false

namespace Quartz

namespace History

/-- The name of the history's file. -/
def fileName : Bytes := utf8 ".crystal_history"

/-- How many inputs are kept. -/
def limit : Nat := 1000

/-- The inputs with one more, without the oldest if they are too many. -/
def push (items : List Bytes) (item : Bytes) : List Bytes :=
  let items := items ++ [item]
  items.drop (items.length - limit)

/-- Keeps an input, unless it repeats the one before it. -/
def append (items : List Bytes) (item : Bytes) : List Bytes :=
  if items.getLast? = some item then items else push items item

/-- The inputs in a file. Reading stops at a line that is too long or no
valid text. -/
def read (contents : Bytes) : List Bytes :=
  ((Lines.pieces contents).takeWhile fun p => !p.cut && p.text.isUtf8).foldl
    (fun items p => push items p.text) []

/-- The contents of the history's file. -/
def write (items : List Bytes) : Bytes := items.flatMap fun i => i ++ [Bytes.newline]

end History

end Quartz
