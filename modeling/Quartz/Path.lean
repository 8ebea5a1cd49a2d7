import Quartz.Text.Bytes

/-!
# `Quartz.Path`: slash-separated paths

`Path.clean` gives the shortest path that means the same without looking at
a file system: no empty or `.` elements, and `..` only in front, where
nothing is left to cancel. The empty path is `.`.

`Path.ofHost` turns a path as a person writes it, backslashes included,
into a path below the root of a volume.
-/

set_option autoImplicit false

namespace Quartz

namespace Path

/-- What separates the elements of a path. -/
def slash : UInt8 := Bytes.byte '/'

/-- The path of the directory at hand. -/
def here : Bytes := utf8 "."

/-- The element that leads to the directory above. -/
def above : Bytes := utf8 ".."

/-- Puts an element on the elements before it, which are in reverse. Above
the root there is only the root. -/
def pushElement (rooted : Bool) (stack : List Bytes) (element : Bytes) : List Bytes :=
  if element = [] ∨ element = here then stack
  else if element = above then
    match stack with
    | top :: below => if top = above then above :: top :: below else below
    | [] => if rooted then [] else [above]
  else element :: stack

/-- The elements of a path without those that cancel. -/
def elements (rooted : Bool) (p : Bytes) : List Bytes :=
  ((Bytes.splitOn slash p).foldl (pushElement rooted) []).reverse

/-- Whether a path starts at the root. -/
def isRooted (p : Bytes) : Bool := p.head? = some slash

/-- The shortest path with the same meaning. -/
def clean (p : Bytes) : Bytes :=
  let rooted := isRooted p
  let joined := Bytes.join [slash] (elements rooted p)
  if rooted then slash :: joined else if joined = [] then here else joined

/-- Two paths one behind the other. -/
def join (p q : Bytes) : Bytes :=
  if p = [] then (if q = [] then [] else clean q) else clean (p ++ slash :: q)

/-- What stands behind the last slash. -/
def afterSlash (p : Bytes) : Bytes := (p.reverse.takeWhile (· ≠ slash)).reverse

/-- What stands up to and with the last slash. -/
def toSlash (p : Bytes) : Bytes := (p.reverse.dropWhile (· ≠ slash)).reverse

/-- The directory part of a path. -/
def directory (p : Bytes) : Bytes := clean (toSlash p)

/-- The last element of a path. -/
def base (p : Bytes) : Bytes :=
  if p = [] then here
  else
    let name := afterSlash (Bytes.trimEnd (· = slash) p)
    if name = [] then [slash] else name

/-- The extension of a path: from the last point of its last element on. -/
def extension (p : Bytes) : Bytes :=
  let name := afterSlash p
  let point := Bytes.byte '.'
  if name.contains point then
    point :: (name.reverse.takeWhile (· ≠ point)).reverse
  else []

/-- A path as a person writes it as a path below a root: backslashes
separate too, and separators in front mean nothing. -/
def ofHost (name : Bytes) : Bytes :=
  clean ((Bytes.replace (Bytes.byte '\\') slash name).dropWhile (· = slash))

/-- What a path adds to a directory that it lies in. Every path lies in the
root. -/
def below? (dir p : Bytes) : Option Bytes :=
  if dir = here then some p
  else if (dir ++ [slash]).isPrefixOf p then some (p.drop (dir.length + 1))
  else none

end Path

end Quartz
