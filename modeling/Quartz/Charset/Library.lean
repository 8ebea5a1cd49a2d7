import Quartz.Text.Blank
import Quartz.Text.LowerCase

/-!
# `Quartz.Charset.Library`: charsets by name

A script may be stored in another charset than UTF-8. The charsets come
from a library, each as a `Decoder`, and nothing is assumed about them
here. `Library.named` finds the one that a name means and
`Library.decode` reads a text in it. Both can fail.
-/

set_option autoImplicit false

namespace Quartz

/-- Gives a text in some charset as UTF-8, or says what is wrong with it. -/
abbrev Decoder := Bytes → Except Bytes Bytes

namespace Charset

/-- A library of charsets. -/
structure Library where
  /-- UTF-8, of which a mark at the start is left out. -/
  markedUtf8 : Decoder
  /-- UTF-16 in the byte order that a mark at the start tells. -/
  markedUtf16 : Decoder
  /-- The charset with a label. -/
  labelled? : Bytes → Option Decoder

/-- Why a text was not decoded. -/
inductive Error where
  | unknown (label : Bytes)
  | unreadable (name why : Bytes)
  deriving DecidableEq, Repr

/-- The wording of an error. -/
def Error.message : Error → Bytes
  | .unknown label => utf8 "unsupported encoding: " ++ label
  | .unreadable name why => utf8 "failed to decode " ++ name ++ utf8 ": " ++ why

namespace Library

/-- The charset that a script names. No name means UTF-8. The common names
of UTF-8 and UTF-16 heed a mark at the start. -/
def named (lib : Library) (name : Bytes) : Except Error Decoder :=
  let word := name.trimBlank.toLower
  let isOneOf (l : List String) : Bool := l.any fun w => utf8 w = word
  if isOneOf ["", "utf-8", "utf8"] then .ok lib.markedUtf8
  else if isOneOf ["utf-16", "utf16"] then .ok lib.markedUtf16
  else
    let label := if isOneOf ["sjis"] then utf8 "shift_jis" else name
    match lib.labelled? label with
    | some decoder => .ok decoder
    | none => .error (.unknown label)

/-- Bytes in the charset with a name as UTF-8. -/
def decode (lib : Library) (name data : Bytes) : Except Error Bytes := do
  let decoder ← lib.named name
  (decoder data).mapError (.unreadable name)

end Library

end Charset

end Quartz
