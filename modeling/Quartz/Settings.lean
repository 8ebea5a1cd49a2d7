import Quartz.Text.Bytes

/-!
# `Quartz.Settings`: settings files

What a settings file can set. A `Reader` makes sense of the text of such a
file, and nothing is assumed about how it does so.
-/

set_option autoImplicit false

namespace Quartz

/-- What a settings file sets. An empty text or a depth of zero sets
nothing. -/
structure Settings where
  level : Bytes := []
  format : Bytes := []
  charset : Bytes := []
  entry : Bytes := []
  depth : Int := 0
  deriving DecidableEq, Repr

namespace Settings

/-- What a text turns out to be: settings, no document at all, or something
else, with the reason. -/
inductive Reading where
  | settings (s : Settings)
  | nothing
  | refused (why : Bytes)
  deriving DecidableEq, Repr

/-- A reader of settings files. -/
abbrev Reader := Bytes → Reading

/-- The settings in a text. A text without a document sets nothing. -/
def read (reader : Reader) (source : Bytes) : Except Bytes Settings :=
  match reader source with
  | .settings s => .ok s
  | .nothing => .ok {}
  | .refused why => .error why

end Settings

end Quartz
