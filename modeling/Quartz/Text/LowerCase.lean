import Quartz.Text.Utf8
import Quartz.Text.CaseRun

/-!
# `Quartz.Text.LowerCase`: text in lower case

The lower-case form of a text maps each character by the simple lower-case
mapping of Unicode 15.0. A stray byte becomes the replacement character.
-/

set_option autoImplicit false

namespace Quartz

/-- The characters with a lower-case form of their own. -/
def lowerRuns : List CaseRun := capitalRuns ++ [
  ⟨0x130, 1, 1, -199⟩, ⟨0x13A0, 80, 1, 38864⟩, ⟨0x13F0, 6, 1, 8⟩]

/-- The lower-case form of a character. -/
def lowerChar (c : Char) : Char := CaseRun.apply lowerRuns c

/-- A text with every character in lower case. -/
def Bytes.toLower (s : Bytes) : Bytes :=
  (Rune.decode s).flatMap fun r => String.utf8EncodeChar (lowerChar r.toChar)

end Quartz
