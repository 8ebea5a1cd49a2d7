import Quartz.Text.Utf8
import Quartz.Text.CaseRun

/-!
# `Quartz.Text.CaseFold`: text compared without regard to case

Two characters are equal but for case when their simple case foldings of
Unicode 15.0 (status C and S) agree. So `K`, `k` and the Kelvin sign are
one letter, and so are `S`, `s` and the long s; the dotted and the
dotless i stand alone. Folding keeps the number of characters.
-/

set_option autoImplicit false

namespace Quartz

/-- The characters whose folding differs from themselves. -/
def foldRuns : List CaseRun := capitalRuns ++ [
  ⟨0xB5, 1, 1, 775⟩, ⟨0x17F, 1, 1, -268⟩, ⟨0x345, 1, 1, 116⟩, ⟨0x3C2, 1, 1, 1⟩, ⟨0x3D0, 1, 1, -30⟩,
  ⟨0x3D1, 1, 1, -25⟩, ⟨0x3D5, 1, 1, -15⟩, ⟨0x3D6, 1, 1, -22⟩, ⟨0x3F0, 1, 1, -54⟩,
  ⟨0x3F1, 1, 1, -48⟩, ⟨0x3F5, 1, 1, -64⟩, ⟨0x13F8, 6, 1, -8⟩, ⟨0x1C80, 1, 1, -6222⟩,
  ⟨0x1C81, 1, 1, -6221⟩, ⟨0x1C82, 1, 1, -6212⟩, ⟨0x1C83, 2, 1, -6210⟩, ⟨0x1C85, 1, 1, -6211⟩,
  ⟨0x1C86, 1, 1, -6204⟩, ⟨0x1C87, 1, 1, -6180⟩, ⟨0x1C88, 1, 1, 35267⟩, ⟨0x1E9B, 1, 1, -58⟩,
  ⟨0x1FBE, 1, 1, -7173⟩, ⟨0xAB70, 80, 1, -38864⟩]

/-- The simple case folding of a character. -/
def foldChar (c : Char) : Char := CaseRun.apply foldRuns c

/-- Whether two texts have the same characters up to case, one by one. A
stray byte counts as the replacement character. -/
def Bytes.equalFold (s t : Bytes) : Bool :=
  (Rune.decode s).map (fun r => foldChar r.toChar) ==
    (Rune.decode t).map (fun r => foldChar r.toChar)

end Quartz
