import Quartz.Number.Nearest

/-!
# `Quartz.Number.Remainder`: the remainder of a division toward zero

For finite doubles with a nonzero divisor, the remainder of the magnitudes
is exact: brought to one binary exponent both are integers, and the
remainder of integers is a double again. It takes the sign of the dividend,
also when it is zero.
-/

set_option autoImplicit false

namespace Quartz

namespace Remainder

/-- The remainder of two magnitudes. -/
def magnitude (a b : Binary) : Binary :=
  let e := min a.exponent b.exponent
  let x := a.significand * Nat.pow 2 (a.exponent - e).toNat
  let y := b.significand * Nat.pow 2 (b.exponent - e).toNat
  ⟨x % y, e⟩

/-- A magnitude as a double. -/
def toFloat (b : Binary) : Float :=
  if 0 ≤ b.exponent then nearestFloat (b.significand * Nat.pow 2 b.exponent.toNat) 1
  else nearestFloat b.significand (Nat.pow 2 (-b.exponent).toNat)

end Remainder

/-- The remainder of `x` by `y`, with the sign of `x`. It is no number
when `x` is infinite, `y` is zero, or one of them is no number; an
infinite `y` leaves `x`. -/
def remainder (x y : Float) : Float :=
  if x.isNaN || y.isNaN || x.isInf || y == 0 then Float.ofBits 0x7FF8000000000001
  else if y.isInf then x
  else
    let r := Remainder.toFloat (Remainder.magnitude (Binary.ofFloat x) (Binary.ofFloat y))
    if Nat.pow 2 63 ≤ x.toBits.toNat then negateBits r else r

end Quartz
