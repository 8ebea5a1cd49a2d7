/-!
# `Quartz.Number.Nearest`: the double nearest to a fraction

`Float.nearest num den` rounds the fraction `num / den` to the nearest
double, ties to the even significand. Everything is exact arithmetic on
natural numbers: the significand is an integer quotient at a binary
exponent chosen so that it has 53 bits, or fewer at the smallest exponent.

A finite double is `significand · 2 ^ exponent` with the exponent at least
`-1074`; `Binary` holds such a pair, and `Binary.ofFloat` reads it off the
bits.
-/

set_option autoImplicit false

namespace Quartz

/-- A magnitude `significand · 2 ^ exponent`. -/
structure Binary where
  significand : Nat
  exponent : Int
  deriving DecidableEq, Repr

namespace Binary

/-- The smallest binary exponent of a double. -/
def leastExponent : Int := -1074

/-- The bits of the first magnitude beyond the finite doubles. -/
def infinityBits : Nat := 0x7FF0000000000000

/-- The magnitude of a finite double. -/
def ofFloat (x : Float) : Binary :=
  let bits := x.toBits.toNat
  let field : Nat := bits / Nat.pow 2 52 % Nat.pow 2 11
  let fraction : Nat := bits % Nat.pow 2 52
  if field = 0 then ⟨fraction, leastExponent⟩
  else ⟨Nat.pow 2 52 + fraction, (field : Int) - 1075⟩

/-- The bits of the double with this magnitude. A significand of 53 bits
carries its own exponent increment, and so does one that rounding has
brought to `2 ^ 53`. -/
def bits (b : Binary) : Nat :=
  min infinityBits (Int.toNat (b.exponent - leastExponent) * Nat.pow 2 52 + b.significand)

end Binary

/-- The quotient rounded to the nearest integer, ties to even. -/
def roundDiv (num den : Nat) : Nat :=
  let q := num / den
  let r := num % den
  if 2 * r < den then q
  else if den < 2 * r then q + 1
  else if q % 2 = 0 then q else q + 1

/-- `num / (den · 2 ^ e)` rounded to the nearest integer, ties to even. -/
def roundAt (num den : Nat) (e : Int) : Nat :=
  if 0 ≤ e then roundDiv num (den * Nat.pow 2 e.toNat)
  else roundDiv (num * Nat.pow 2 (-e).toNat) den

/-- Whether `2 ^ 53 ≤ num / (den · 2 ^ e)`, so that the quotient has too
many bits. -/
def tooWide (num den : Nat) (e : Int) : Bool :=
  if 0 ≤ e then Nat.pow 2 53 * (den * Nat.pow 2 e.toNat) ≤ num
  else Nat.pow 2 53 * den ≤ num * Nat.pow 2 (-e).toNat

/-- The exponent at which `num / den` has a significand of 53 bits. The
bit lengths give it up to one. -/
def binaryExponent (num den : Nat) : Int :=
  let e := (Nat.log2 num : Int) - Nat.log2 den - 53
  let e := if tooWide num den e then e + 1 else e
  max e Binary.leastExponent

/-- The double nearest to `num / den`, ties to the even significand, and
infinity beyond the largest finite double. -/
def nearestFloat (num den : Nat) : Float :=
  if num = 0 then Float.ofBits 0
  else
    let e := binaryExponent num den
    Float.ofBits (Binary.bits ⟨roundAt num den e, e⟩).toUInt64

/-- The double with the opposite sign. -/
def negateBits (x : Float) : Float := Float.ofBits (x.toBits ^^^ 0x8000000000000000)

end Quartz
