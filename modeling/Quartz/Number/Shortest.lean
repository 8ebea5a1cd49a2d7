import Quartz.Number.Decimal

/-!
# `Quartz.Number.Shortest`: a double in as few digits as possible

A double is written with the fewest decimal digits that read back as the
same double; of several such decimals the nearest is taken, and of two
equally near ones the even one. The notation is always positional.

The reals that round to a given double form an interval. A decimal with
`k` zeros at its end (or, for a negative `k`, with `-k` places) is a
multiple of `10 ^ k`, so the shortest decimal is a multiple of the largest
`10 ^ k` that has one in the interval.
-/

set_option autoImplicit false

namespace Quartz

namespace Shortest

/-- The reals that round to a double: from `low / scale` to `high / scale`
around `middle / scale`, with the ends if `closed`. -/
structure Interval where
  low : Nat
  middle : Nat
  high : Nat
  scale : Nat
  closed : Bool

/-- The rounding interval of a magnitude. Its ends are half way to the
neighbours; below a power of two the lower neighbour is twice as near. The
ends belong to it when the significand is even, since ties go there. -/
def interval (b : Binary) : Interval :=
  let m := b.significand
  let e := b.exponent - 2
  let below := if m = Nat.pow 2 52 ∧ Binary.leastExponent < b.exponent then 1 else 2
  let up := Nat.pow 2 e.toNat
  ⟨(4 * m - below) * up, 4 * m * up, (4 * m + 2) * up, Nat.pow 2 (-e).toNat, m % 2 = 0⟩

/-- Whether `j · unit / (scale · grain)` lies in the interval. -/
def Interval.holds (i : Interval) (grain unit j : Nat) : Bool :=
  if i.closed then i.low * grain ≤ j * unit && j * unit ≤ i.high * grain
  else i.low * grain < j * unit && j * unit < i.high * grain

/-- The multiple of `10 ^ k` in the interval that is nearest to its
middle, as the factor of `10 ^ k`. -/
def onGrid (i : Interval) (k : Int) : Option Nat :=
  let grain := Nat.pow 10 (-k).toNat
  let unit := i.scale * Nat.pow 10 k.toNat
  let below := i.middle * grain / unit
  let nearest := roundDiv (i.middle * grain) unit
  let other := if nearest = below then below + 1 else below
  if i.holds grain unit nearest then some nearest
  else if i.holds grain unit other then some other
  else none

/-- A power of ten that no number of the interval exceeds by a digit. -/
def topExponent (i : Interval) : Int :=
  if i.scale ≤ i.high then (Nat.toDigits 10 (i.high / i.scale)).length
  else 1 - ((Nat.toDigits 10 (i.scale / i.high)).length : Int)

/-- The first grid, from coarse to fine, with a point in the interval. -/
def search (i : Interval) : Nat → Int → Decimal
  | 0, k => ⟨roundDiv i.middle i.scale, max k 0⟩
  | steps + 1, k =>
    match onGrid i k with
    | some j => ⟨j, k⟩
    | none => search i steps (k - 1)

/-- The shortest decimal of a nonzero magnitude. Seventeen digits always
suffice, so the search ends before its steps do. -/
def decimal (b : Binary) : Decimal :=
  let i := interval b
  search i 20 (topExponent i)

/-- A decimal in positional notation. -/
def positional (d : Decimal) : Bytes :=
  let digits := Bytes.ofNat d.coefficient
  if 0 ≤ d.exponent then digits ++ List.replicate d.exponent.toNat (Bytes.byte '0')
  else
    let places := (-d.exponent).toNat
    let padded := List.replicate (places + 1 - digits.length) (Bytes.byte '0') ++ digits
    padded.take (padded.length - places) ++ Bytes.byte '.' ::
      padded.drop (padded.length - places)

end Shortest

/-- A double as text: the fewest digits that read back, never with an
exponent; `NaN`, `+Inf` and `-Inf` for the others. -/
def Bytes.ofFloat (x : Float) : Bytes :=
  let bits := x.toBits.toNat
  let negative := Nat.pow 2 63 ≤ bits
  let magnitude := bits % Nat.pow 2 63
  if Binary.infinityBits < magnitude then utf8 "NaN"
  else if magnitude = Binary.infinityBits then utf8 (if negative then "-Inf" else "+Inf")
  else
    let digits := if magnitude = 0 then utf8 "0"
      else Shortest.positional (Shortest.decimal (Binary.ofFloat x))
    if negative then Bytes.byte '-' :: digits else digits

end Quartz
