import Quartz.Number.Nearest
import Quartz.Text.Bytes

/-!
# `Quartz.Number.Decimal`: decimals read as doubles

A decimal is a run of digits with a power of ten. It is read exactly and
rounded once, so the double is always the nearest one.
-/

set_option autoImplicit false

namespace Quartz

/-- The number `coefficient · 10 ^ exponent`. -/
structure Decimal where
  coefficient : Nat
  exponent : Int
  deriving DecidableEq, Repr

namespace Decimal

/-- The nearest double. -/
def toFloat (d : Decimal) : Float :=
  if 0 ≤ d.exponent then nearestFloat (d.coefficient * Nat.pow 10 d.exponent.toNat) 1
  else nearestFloat d.coefficient (Nat.pow 10 (-d.exponent).toNat)

/-- Digits with an optional fraction behind a point. Both parts must hold
a digit, and nothing else may stand around them. -/
def parsePlain? (s : Bytes) : Option Decimal :=
  let whole := s.takeWhile Bytes.isDigit
  match s.dropWhile Bytes.isDigit with
  | [] => if whole = [] then none else some ⟨Bytes.digitsValue whole, 0⟩
  | point :: fraction =>
    if point = Bytes.byte '.' && whole ≠ [] && fraction ≠ [] && fraction.all Bytes.isDigit then
      some ⟨Bytes.digitsValue (whole ++ fraction), -(fraction.length : Int)⟩
    else none

/-- A sign in front: whether it is a minus, and what follows it. -/
def splitSign : Bytes → Bool × Bytes
  | [] => (false, [])
  | b :: rest =>
    if b = Bytes.byte '-' then (true, rest)
    else if b = Bytes.byte '+' then (false, rest)
    else (false, b :: rest)

/-- The exponent behind the letter `e`: digits with an optional sign. -/
def parseExponent? (s : Bytes) : Option Int :=
  let (negative, digits) := splitSign s
  if digits = [] || !digits.all Bytes.isDigit then none
  else
    let n : Int := Bytes.digitsValue digits
    some (if negative then -n else n)

/-- Beyond this power of ten every nonzero decimal of fewer digits is
infinite, and below its opposite every one is zero. -/
def exponentBound : Int := 100000

/-- An unsigned decimal in scientific notation. Either side of the point
may be empty, but not both. -/
def parseScientific? (s : Bytes) : Option Decimal :=
  let isMark (b : UInt8) : Bool := b = Bytes.byte 'e' || b = Bytes.byte 'E'
  let mantissa := s.takeWhile fun b => !isMark b
  let whole := mantissa.takeWhile Bytes.isDigit
  let exponent? := match s.dropWhile fun b => !isMark b with
    | [] => some 0
    | _ :: e => parseExponent? e
  let fraction? := match mantissa.dropWhile Bytes.isDigit with
    | [] => some []
    | point :: f => if point = Bytes.byte '.' && f.all Bytes.isDigit then some f else none
  match exponent?, fraction? with
  | some e, some f =>
    if whole = [] && f = [] then none
    else
      let e := max (-exponentBound) (min exponentBound e)
      some ⟨Bytes.digitsValue (whole ++ f), e - (f.length : Int)⟩
  | _, _ => none

/-- A signed double in scientific notation, or one of the spellings
`NaN`, `Inf`, `+Inf` and `-Inf`. -/
def parseFloat? (s : Bytes) : Option Float :=
  let (negative, magnitude) := splitSign s
  let signed (x : Float) : Float := if negative then negateBits x else x
  if s = utf8 "NaN" then some (Float.ofBits 0x7FF8000000000001)
  else if magnitude = utf8 "Inf" then some (signed (Float.ofBits 0x7FF0000000000000))
  else (parseScientific? magnitude).map fun d => signed d.toFloat

end Decimal

end Quartz
