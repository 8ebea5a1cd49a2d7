import Quartz.Number.Decimal
import Quartz.Value.Basic

/-!
# `Quartz.Value.Literal`: the value of a literal

A literal is coerced by what it looks like, quoted or not: digits with an
optional fraction are a number, `true` and `false` are truth values, and
everything else is text. So `"12"` in quotes is the number twelve. Escapes
in a text are kept as written.
-/

set_option autoImplicit false

namespace Quartz

namespace Literal

/-- A literal without the quotes around it, if it has both. -/
def unquoted (lexeme : Bytes) : Bytes :=
  let quote := some (Bytes.byte '"')
  if 2 ≤ lexeme.length ∧ lexeme.head? = quote ∧ lexeme.getLast? = quote then
    lexeme.tail.dropLast
  else lexeme

/-- The number that a text spells. One too large for a double is
infinite. -/
def number? (s : Bytes) : Option Float := (Decimal.parsePlain? s).map Decimal.toFloat

end Literal

/-- The value of a literal. -/
def Value.ofLiteral (lexeme : Bytes) : Value :=
  let s := Literal.unquoted lexeme
  match Literal.number? s with
  | some x => .number x
  | none =>
    if s = utf8 "true" then .bool true
    else if s = utf8 "false" then .bool false
    else .text s

end Quartz
