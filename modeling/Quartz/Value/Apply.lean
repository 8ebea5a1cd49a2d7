import Quartz.Fault
import Quartz.Number.Remainder
import Quartz.Value.Basic

/-!
# `Quartz.Value.Apply`: operators applied to values

The kind of the left operand decides. Numbers take arithmetic and order
with another number, texts take joining and byte order with another text,
truth values take logic with another truth value, and any two values can be
compared for equality. All else is unsupported. Division and remainder by
zero fail.
-/

set_option autoImplicit false

namespace Quartz

namespace Value

/-- An operation on a number and a value to its right. -/
def applyNumber (op : Operator) (x : Float) (right : Value) : Except Cause Value :=
  match right with
  | .number y =>
    match op with
    | .add => .ok (.number (x + y))
    | .subtract => .ok (.number (x - y))
    | .multiply => .ok (.number (x * y))
    | .divide => if y == 0 then .error .divisionByZero else .ok (.number (x / y))
    | .modulus => if y == 0 then .error .divisionByZero else .ok (.number (remainder x y))
    | .greater => .ok (.bool (y < x))
    | .less => .ok (.bool (x < y))
    | .greaterEqual => .ok (.bool (y ≤ x))
    | .lessEqual => .ok (.bool (x ≤ y))
    | _ => .error (.unsupported op (typeName (.number x)))
  | _ =>
    match op with
    | .add | .subtract | .multiply | .divide | .modulus | .greater | .less | .greaterEqual
    | .lessEqual => .error (.unsupportedPair op (typeName (.number x)) right.typeName)
    | _ => .error (.unsupported op (typeName (.number x)))

/-- An operation on a truth value and a value to its right. -/
def applyBool (op : Operator) (a : Bool) (right : Value) : Except Cause Value :=
  match right with
  | .bool b =>
    match op with
    | .and => .ok (.bool (a && b))
    | .or => .ok (.bool (a || b))
    | .xor => .ok (.bool (a != b))
    | _ => .error (.unsupported op (typeName (.bool a)))
  | _ =>
    match op with
    | .and | .or | .xor => .error (.unsupportedPair op (typeName (.bool a)) right.typeName)
    | _ => .error (.unsupported op (typeName (.bool a)))

/-- An operation on a text and a value to its right. -/
def applyText (op : Operator) (s : Bytes) (right : Value) : Except Cause Value :=
  match right with
  | .text t =>
    match op with
    | .add => .ok (.text (s ++ t))
    | .greater => .ok (.bool (t < s))
    | .less => .ok (.bool (s < t))
    | .greaterEqual => .ok (.bool (t ≤ s))
    | .lessEqual => .ok (.bool (s ≤ t))
    | _ => .error (.unsupported op (typeName (.text s)))
  | _ =>
    match op with
    | .add | .greater | .less | .greaterEqual | .lessEqual =>
      .error (.unsupportedPair op (typeName (.text s)) right.typeName)
    | _ => .error (.unsupported op (typeName (.text s)))

/-- An operation on one value. Only the negation of a truth value exists. -/
def applyUnary (op : Operator) (v : Value) : Except Cause Value :=
  match op, v with
  | .not, .bool b => .ok (.bool !b)
  | _, _ => .error (.unsupported op v.typeName)

/-- An operation on two values. A negation looks at the left one only. -/
def apply (op : Operator) (left right : Value) : Except Cause Value :=
  match op with
  | .equal => .ok (.bool (left.equal right))
  | .notEqual => .ok (.bool !(left.equal right))
  | .not => applyUnary .not left
  | _ =>
    match left with
    | .number x => applyNumber op x right
    | .bool b => applyBool op b right
    | .text s => applyText op s right
    | _ => .error (.unsupported op left.typeName)

end Value

end Quartz
