import Quartz.Text.Bytes
import Quartz.Token.Kind

/-!
# `Quartz.Value.Operator`: the operations on values
-/

set_option autoImplicit false

namespace Quartz

/-- An operation on values. A host may ask for one that does not exist;
no value supports it. -/
inductive Operator where
  | add
  | subtract
  | multiply
  | divide
  | modulus
  | and
  | or
  | xor
  | not
  | equal
  | notEqual
  | greater
  | less
  | greaterEqual
  | lessEqual
  | unknown
  deriving DecidableEq, Repr

namespace Operator

/-- Every operation that exists. -/
def all : List Operator :=
  [.add, .subtract, .multiply, .divide, .modulus, .and, .or, .xor, .not, .equal, .notEqual,
    .greater, .less, .greaterEqual, .lessEqual]

/-- The name of an operation in messages. -/
def name : Operator → String
  | .add => "add"
  | .subtract => "subtract"
  | .multiply => "multiply"
  | .divide => "divide"
  | .modulus => "modulus"
  | .and => "and"
  | .or => "or"
  | .xor => "xor"
  | .not => "not"
  | .equal => "equal"
  | .notEqual => "not-equal"
  | .greater => "greater"
  | .less => "less"
  | .greaterEqual => "greater-or-equal"
  | .lessEqual => "less-or-equal"
  | .unknown => "unknown"

/-- The operation with a given name. -/
def ofName (s : String) : Operator := (all.find? fun o => o.name = s).getD .unknown

end Operator

/-- The operation that a binary operator stands for. -/
def Kind.operator? : Kind → Option Operator
  | .plus => some .add
  | .minus => some .subtract
  | .asterisk => some .multiply
  | .slash => some .divide
  | .percent => some .modulus
  | .equal => some .equal
  | .notEqual => some .notEqual
  | .greater => some .greater
  | .less => some .less
  | .greaterEqual => some .greaterEqual
  | .lessEqual => some .lessEqual
  | .and => some .and
  | .or => some .or
  | _ => none

end Quartz
