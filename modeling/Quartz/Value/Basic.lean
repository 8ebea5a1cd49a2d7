import Quartz.Token.Basic

/-!
# `Quartz.Value.Basic`: script values

A value is a number, a truth value, a text, null, a function or an
instance of a class. Functions and instances are references: two of them
are equal only if they are the same one. An instance is fixed at creation
(its name, its id, the class body, and the scopes of its members and of its
functions); what changes lives there.
-/

set_option autoImplicit false

namespace Quartz

/-- A scope, by its place in the state. -/
abbrev ScopeId := Nat

/-- A function, by its place in the state. -/
abbrev FunctionId := Nat

/-- An instance of a class. Instances are told apart by their ids, which
count from one. -/
structure Instance where
  name : Bytes
  id : Nat
  body : List Token
  /-- The scope whose root frame holds its members. -/
  scope : ScopeId
  /-- The scope whose root frame holds the table of its functions. -/
  table : ScopeId
  deriving DecidableEq, Repr

/-- A value of the script language. -/
inductive Value where
  | number (x : Float)
  | bool (b : Bool)
  | text (s : Bytes)
  | null
  | function (f : FunctionId)
  | object (c : Instance)

instance : Inhabited Value := ⟨.null⟩

namespace Value

/-- The name of a value's type; an instance has its class's name. -/
def typeName : Value → Bytes
  | .number _ => utf8 "number"
  | .bool _ => utf8 "bool"
  | .text _ => utf8 "string"
  | .null => utf8 "null"
  | .function _ => utf8 "function"
  | .object c => c.name

/-- Whether two values are equal. Values of different kinds never are, and
numbers compare as numbers: not-a-number differs from itself, and the two
zeros are one. -/
def equal : Value → Value → Bool
  | .number x, .number y => x == y
  | .bool a, .bool b => a == b
  | .text s, .text t => s == t
  | .null, .null => true
  | .function f, .function g => f == g
  | .object c, .object d => c.id == d.id
  | _, _ => false

end Value

/-- The display form of an instance. -/
def Instance.display (c : Instance) : Bytes :=
  utf8 "<crystal " ++ c.name ++ utf8 "#" ++ Bytes.ofNat c.id ++ utf8 ">"

end Quartz
