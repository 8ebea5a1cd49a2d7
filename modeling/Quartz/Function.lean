import Quartz.Value.Basic

/-!
# `Quartz.Function`: functions

A function has a name, parameters with declared types, and either a body of
tokens or a native behaviour. Its home is the scope in which its body runs;
a function that was never registered has none yet. A member function knows
the id of the instance that owns it.
-/

set_option autoImplicit false

namespace Quartz

/-- A declared parameter. -/
structure Param where
  name : Bytes
  type : Bytes
  deriving DecidableEq, Repr

namespace Param

/-- The parameter type that accepts every value. -/
def anyType : Bytes := utf8 "any"

/-- Whether a value may be passed for the parameter. -/
def accepts (p : Param) (v : Value) : Bool := p.type = anyType || v.typeName = p.type

end Param

/-- What a function does that has no body: write a value, name its type,
copy an instance, or answer for a host. Of a procedure of the host it is
assumed that it answers in one of the last three ways: with an error, with
one of its arguments, or with a value that was fixed when it was set up. So
it leaves the state alone, calls no function and gives equal arguments equal
answers. Procedures with a state of their own or that call back into a
script are left out. -/
inductive Native where
  | print
  | typeOf
  | create
  | fails (message : Bytes)
  | argument (index : Nat)
  | constant (v : Value)

/-- A function. The owner is zero for functions outside classes. -/
structure Function where
  name : Bytes
  params : List Param
  body : List Token
  owner : Nat
  native : Option Native
  home : Option ScopeId

namespace Function

/-- A function with a body, not registered anywhere. -/
def ofBody (name : Bytes) (params : List Param) (body : List Token) : Function :=
  ⟨name, params, body, 0, none, none⟩

/-- A function with a native behaviour. -/
def ofNative (name : Bytes) (params : List Param) (native : Native) : Function :=
  ⟨name, params, [], 0, some native, none⟩

instance : Inhabited Function := ⟨ofBody [] [] []⟩

/-- The display form of a function: its header. -/
def display (f : Function) : Bytes :=
  utf8 "function " ++ f.name ++ utf8 "(" ++
    Bytes.join (utf8 ", ") (f.params.map fun p => p.type ++ utf8 " " ++ p.name) ++ utf8 ")"

end Function

end Quartz
