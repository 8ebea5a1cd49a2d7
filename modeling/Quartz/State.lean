import Quartz.Function
import Quartz.Log.Journal
import Quartz.Number.Shortest
import Quartz.Scope.Basic

/-!
# `Quartz.State`: the state of the runtime

All scopes and functions live in the state and are referred to by their
place in it. The state also counts the ids of instances, and keeps what the
scripts have printed and which events were reported.

Names are resolved here. `seek` finds the frame that a search from a site
meets first: along the parents of a frame, then in the root of the outer
scope, and so on. `assign` changes the binding in that frame, `declare`
always binds in the given one.
-/

set_option autoImplicit false

namespace Quartz

/-- Where names are resolved: a scope and a frame of it. -/
structure Site where
  scope : ScopeId
  frame : Nat
  deriving DecidableEq, Repr

/-- An order in which the variables of a table are met. -/
structure Order where
  arrange : List (Bytes × Value) → List (Bytes × Value)
  perm : ∀ l, (arrange l).Perm l

/-- The order in which the variables were declared. -/
instance : Inhabited Order := ⟨id, fun _ => .refl _⟩

/-- The state of the runtime. -/
structure State where
  scopes : Array Scope := #[]
  functions : Array Function := #[]
  /-- The last instance id that was handed out. The count of the program has
  sixty-four bits. It comes with a scope for each id, so that it does not
  overflow before there are `2 ^ 64` scopes. -/
  lastId : Nat := 0
  /-- The order in which the copy with an id takes over the members of its
  original. Tables have no order of their own, so any order is possible. -/
  order : Nat → Order := default
  /-- The lines that scripts have printed. -/
  printed : Array Bytes := #[]
  /-- Whether printing fails. -/
  mute : Bool := false
  /-- The events and notices so far. -/
  journal : Log.Journal := {}

namespace State

/-! ### Reports -/

/-- Reports an event. -/
def report (st : State) (e : Log.Event) : State := { st with journal := st.journal.report e }

/-- Notes a line for the person at the prompt. -/
def notify (st : State) (line : Bytes) : State := { st with journal := st.journal.notify line }

/-! ### Scopes -/

/-- A scope by its place. -/
def scope (st : State) (s : ScopeId) : Scope := st.scopes.getD s default

/-- Changes a scope. -/
def modifyScope (st : State) (s : ScopeId) (f : Scope → Scope) : State :=
  { st with scopes := st.scopes.modify s f }

/-- Adds a scope. -/
def addScope (st : State) (s : Scope) : ScopeId × State :=
  (st.scopes.size, { st with scopes := st.scopes.push s })

/-- The limit that a new scope takes over from the scope outside it. -/
def inheritedLimit (st : State) (outer : Option ScopeId) : Nat :=
  match outer with
  | none => Scope.defaultLimit
  | some o => (st.scope o).limit

/-- Adds a scope with a root frame. A limit that is not positive counts as
none, and without one the scope takes over the limit outside it. -/
def newScope (st : State) (outer : Option ScopeId) (limit : Option Int := none) :
    ScopeId × State :=
  let inherited := st.inheritedLimit outer
  let limit := match limit with
    | some n => if 0 < n then n.toNat else inherited
    | none => inherited
  st.addScope (Scope.fresh outer limit)

/-- The frame at a site. -/
def frameAt (st : State) (site : Site) : Frame := (st.scope site.scope).frame site.frame

/-- Changes the frame at a site. -/
def modifyFrame (st : State) (site : Site) (f : Frame → Frame) : State :=
  st.modifyScope site.scope fun s => s.modify site.frame f

/-- The outermost scope around a scope. A scope outside another one is
older, which bounds the walk. -/
def outermost (st : State) (s : ScopeId) : ScopeId :=
  match (st.scope s).outer with
  | none => s
  | some o => if o < s then st.outermost o else s
termination_by s

/-! ### Names -/

/-- The first frame with a property that a search from a frame of a scope
meets. -/
def seek (st : State) (has : Frame → Bool) (s : ScopeId) (i : Int) : Option Site :=
  match (st.scope s).seek has (st.scope s).live i with
  | some frame => some ⟨s, frame⟩
  | none =>
    match (st.scope s).outer with
    | none => none
    | some o => if o < s then st.seek has o 0 else none
termination_by s

/-- The frame that holds a variable visible from a site. -/
def holder? (st : State) (site : Site) (name : Bytes) : Option Site :=
  st.seek (fun f => f.vars.contains name) site.scope site.frame

/-- A variable visible from a site. -/
def value? (st : State) (site : Site) (name : Bytes) : Option Value :=
  (st.holder? site name).bind fun h => (st.frameAt h).vars.get? name

/-- A function visible from a site. -/
def function? (st : State) (site : Site) (name : Bytes) : Option FunctionId :=
  (st.seek (fun f => f.funcs.contains name) site.scope site.frame).bind fun h =>
    (st.frameAt h).funcs.get? name

/-- What a name means at a site: a variable, or a function if there is no
such variable. -/
inductive Meaning where
  | variable (v : Value)
  | function (f : FunctionId)
  | unknown

namespace Meaning

/-- The function that a call of the name runs. -/
def callee? : Meaning → Option FunctionId
  | .variable (.function f) => some f
  | .function f => some f
  | _ => none

/-- The value of the name. -/
def value? : Meaning → Option Value
  | .variable v => some v
  | .function f => some (.function f)
  | .unknown => none

/-- Whether the name means anything. -/
def known : Meaning → Bool
  | .unknown => false
  | _ => true

end Meaning

/-- What a name means at a site. -/
def meaning (st : State) (site : Site) (name : Bytes) : Meaning :=
  match st.value? site name with
  | some v => .variable v
  | none =>
    match st.function? site name with
    | some f => .function f
    | none => .unknown

/-- Binds a variable in the frame at a site, whatever is bound elsewhere. -/
def declare (st : State) (site : Site) (name : Bytes) (v : Value) : State :=
  st.modifyFrame site fun f => f.declare name v

/-- Changes the variable that is visible from a site, or binds it there if
there is none. -/
def assign (st : State) (site : Site) (name : Bytes) (v : Value) : State :=
  st.declare ((st.holder? site name).getD site) name v

/-! ### Functions -/

/-- A function by its place. -/
def function (st : State) (f : FunctionId) : Function := st.functions.getD f default

/-- Adds a function. -/
def addFunction (st : State) (f : Function) : FunctionId × State :=
  (st.functions.size, { st with functions := st.functions.push f })

/-- Gives a function a home, unless it has one. -/
def settle (st : State) (f : FunctionId) (s : ScopeId) : State :=
  { st with functions := st.functions.modify f fun fn =>
      if fn.home.isSome then fn else { fn with home := some s } }

/-- Registers a function in the frame at a site under its own name. A
function without a home gets the scope of the site. -/
def define (st : State) (site : Site) (f : FunctionId) : State :=
  (st.settle f site.scope).modifyFrame site fun fr => fr.define (st.function f).name f

/-! ### Instances and values -/

/-- Hands out the next instance id. -/
def nextId (st : State) : Nat × State := (st.lastId + 1, { st with lastId := st.lastId + 1 })

/-- The root frame of an instance, which holds its members. -/
def members (st : State) (c : Instance) : Frame := (st.scope c.scope).root

/-- The functions of an instance. -/
def functionsOf (st : State) (c : Instance) : Bindings FunctionId := (st.scope c.table).root.funcs

/-- The display form of a value. -/
def display (st : State) : Value → Bytes
  | .number x => Bytes.ofFloat x
  | .bool b => utf8 (if b then "true" else "false")
  | .text s => s
  | .null => utf8 "null"
  | .function f => (st.function f).display
  | .object c => c.display

/-- Writes a line for the script. -/
def print (st : State) (line : Bytes) : State :=
  { st with printed := st.printed.push (line ++ [Bytes.newline]) }

/-- Everything that the scripts have printed. -/
def output (st : State) : Bytes := st.printed.toList.flatten

end State

end Quartz
