import Quartz.State.Copy

/-!
# `Quartz.Eval.Basic`: running and stopping

A run goes through states and ends with a value or stops early. Stopping
keeps the state: what was printed, assigned or created before a fault
stays.

Running a function body may call functions again. The steps of a run are
therefore written over a `Caller`, the way to call a function one level
further in, and only calls use up a level. A run that has no level left is
`exhausted`, which is no fault of the script.
-/

set_option autoImplicit false

namespace Quartz

/-- Why a run ends without a value. -/
inductive Stop where
  | fault (f : Fault)
  | exhausted

/-- A run: from a state to a value or a stop, and a state. -/
abbrev Eval := EStateM Stop State

/-- The way to call a function with arguments. -/
abbrev Caller := FunctionId → List Value → Eval Value

namespace Eval

variable {α : Type}

/-- Stops with a fault. -/
def stop (f : Fault) : Eval α := throw (.fault f)

/-- Stops with a runtime error at an offset. -/
def fail (cause : Cause) (offset : Int) : Eval α := stop (.runtime ⟨cause, offset⟩)

/-- Stops with a malformation at an offset. -/
def malformed (form : Malformation) (offset : Int) : Eval α := fail (.malformed form) offset

/-- A reading of tokens as a step of a run. -/
def ofReading : Except RuntimeError α → Eval α
  | .ok a => pure a
  | .error e => stop (.runtime e)

/-- The result of an operator as a step of a run; a failure has the given
offset. -/
def ofOperator (offset : Int) : Except Cause α → Eval α
  | .ok a => pure a
  | .error cause => fail cause offset

/-- A run whose fault, if it has one, is changed. -/
def mapFault (f : Fault → Fault) (x : Eval α) : Eval α := fun s =>
  match x s with
  | .error (.fault e) s => .error (.fault (f e)) s
  | r => r

/-- A run after which the state is changed, however the run ends. -/
def thenAlways (cleanup : State → State) (x : Eval α) : Eval α := fun s =>
  match x s with
  | .ok a s => .ok a (cleanup s)
  | .error e s => .error e (cleanup s)

/-- Reports an event. -/
def report (e : Log.Event) : Eval Unit := modify (·.report e)

end Eval

/-! ### Frames -/

namespace State

/-- Frees the frame at an index of a scope and the frames above it. -/
def release (st : State) (s : ScopeId) (i : Int) : State :=
  if (st.scope s).releasable i then
    (st.modifyScope s (·.release i)).report (.frameReleased i i.toNat)
  else st

end State

/-- Pushes a frame onto a scope and gives its index. A scope that is full
stays as it is, and the place of that failure is left to the caller. -/
def pushFrame (s : ScopeId) (parent : Int) : Eval Nat := do
  let scope := (← get).scope s
  if scope.full then Eval.fail (.stackOverflow (scope.live + 1) scope.limit) (-1)
  else
    let i := scope.live
    modify fun st => (st.modifyScope s (·.pushed parent)).report (.framePushed i parent)
    pure i

end Quartz
