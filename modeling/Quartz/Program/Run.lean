import Quartz.Eval.Call
import Quartz.Program.Basic

/-!
# `Quartz.Program.Run`: running a program

A program runs in a scope: its functions are registered, then an instance
of each class is built and bound to the class's name, and then the main
statements run. So a variables block can call every function of the
program.
-/

set_option autoImplicit false

namespace Quartz

namespace Program

/-- Builds the classes of a program and binds their names in a scope. -/
def buildClasses (s : ScopeId) : List ClassDecl → Eval Unit
  | [] => pure ()
  | d :: ds => do
    let c ← newInstance d.name d.body (some s)
    modify (·.declare ⟨s, 0⟩ d.name (.object c))
    buildClasses s ds

/-- Runs a program in a scope, with faults as they arise. -/
def perform (p : Program) (s : ScopeId) : Eval Value := do
  defineAll ⟨s, 0⟩ 0 p.functions
  buildClasses s p.classes
  Eval.report
    (.programLoaded p.name p.functions.length p.classes.length p.main.length)
  execute s p.main

/-- A fault of a program with its place and the program's name. -/
def located (p : Program) (f : Fault) : Failure := (Failure.locate p.source f).inFile p.name

end Program

/-- How a run ends that is not cut short: with a value or a failure.
Nothing if the levels of calls did not suffice. -/
abbrev Ending := Option (Except Failure Value)

/-- Ends a run at a state. -/
def Eval.ending {α : Type} (x : Eval α) (locate : Fault → Failure) (st : State) :
    Option (Except Failure α) × State :=
  match x st with
  | .ok a st => (some (.ok a), st)
  | .error (.fault f) st => (some (.error (locate f)), st)
  | .error .exhausted st => (none, st)

namespace Program

/-- Runs a program in a scope. -/
def run (p : Program) (s : ScopeId) (st : State) : Ending × State :=
  (p.perform s).ending p.located st

/-- Compiles a source and runs it in a scope. A source that does not
compile changes nothing. -/
def runSource (name source : Bytes) (s : ScopeId) (st : State) : Ending × State :=
  let compiled := if name = [] then compile source else compileFile name source
  match compiled with
  | .error f => (some (.error f), st)
  | .ok p => p.run s st

end Program

end Quartz
