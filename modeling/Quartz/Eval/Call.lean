import Quartz.Eval.Statement

/-!
# `Quartz.Eval.Call`: calling functions

A call checks the number of its arguments and their types, and then runs
the function. A function with a body runs in a new frame on top of its home
scope, below which only the root of that scope is visible; the frame is
released however the body ends.

`callAt n` is the caller with `n` levels of calls. `Eval.levels` gives a
run as many levels as the scope it starts in allows frames, and far more on
top of that for functions whose homes are other scopes.
-/

set_option autoImplicit false

namespace Quartz

/-- What a native function does with its arguments. -/
def Native.perform (native : Native) (args : List Value) : Eval Value :=
  match native with
  | .print => do
    let st ← get
    if st.mute then Eval.stop (.labelled (utf8 "print") (.plain (utf8 "write failed")))
    else
      let line := st.display (args.headD .null)
      modify (·.print line)
      pure .null
  | .typeOf => pure (.text (args.headD .null).typeName)
  | .create =>
    match args.headD .null with
    | .object c => do
      let copy ← modifyGet (·.copy c)
      pure (.object copy)
    | v => Eval.fail (.notAnInstance v.typeName) (-1)
  | .fails message => Eval.stop (.plain message)
  | .argument index => pure (args.getD index .null)
  | .constant v => pure v

namespace Function

/-- Checks the number of arguments. -/
def checkArity (fn : Function) (args : List Value) : Except Cause Unit :=
  if args.length = fn.params.length then .ok ()
  else .error (.arity fn.name fn.params.length args.length)

/-- Checks the types of as many arguments as there are parameters. -/
def checkTypes (fn : Function) (args : List Value) : Except Cause Unit :=
  match (fn.params.zip args).find? fun p => !p.1.accepts p.2 with
  | none => .ok ()
  | some (param, v) => .error (.argumentType fn.name param.name param.type v.typeName)

end Function

/-- The home of a function. One that was never registered makes itself a
scope of its own and keeps it. -/
def homeOf (f : FunctionId) : Eval ScopeId := do
  match ((← get).function f).home with
  | some s => pure s
  | none =>
    let s ← modifyGet (·.newScope none)
    modify (·.settle f s)
    pure s

/-- Binds parameters to arguments in the frame at a site. -/
def bindAll (site : Site) : List Param → List Value → Eval Unit
  | p :: ps, v :: vs => do
    modify (·.declare site p.name v)
    bindAll site ps vs
  | _, _ => pure ()

/-- The value of a function body at a site: of its `return`, or else of its
last expression. -/
def bodyValue (call : Caller) (site : Site) (body : List Token) : Eval Value := do
  match ← run call site false (Token.endOffset body) {} body with
  | .returned v _ => pure v
  | .finished p => pure (p.value.getD .null)

/-- Runs a function without looking at the types of its arguments. -/
def invoke (call : Caller) : Caller := fun f args => do
  let fn := (← get).function f
  Eval.ofOperator (-1) (fn.checkArity args)
  match fn.native with
  | some native => native.perform args
  | none =>
    let home ← homeOf f
    let frame ← pushFrame home 0
    Eval.thenAlways (·.release home frame) do
      let depth := ((← get).scope home).depth
      Eval.report (.invoking fn.name args.length depth)
      bindAll ⟨home, frame⟩ fn.params args
      bodyValue call ⟨home, frame⟩ fn.body

/-- The caller with a number of levels. -/
def callAt : Nat → Caller
  | 0 => fun _ _ => throw .exhausted
  | n + 1 => fun f args => do
    let fn := (← get).function f
    Eval.ofOperator (-1) (fn.checkArity args)
    Eval.ofOperator (-1) (fn.checkTypes args)
    invoke (callAt n) f args

/-- The levels of calls that a run has beyond the frames of the scope in
which it starts. -/
def spareLevels : Nat := Nat.pow 2 32

/-- The caller for a run that starts in a scope. -/
def callFrom (st : State) (s : ScopeId) : Caller := callAt ((st.scope s).limit + spareLevels)

/-! ### Entering a run -/

/-- Runs tokens against the root frame of a scope. The value is that of the
last expression, or null. A `return` means nothing here, and the last
expression needs its semicolon. -/
def execute (s : ScopeId) (ts : List Token) : Eval Value := do
  let call := callFrom (← get) s
  match ← run call ⟨s, 0⟩ false (Token.endOffset ts) {} ts with
  | .returned _ offset => Eval.fail .returnOutsideFunction offset
  | .finished p =>
    if p.pending.isSome then Eval.fail (.unterminated .atEnd) (Token.endOffset ts)
    else pure (p.last.getD .null)

/-- The scope from which a function's calls are counted. -/
def State.homeOrFirst (st : State) (f : FunctionId) : ScopeId := ((st.function f).home).getD 0

/-- Calls a function with arguments of the declared types. -/
def callFunction (f : FunctionId) (args : List Value) : Eval Value := do
  let st ← get
  callFrom st (st.homeOrFirst f) f args

/-- Calls a function with arguments of any types. -/
def invokeFunction (f : FunctionId) (args : List Value) : Eval Value := do
  let st ← get
  invoke (callFrom st (st.homeOrFirst f)) f args

/-- Builds an instance of a class against a scope. -/
def newInstance (name : Bytes) (body : List Token) (globals : Option ScopeId) :
    Eval Instance := do
  instantiate (callFrom (← get) (globals.getD 0)) globals name body

/-- The class at the front of a token list, built against a scope, and the
tokens behind it. -/
def newClass (ends : Int) (ts : List Token) (globals : Option ScopeId) :
    Eval (Instance × List Token) := do
  let (d, rest) ← Eval.ofReading (ClassDecl.read ends ts)
  let c ← newInstance d.name d.body globals
  pure (c, rest)

/-- Copies an instance. -/
def copyInstance (c : Instance) : Eval Instance := modifyGet (·.copy c)

/-- Calls a member function of an instance. -/
def callMember (c : Instance) (name : Bytes) (args : List Value) : Eval Value := do
  match ((← get).functionsOf c).get? name with
  | none => Eval.fail (.undefinedFunction (c.name ++ utf8 "." ++ name)) (-1)
  | some f => callFunction f args

/-- Registers a native function in the root frame of a scope. -/
def defineNative (s : ScopeId) (name : Bytes) (params : List Param) (native : Native) :
    Eval FunctionId := do
  let f ← modifyGet (·.addFunction (Function.ofNative name params native))
  modify (·.define ⟨s, 0⟩ f)
  pure f

/-- Registers the functions that every script can call. -/
def registerBuiltins (s : ScopeId) : Eval Unit := do
  let params := [⟨utf8 "value", Param.anyType⟩]
  let _ ← defineNative s (utf8 "print") params .print
  let _ ← defineNative s (utf8 "typeof") params .typeOf
  let _ ← defineNative s (utf8 "create") params .create
  Eval.report (.builtinsRegistered 3)

end Quartz
