import Quartz.Eval.Call

/-!
# `Quartz.Proofs.Cursor.Machine`: running over a cursor

The runs of `Quartz.Eval` take token lists apart from the front, where nothing can go out of
range. The machine here keeps a list whole and moves a cursor over it: it reads tokens by their
index, cuts slices out by their bounds, reaches frames by their number in a scope, and finds
scopes, functions and arguments by their place. Every such access is checked, and one that
reaches for something that is not there halts with `Halt.outOfRange`.

Where the cursor moves on, the machine checks that fewer tokens are left behind it, and that what
it cuts out is shorter than what was there. So it always ends: a loop that would not get ahead halts
with `Halt.stalled`. All else is as in `Quartz.Eval`.
-/

set_option autoImplicit false

namespace Quartz

/-- Why a checked run halts: as a run stops, because it reached for something that is not there, or
because it did not get ahead. -/
inductive Halt where
  | stop (s : Stop)
  | outOfRange
  | stalled

/-- A run in which every access is checked. -/
abbrev Guarded := EStateM Halt State

namespace Guarded

variable {α : Type}

/-- A run that accesses nothing by a place, as a checked one. -/
def ofEval (x : Eval α) : Guarded α := fun st =>
  match x st with
  | .ok a st' => .ok a st'
  | .error s st' => .error (.stop s) st'

instance : MonadLift Eval Guarded := ⟨ofEval⟩

/-- Reaches for something that is not there. -/
def outOfRange : Guarded α := throw .outOfRange

/-- Relies on a condition on the state. -/
def demand (p : State → Prop) [DecidablePred p] : Guarded Unit := do
  if p (← get) then pure () else outOfRange

/-- Relies on something by which a loop gets ahead. -/
def ensure (p : Prop) [Decidable p] : Guarded (PLift p) :=
  if h : p then pure ⟨h⟩ else throw .stalled

/-- A checked run whose fault, if it has one, is changed. -/
def mapFault (g : Fault → Fault) (x : Guarded α) : Guarded α := fun st =>
  match x st with
  | .error (.stop (.fault f)) st' => .error (.stop (.fault (g f))) st'
  | r => r

/-- A checked run after which the state is changed, however the run ends. -/
def thenAlways (cleanup : State → State) (x : Guarded α) : Guarded α := fun st =>
  match x st with
  | .ok a st' => .ok a (cleanup st')
  | .error h st' => .error h (cleanup st')

end Guarded

namespace Cursor

/-- The way to call a function from a checked run. -/
abbrev Caller := FunctionId → List Value → Guarded Value

/-! ### Tokens -/

/-- The token at an index. -/
def tokenAt (ts : List Token) (i : Nat) : Guarded Token :=
  match ts[i]? with
  | some t => pure t
  | none => Guarded.outOfRange

/-- The tokens from one index up to another. -/
def slice (ts : List Token) (i j : Nat) : Guarded (List Token) :=
  if i ≤ j ∧ j ≤ ts.length then pure ((ts.take j).drop i) else Guarded.outOfRange

/-- Relies on a cursor moving on: fewer tokens are left at the second index. -/
def ahead (ts : List Token) (i j : Nat) : Guarded (PLift (ts.length - j < ts.length - i)) :=
  Guarded.ensure _

/-- Whether there is a token at an index that passes a test. -/
def holdsAt (ts : List Token) (i : Nat) (p : Token → Bool) : Guarded Bool :=
  if i < ts.length then do
    let t ← tokenAt ts i
    pure (p t)
  else pure false

/-- The offset at which a complaint about an index points. -/
def placeAt (ts : List Token) (i : Nat) : Guarded Int :=
  if i < ts.length then do
    let t ← tokenAt ts i
    pure t.offset
  else if 0 < ts.length then do
    let t ← tokenAt ts (ts.length - 1)
    pure t.offset
  else pure (-1)

/-- Stops with a malformation at an index. -/
def complain {α : Type} (form : Malformation) (ts : List Token) (i : Nat) : Guarded α := do
  let offset ← placeAt ts i
  Eval.malformed form offset

/-! ### Brackets -/

/-- The index of the token that closes a bracket, from an index on and with `depth` brackets of
the kind open. -/
def closeFrom (ts : List Token) (opener closer : Kind) (depth : Int) (i : Nat) :
    Guarded (Option Nat) :=
  if i < ts.length then do
    let t ← tokenAt ts i
    if t.kind = opener then closeFrom ts opener closer (depth + 1) (i + 1)
    else if t.kind = closer then
      if depth - 1 = 0 then pure (some i) else closeFrom ts opener closer (depth - 1) (i + 1)
    else closeFrom ts opener closer depth (i + 1)
  else pure none
termination_by ts.length - i

/-- The index of the token that closes the bracket at an index. -/
def matchingClose (ts : List Token) (i : Nat) : Guarded (Option Nat) :=
  if i < ts.length then do
    let t ← tokenAt ts i
    match Bracket.closer? t.kind with
    | none => pure none
    | some closer => closeFrom ts t.kind closer 0 i
  else pure none

/-- The index of the first semicolon from an index on. -/
def terminator (ts : List Token) (i : Nat) : Guarded (Option Nat) :=
  if i < ts.length then do
    let t ← tokenAt ts i
    if t.kind = .semicolon then pure (some i) else terminator ts (i + 1)
  else pure none
termination_by ts.length - i

/-- The pieces between the commas outside parentheses, from an index on. The first of them began
at `start`, and `done` are those before it. -/
def splitFrom (ts : List Token) (depth : Int) (start i : Nat) (done : List (List Token)) :
    Guarded (List (List Token)) :=
  if i < ts.length then do
    let t ← tokenAt ts i
    if t.kind = .comma ∧ depth = 0 then do
      let span ← slice ts start i
      splitFrom ts depth (i + 1) (i + 1) (done ++ [span])
    else splitFrom ts (depth + Bracket.parenWeight t) start (i + 1) done
  else do
    let span ← slice ts start ts.length
    pure (done ++ [span])
termination_by ts.length - i

/-- The arguments in a token list. -/
def splitArguments (ts : List Token) : Guarded (List (List Token)) :=
  if ts.length = 0 then pure [] else splitFrom ts 0 0 0 []

/-! ### Declarations -/

/-- Asks for a token that passes a test at an index. -/
def expectAt (ts : List Token) (i : Nat) (p : Token → Bool) (form : Malformation) :
    Guarded Unit := do
  if ← holdsAt ts i p then pure () else complain form ts i

/-- Asks for a bracket of a kind at an index, and gives the index of the token that closes it. -/
def bracketAt (ts : List Token) (opener : Kind) (absent unclosed : Malformation) (i : Nat) :
    Guarded Nat := do
  expectAt ts i (·.kind = opener) absent
  match ← matchingClose ts i with
  | some close => pure close
  | none => complain unclosed ts i

/-- The parameter that a piece declares. -/
def parseParam (span : List Token) : Guarded Param := do
  if span.length = 2 then
    let type ← tokenAt span 0
    let name ← tokenAt span 1
    if type.namesType && name.kind = .ident then return ⟨name.literal, type.literal⟩
  if 0 < span.length then
    let t ← tokenAt span 0
    Eval.malformed .parameterForm t.offset
  else Eval.malformed .parameterForm (-1)

/-- The parameters that several pieces declare. -/
def parseParams : List (List Token) → Guarded (List Param)
  | [] => pure []
  | span :: spans => do
    let p ← parseParam span
    let ps ← parseParams spans
    pure (p :: ps)

/-- The function declaration at an index, and the index behind it. -/
def parseFunction (ts : List Token) (i : Nat) : Guarded (FunctionDecl × Nat) := do
  expectAt ts i (·.isKeyword .function) .expectedFunction
  expectAt ts (i + 1) (·.kind = .ident) .expectedFunctionName
  let name ← tokenAt ts (i + 1)
  let close ← bracketAt ts .leftParen .expectedParameterList .unbalancedParameterList (i + 2)
  let list ← slice ts (i + 3) close
  let spans ← splitArguments list
  let params ← parseParams spans
  let last ← bracketAt ts .leftBrace .expectedFunctionBody .unbalancedFunctionBody (close + 1)
  let body ← slice ts (close + 2) last
  pure (⟨name.literal, params, body⟩, last + 1)

/-- The class declaration at an index, and the index behind it. -/
def parseClass (ts : List Token) (i : Nat) : Guarded (ClassDecl × Nat) := do
  expectAt ts i (·.isKeyword .crystal) .expectedClass
  expectAt ts (i + 1) (·.kind = .ident) .expectedClassName
  let close ← bracketAt ts .leftBrace .expectedClassBody .unbalancedClassBody (i + 2)
  let name ← tokenAt ts (i + 1)
  let body ← slice ts (i + 3) close
  pure (⟨name.literal, body, name.offset⟩, close + 1)

/-- The members that a class body declares from an index on. The functions found so far are in
reverse. -/
def scanFrom (ts : List Token) (found : Members) (i : Nat) : Guarded Members :=
  if i < ts.length then do
    let t ← tokenAt ts i
    if t.isKeyword .function then do
      let r ← parseFunction ts i
      let ⟨_⟩ ← ahead ts i r.2
      scanFrom ts { found with functions := r.1 :: found.functions } r.2
    else if t.isKeyword .variables then do
      let close ← bracketAt ts .leftBrace .expectedVariablesBlock .unbalancedVariablesBlock (i + 1)
      if found.block.isSome then complain .duplicateVariablesBlock ts i
      else do
        let block ← slice ts (i + 2) close
        let ⟨_⟩ ← ahead ts i (close + 1)
        scanFrom ts { found with block := some block } (close + 1)
    else if t.kind = .leftBrace then do
      match ← matchingClose ts i with
      | none => complain .unbalancedClassBody ts i
      | some close =>
        let ⟨_⟩ ← ahead ts i (close + 1)
        scanFrom ts found (close + 1)
    else scanFrom ts found (i + 1)
  else pure { found with functions := found.functions.reverse }
termination_by ts.length - i

/-! ### Scopes and frames -/

/-- The scope at a place. -/
def scopeAt (s : ScopeId) : Guarded Scope := do
  Guarded.demand fun st => s < st.scopes.size
  let st ← get
  pure (st.scope s)

/-- The frame at a site, which has to be live. -/
def frameAt (site : Site) : Guarded Frame := do
  let scope ← scopeAt site.scope
  if site.frame < scope.live then pure (scope.frame site.frame) else Guarded.outOfRange

/-- The first frame of a scope with a property, from an index along the parents. -/
def seekFrame (has : Frame → Bool) (s : ScopeId) (i : Int) : Guarded (Option Nat) := do
  let scope ← scopeAt s
  if 0 ≤ i ∧ i < scope.live then
    let f ← frameAt ⟨s, i.toNat⟩
    if has f then pure (some i.toNat)
    else do
      let ⟨_⟩ ← Guarded.ensure (f.parent < i)
      seekFrame has s f.parent
  else pure none
termination_by (i + 1).toNat

/-- The first frame with a property that a search from a frame of a scope meets. -/
def seek (has : Frame → Bool) (s : ScopeId) (i : Int) : Guarded (Option Site) := do
  match ← seekFrame has s i with
  | some j => pure (some ⟨s, j⟩)
  | none =>
    let scope ← scopeAt s
    match scope.outer with
    | none => pure none
    | some o =>
      let ⟨_⟩ ← Guarded.ensure (o < s)
      seek has o 0
termination_by s

/-- The outermost scope around a scope. -/
def globals (s : ScopeId) : Guarded ScopeId := do
  let scope ← scopeAt s
  match scope.outer with
  | none => pure s
  | some o =>
    let ⟨_⟩ ← Guarded.ensure (o < s)
    globals o
termination_by s

/-- What a name is bound to in one of the tables of the frames that are visible from a site. -/
def lookUp {α : Type} (table : Frame → Bindings α) (site : Site) (name : Bytes) :
    Guarded (Option α) := do
  match ← seek (fun f => (table f).contains name) site.scope site.frame with
  | none => pure none
  | some holder =>
    let f ← frameAt holder
    match (table f).get? name with
    | some a => pure (some a)
    | none => Guarded.outOfRange

/-- What a name means at a site. -/
def meaning (site : Site) (name : Bytes) : Guarded State.Meaning := do
  match ← lookUp Frame.vars site name with
  | some v => pure (.variable v)
  | none =>
    match ← lookUp Frame.funcs site name with
    | some f => pure (.function f)
    | none => pure .unknown

/-- Binds a variable in the frame at a site. -/
def declare (site : Site) (name : Bytes) (v : Value) : Guarded Unit := do
  let _ ← frameAt site
  modify (·.declare site name v)

/-- Changes the variable that is visible from a site, or binds it there. -/
def assign (site : Site) (name : Bytes) (v : Value) : Guarded Unit := do
  match ← seek (fun f => f.vars.contains name) site.scope site.frame with
  | some holder => declare holder name v
  | none => declare site name v

/-- Stores a value in a variable. -/
def store (site : Site) (shadow : Bool) (name : Bytes) (v : Value) : Guarded Unit :=
  if shadow then declare site name v else assign site name v

/-- Declares functions in the frame at a site. -/
def defineAll (site : Site) (owner : Nat) : List FunctionDecl → Guarded Unit
  | [] => pure ()
  | d :: ds => do
    let _ ← frameAt site
    modify fun st =>
      let (f, st) := st.addFunction { d.function with owner }
      st.define site f
    defineAll site owner ds

/-! ### Expressions -/

section

variable (call : Caller) (site : Site)

-- The measure is six times the number of tokens left, plus a level for the calls that pass all
-- tokens on.
mutual

/-- The operand at an index, and the index behind it. -/
def operand (ts : List Token) (i : Nat) : Guarded (Value × Nat) :=
  if i < ts.length then do
    let t ← tokenAt ts i
    match t.kind with
    | .number | .string => pure (.ofLiteral t.literal, i + 1)
    | .keyword =>
      match constant? t with
      | some v => pure (v, i + 1)
      | none => Eval.malformed (.unexpectedKeyword t.literal) t.offset
    | .ident => do
      let opens ← holdsAt ts (i + 1) (·.kind = .leftParen)
      let m ← meaning site t.literal
      match opens, m.callee? with
      | true, some f => application ts (i + 1) f t
      | opens, _ =>
        match m.value? with
        | some v => pure (v, i + 1)
        | none =>
          if opens then Eval.fail (.undefinedFunction t.literal) t.offset
          else Eval.fail (.operand (.undefined t.literal)) t.offset
    | .leftParen => do
      match ← matchingClose ts i with
      | none => Eval.malformed .unbalancedGroup t.offset
      | some close =>
        if close = i + 1 then Eval.fail (.operand .emptyGroup) t.offset
        else do
          let inner ← slice ts (i + 1) close
          let ⟨_⟩ ← Guarded.ensure (inner.length < ts.length - i)
          let v ← evaluate inner
          pure (v, close + 1)
    | .minus => do
      let r ← operand ts (i + 1)
      let v ← negate t r.1
      pure (v, r.2)
    | .not => do
      let r ← operand ts (i + 1)
      let v ← Eval.ofOperator t.offset (Value.applyUnary .not r.1)
      pure (v, r.2)
    | .error => Eval.malformed (.lexical t) t.offset
    | _ => Eval.fail (.operand (.unexpected t.literal)) t.offset
  else do
    let offset ← placeAt ts i
    Eval.fail (.operand .missing) offset
termination_by (6 * (ts.length - i), 0)

/-- A call of a function whose arguments open at an index, and the index behind it. -/
def application (ts : List Token) (i : Nat) (f : FunctionId) (name : Token) :
    Guarded (Value × Nat) := do
  match ← matchingClose ts i with
  | none => do
    let t ← tokenAt ts i
    Eval.malformed (.unbalancedCall name.literal) t.offset
  | some close => do
    let inner ← slice ts (i + 1) close
    let spans ← splitArguments inner
    let args ← arguments name (ts.length - i) spans
    let v ← Guarded.mapFault (·.placedAt name.offset) (call f args)
    pure (v, close + 1)
termination_by (6 * (ts.length - i) + 5, 0)

/-- The values of several arguments, each of fewer than `most` tokens. -/
def arguments (name : Token) (most : Nat) (spans : List (List Token)) : Guarded (List Value) :=
  match spans with
  | [] => pure []
  | span :: spans =>
    if span.length = 0 then Eval.fail (.operand (.emptyArgument name.literal)) name.offset
    else do
      let ⟨_⟩ ← Guarded.ensure (span.length < most)
      let v ← evaluate span
      let vs ← arguments name most spans
      pure (v :: vs)
termination_by (6 * most + 4, spans.length)

/-- The value of a whole token list. -/
def evaluate (ts : List Token) : Guarded Value := do
  let r ← operand ts 0
  let r ← binary ts false r.1 r.2
  if r.2 < ts.length then do
    let t ← tokenAt ts r.2
    Eval.malformed (.leftover t.literal) t.offset
  else pure r.1
termination_by (6 * ts.length + 5, 0)

/-- Applies the operators from an index on to a value. -/
def binary (ts : List Token) (compared : Bool) (left : Value) (i : Nat) :
    Guarded (Value × Nat) :=
  if i < ts.length then do
    let op ← tokenAt ts i
    if op.kind.isArithmetic then do
      let r ← reduce ts 0 left i
      let ⟨_⟩ ← ahead ts i r.2
      binary ts compared r.1 r.2
    else if op.kind.isRelational then
      if compared then Eval.malformed (.comparedAgain op.literal) op.offset
      else do
        let r ← relational ts left i
        let ⟨_⟩ ← ahead ts i r.2
        binary ts true r.1 r.2
    else if op.kind.isLogical then do
      let r ← logical ts left i
      let ⟨_⟩ ← ahead ts i r.2
      binary ts true r.1 r.2
    else pure (left, i)
  else pure (left, i)
termination_by (6 * (ts.length - i) + 4, 0)

/-- Folds the arithmetic operators from an index on that bind tighter than a priority. -/
def reduce (ts : List Token) (floor : Nat) (left : Value) (i : Nat) : Guarded (Value × Nat) :=
  if i < ts.length then do
    let op ← tokenAt ts i
    if op.kind.isArithmetic && floor < op.kind.priority then do
      let r ← term ts op.kind.priority (i + 1)
      let v ← combine op left r.1
      let ⟨_⟩ ← ahead ts i r.2
      reduce ts floor v r.2
    else pure (left, i)
  else pure (left, i)
termination_by (6 * (ts.length - i) + 1, 0)

/-- The operand at an index, and what is folded into it. -/
def term (ts : List Token) (floor i : Nat) : Guarded (Value × Nat) := do
  let r ← operand ts i
  let ⟨_⟩ ← ahead ts i r.2
  reduce ts floor r.1 r.2
termination_by (6 * (ts.length - i) + 1, 0)

/-- Compares a value with the term behind the operator at an index. -/
def relational (ts : List Token) (left : Value) (i : Nat) : Guarded (Value × Nat) := do
  let op ← tokenAt ts i
  let r ← term ts 0 (i + 1)
  let v ← combine op left r.1
  pure (v, r.2)
termination_by (6 * (ts.length - i) + 2, 0)

/-- Combines a value with the comparison behind the logical operator at an index. -/
def logical (ts : List Token) (left : Value) (i : Nat) : Guarded (Value × Nat) := do
  let op ← tokenAt ts i
  let r ← term ts 0 (i + 1)
  let compares ← holdsAt ts r.2 (·.kind.isRelational)
  if compares then do
    let ⟨_⟩ ← ahead ts i r.2
    let r ← relational ts r.1 r.2
    let v ← combine op left r.1
    pure (v, r.2)
  else do
    let v ← combine op left r.1
    pure (v, r.2)
termination_by (6 * (ts.length - i) + 3, 0)

end

/-- The truth value of the condition of an `if`. -/
def condition (offset : Int) (ts : List Token) : Guarded Bool :=
  if ts.length = 0 then Eval.fail .emptyCondition offset
  else do
    let v ← evaluate call site ts
    decideCondition offset v

/-- The truth value of the condition between two indices. Once a body of its chain was taken, it
counts as false. -/
def conditionIn (taken : Bool) (offset : Int) (ts : List Token) (i j : Nat) : Guarded Bool :=
  if taken then pure false
  else do
    let test ← slice ts i j
    condition call site offset test

end

/-! ### Statements -/

/-- The tokens in the braces that open at an index, and the index behind them. -/
def blockAt (ts : List Token) (i : Nat) : Guarded (List Token × Nat) := do
  let close ← bracketAt ts .leftBrace .expectedBrace .unbalancedBrace i
  let body ← slice ts (i + 1) close
  pure (body, close + 1)

/-- Hands out an id and a scope inside another one, and opens its root frame. -/
def allot (outer : ScopeId) (name : Bytes) (body : List Token) : Guarded Instance := do
  let _ ← scopeAt outer
  let id ← modifyGet (·.nextId)
  let scope ← modifyGet (·.newScope (some outer))
  let _ ← frameAt ⟨scope, 0⟩
  pure ⟨name, id, body, scope, scope⟩

section

variable (call : Caller)

mutual

/-- Runs the statements from an index on. -/
def run (site : Site) (shadow : Bool) (ts : List Token) (p : Progress) (i : Nat) : Guarded Flow :=
  if i < ts.length then do
    let t ← tokenAt ts i
    match t.kind with
    | .eof => run site shadow ts p ts.length
    | .error => Eval.malformed (.lexical t) t.offset
    | .semicolon => run site shadow ts p.committed (i + 1)
    | .leftBrace | .rightBrace | .rightParen | .comma => run site shadow ts p (i + 1)
    | .assign => Eval.malformed .assignmentTarget t.offset
    | .ident => do
      let assigns ← holdsAt ts (i + 1) (·.kind = .assign)
      if assigns then assignment site shadow ts p t i
      else do
        let m ← meaning site t.literal
        let opens ← holdsAt ts (i + 1) (·.kind = .leftParen)
        if m.known || opens then expression site shadow ts p i
        else do
          p.require (.before t.literal) t.offset
          declare site t.literal .null
          let r ← binary call site ts false .null (i + 1)
          let ⟨_⟩ ← ahead ts i r.2
          run site shadow ts { p with pending := some r.1 } r.2
    | .keyword => keyword site shadow ts p t i
    | _ => expression site shadow ts p i
  else pure (.finished p)
termination_by 6 * (ts.length - i) + 4

/-- The expression at an index, as a statement. -/
def expression (site : Site) (shadow : Bool) (ts : List Token) (p : Progress) (i : Nat) :
    Guarded Flow := do
  let t ← tokenAt ts i
  p.require (.before t.literal) t.offset
  let r ← operand call site ts i
  let r ← binary call site ts false r.1 r.2
  let ⟨_⟩ ← ahead ts i r.2
  run site shadow ts { p with pending := some r.1 } r.2
termination_by 6 * (ts.length - i) + 1

/-- The assignment to the name at an index. -/
def assignment (site : Site) (shadow : Bool) (ts : List Token) (p : Progress) (t : Token)
    (i : Nat) : Guarded Flow := do
  p.require (.before t.literal) t.offset
  match ← terminator ts (i + 2) with
  | none => Eval.fail (.unterminated (.assignment t.literal)) t.offset
  | some close =>
    if close = i + 2 then do
      let sign ← tokenAt ts (i + 1)
      Eval.fail (.operand (.noValue t.literal)) sign.offset
    else do
      let right ← slice ts (i + 2) close
      let v ← evaluate call site right
      store site shadow t.literal v
      let ⟨_⟩ ← ahead ts i (close + 1)
      run site shadow ts ⟨none, some v⟩ (close + 1)
termination_by 6 * (ts.length - i) + 1

/-- The statement whose keyword stands at an index. -/
def keyword (site : Site) (shadow : Bool) (ts : List Token) (p : Progress) (t : Token) (i : Nat) :
    Guarded Flow :=
  match t.keyword? with
  | some .ret => do
    p.require .beforeReturn t.offset
    match ← terminator ts (i + 1) with
    | none => Eval.fail (.unterminated .ret) t.offset
    | some close =>
      if i + 1 < close then do
        let right ← slice ts (i + 1) close
        let v ← evaluate call site right
        pure (.returned v t.offset)
      else pure (.returned .null t.offset)
  | some .cond => do
    p.require .beforeIf t.offset
    conditional site shadow ts p.last false i
  | some .alternative => Eval.malformed .elseWithoutIf t.offset
  | some .function => do
    let r ← parseFunction ts i
    defineAll site 0 [r.1]
    let ⟨_⟩ ← ahead ts i r.2
    run site shadow ts p r.2
  | some .crystal => do
    let r ← parseClass ts i
    let outer ← globals site.scope
    let ⟨_⟩ ← Guarded.ensure (r.1.body.length < ts.length - i)
    let c ← construct outer r.1.name r.1.body
    declare site r.1.name (.object c)
    let ⟨_⟩ ← ahead ts i r.2
    run site shadow ts p r.2
  | some .variables => Eval.malformed .variablesOutsideClass t.offset
  | some .number | some .string | some .bool => do
    let ⟨_⟩ ← ahead ts i (i + 1)
    run site shadow ts p (i + 1)
  | _ => expression site shadow ts p i
termination_by 6 * (ts.length - i) + 3

/-- The chain of conditions whose `if` stands at an index. -/
def conditional (site : Site) (shadow : Bool) (ts : List Token) (last : Option Value)
    (taken : Bool) (i : Nat) : Guarded Flow := do
  let t ← tokenAt ts i
  let close ← bracketAt ts .leftParen .expectedConditionParen .unbalancedCondition (i + 1)
  let block ← blockAt ts (close + 1)
  let holds ← conditionIn call site taken t.offset ts (i + 2) close
  let ⟨_⟩ ← Guarded.ensure (block.1.length < ts.length - i)
  let flow ← bodyIf holds site shadow block.1
  match flow with
  | .returned v o => pure (.returned v o)
  | .finished p =>
    let ⟨_⟩ ← ahead ts i block.2
    alternative site shadow ts (p.value <|> last) (taken || holds) block.2
termination_by 6 * (ts.length - i) + 2

/-- Runs a body of a chain, or passes it over. -/
def bodyIf (runs : Bool) (site : Site) (shadow : Bool) (ts : List Token) : Guarded Flow :=
  if runs then run site shadow ts {} 0 else pure (.finished {})
termination_by 6 * ts.length + 5

/-- Goes on behind a body of a chain. -/
def alternative (site : Site) (shadow : Bool) (ts : List Token) (last : Option Value)
    (taken : Bool) (i : Nat) : Guarded Flow := do
  let more ← holdsAt ts i (·.isKeyword .alternative)
  if more then do
    let again ← holdsAt ts (i + 1) (·.isKeyword .cond)
    if again then conditional site shadow ts last taken (i + 1)
    else final site shadow ts last taken (i + 1)
  else run site shadow ts ⟨none, last⟩ i
termination_by 6 * (ts.length - i) + 5

/-- The body behind the last `else` of a chain, and the statements behind it. -/
def final (site : Site) (shadow : Bool) (ts : List Token) (last : Option Value) (taken : Bool)
    (i : Nat) : Guarded Flow := do
  let block ← blockAt ts i
  let ⟨_⟩ ← Guarded.ensure (block.1.length < ts.length - i)
  let flow ← bodyIf (!taken) site shadow block.1
  match flow with
  | .returned v o => pure (.returned v o)
  | .finished p =>
    let ⟨_⟩ ← ahead ts i block.2
    run site shadow ts ⟨none, p.value <|> last⟩ block.2
termination_by 6 * (ts.length - i) + 1

/-- Builds an instance of a class from its body, inside a scope. -/
def construct (outer : ScopeId) (name : Bytes) (body : List Token) : Guarded Instance := do
  let c ← allot outer name body
  let members ← Guarded.mapFault (.labelled (utf8 "crystal " ++ name))
    (scanFrom body ⟨[], none⟩ 0)
  defineAll ⟨c.scope, 0⟩ c.id members.functions
  setUp name c.scope body.length members.block
  let root ← frameAt ⟨c.scope, 0⟩
  Eval.report (.classCreated name c.id root.funcs.size)
  pure c
termination_by 6 * body.length + 5

/-- Runs the variables block of a class, of fewer than `most` tokens, in the scope of an
instance. -/
def setUp (name : Bytes) (scope : ScopeId) (most : Nat) (block : Option (List Token)) :
    Guarded Unit :=
  match block with
  | none => pure ()
  | some ts => do
    let ⟨_⟩ ← Guarded.ensure (ts.length < most)
    let flow ← Guarded.mapFault (.labelled (utf8 "crystal " ++ name ++ utf8 ": variables"))
      (run ⟨scope, 0⟩ true ts {} 0)
    match flow with
    | .returned _ offset => Eval.malformed .returnInVariables offset
    | .finished _ => pure ()
termination_by 6 * most + 4

end

end

/-! ### Calls -/

/-- The function at a place. -/
def functionAt (f : FunctionId) : Guarded Function := do
  Guarded.demand fun st => f < st.functions.size
  let st ← get
  pure (st.function f)

/-- The argument at an index. -/
def argumentAt (args : List Value) (i : Nat) : Guarded Value :=
  match args[i]? with
  | some v => pure v
  | none => Guarded.outOfRange

/-- Checks the types of the arguments from an index on. -/
def checkTypes (fn : Function) (args : List Value) (i : Nat) : List Param → Guarded Unit
  | [] => pure ()
  | p :: ps => do
    let v ← argumentAt args i
    if p.accepts v then checkTypes fn args (i + 1) ps
    else Eval.fail (.argumentType fn.name p.name p.type v.typeName) (-1)

/-- Binds parameters to the arguments from an index on. -/
def bindAll (site : Site) (args : List Value) (i : Nat) : List Param → Guarded Unit
  | [] => pure ()
  | p :: ps => do
    let v ← argumentAt args i
    declare site p.name v
    bindAll site args (i + 1) ps

/-- Whether a value can be displayed: a function has to be there. -/
def displayable (st : State) : Value → Bool
  | .function f => f < st.functions.size
  | _ => true

/-- Whether a value can be copied: all instances that the copy meets have root frames. -/
def copyable (st : State) : Value → Bool
  | .object c => (st.tourFrom c).entered.all fun d =>
    d.scope < st.scopes.size && 0 < (st.scope d.scope).live
  | _ => true

/-- What a native function does with its arguments. The three that every script can call read
their first argument. -/
def perform (native : Native) (args : List Value) : Guarded Value :=
  match native with
  | .print => do
    let v ← argumentAt args 0
    Guarded.demand fun st => displayable st v
    Native.print.perform args
  | .typeOf => do
    let _ ← argumentAt args 0
    Native.typeOf.perform args
  | .create => do
    let v ← argumentAt args 0
    Guarded.demand fun st => copyable st v
    Native.create.perform args
  | native => native.perform args

/-- The value of a function body at a site. -/
def bodyValue (call : Caller) (site : Site) (body : List Token) : Guarded Value := do
  match ← run call site false body {} 0 with
  | .returned v _ => pure v
  | .finished p => pure (p.value.getD .null)

/-- Runs a function without looking at the types of its arguments. -/
def invoke (call : Caller) : Caller := fun f args => do
  let fn ← functionAt f
  Eval.ofOperator (-1) (fn.checkArity args)
  match fn.native with
  | some native => perform native args
  | none =>
    let home ← homeOf f
    let _ ← scopeAt home
    let frame ← pushFrame home 0
    Guarded.thenAlways (·.release home frame) do
      let scope ← scopeAt home
      Eval.report (.invoking fn.name args.length scope.depth)
      bindAll ⟨home, frame⟩ args 0 fn.params
      bodyValue call ⟨home, frame⟩ fn.body

/-- The caller with a number of levels. -/
def callAt : Nat → Caller
  | 0 => fun _ _ => throw (.stop .exhausted)
  | n + 1 => fun f args => do
    let fn ← functionAt f
    Eval.ofOperator (-1) (fn.checkArity args)
    checkTypes fn args 0 fn.params
    invoke (callAt n) f args

/-- Runs tokens against the root frame of a scope, with a number of levels of calls. -/
def executeAt (level : Nat) (s : ScopeId) (ts : List Token) : Guarded Value := do
  match ← run (callAt level) ⟨s, 0⟩ false ts {} 0 with
  | .returned _ offset => Eval.fail .returnOutsideFunction offset
  | .finished p =>
    if p.pending.isSome then do
      let t ← tokenAt ts (ts.length - 1)
      Eval.fail (.unterminated .atEnd) t.offset
    else pure (p.last.getD .null)

end Cursor

end Quartz
