import Quartz.Declaration
import Quartz.Eval.Expression

/-!
# `Quartz.Eval.Statement`: running statements

`run` goes through a token list statement by statement. The value of an
expression is pending until a semicolon commits it; a second expression
before that semicolon is refused. Braces, closing parentheses and commas
that stand alone mean nothing and are passed over.

* An assignment needs its semicolon, and looks for the variable after the
  right side has run.
* A chain of `if` and `else` runs at most one body (`conditional`). The
  whole chain is read even behind the body that ran, but no further
  condition is evaluated.
* A class declaration builds an instance at once (`instantiate`): its
  functions are registered, then its `variables` block runs in the
  instance's own frame, where assignments shadow outer variables.
* A `return` ends the list early.

The measure of the block is twice the number of tokens, plus one for a run.
-/

set_option autoImplicit false

namespace Quartz

/-- The values in a run of statements: of the statement in progress, and of
the last one completed. -/
structure Progress where
  pending : Option Value := none
  last : Option Value := none

namespace Progress

/-- The value of a list of statements that ends here. -/
def value (p : Progress) : Option Value := p.pending <|> p.last

/-- A semicolon: the pending value becomes the last one. -/
def committed (p : Progress) : Progress := ⟨none, p.value⟩

end Progress

/-- How a list of statements ends: at its end, or with a `return`. -/
inductive Flow where
  | finished (p : Progress)
  | returned (v : Value) (offset : Int)

/-- Refuses a statement while a value is pending. -/
def Progress.require (p : Progress) (place : Unterminated) (offset : Int) : Eval Unit :=
  if p.pending.isSome then Eval.fail (.unterminated place) offset else pure ()

/-- Whether an assignment sign stands at the front. -/
def opensAssignment : List Token → Bool
  | t :: _ => t.kind = .assign
  | [] => false

/-- The truth value of a condition. -/
def decideCondition (offset : Int) : Value → Eval Bool
  | .bool b => pure b
  | v => Eval.fail (.conditionType v.typeName) offset

/-- Evaluates the condition of an `if`, which must be a truth value. -/
def condition (call : Caller) (site : Site) (offset : Int) (ts : List Token) : Eval Bool :=
  if ts = [] then Eval.fail .emptyCondition offset
  else do decideCondition offset (← evaluate call site ts)

/-- Declares functions in the frame at a site. -/
def defineAll (site : Site) (owner : Nat) (ds : List FunctionDecl) : Eval Unit :=
  ds.forM fun d => modify fun st =>
    let (f, st) := st.addFunction { d.function with owner }
    st.define site f

/-- Stores a value in a variable: in the frame at hand, or where the
variable is visible. -/
def store (site : Site) (shadow : Bool) (name : Bytes) (v : Value) : Eval Unit :=
  modify fun st => if shadow then st.declare site name v else st.assign site name v

mutual

/-- Runs the statements of a token list. With `shadow`, assignments bind in
the frame at hand and leave outer variables alone. -/
def run (call : Caller) (site : Site) (shadow : Bool) (ends : Int) (p : Progress)
    (ts : List Token) : Eval Flow :=
  match ts with
  | [] => pure (.finished p)
  | t :: rest =>
    match t.kind with
    | .eof => pure (.finished p)
    | .error => Eval.malformed (.lexical t) t.offset
    | .semicolon => run call site shadow ends p.committed rest
    | .leftBrace | .rightBrace | .rightParen | .comma => run call site shadow ends p rest
    | .assign => Eval.malformed .assignmentTarget t.offset
    | .ident =>
      if opensAssignment rest then
        match rest with
        | [] => pure (.finished p)
        | sign :: tail => do
          p.require (.before t.literal) t.offset
          match h : Bracket.terminated? tail with
          | none => Eval.fail (.unterminated (.assignment t.literal)) t.offset
          | some ([], _) => Eval.fail (.operand (.noValue t.literal)) sign.offset
          | some (right, after) => do
            have := Bracket.length_of_terminated? h
            let v ← evaluate call site right
            store site shadow t.literal v
            run call site shadow ends ⟨none, some v⟩ after
      else do
        let known := ((← get).meaning site t.literal).known
        if known || opensParen rest then expression call site shadow ends p t rest
        else do
          p.require (.before t.literal) t.offset
          modify (·.declare site t.literal .null)
          let r ← binary call site ends false .null rest
          have := r.shorter
          run call site shadow ends { p with pending := some r.value } r.rest
    | .keyword =>
      match t.keyword? with
      | some .ret => do
        p.require .beforeReturn t.offset
        match Bracket.terminated? rest with
        | none => Eval.fail (.unterminated .ret) t.offset
        | some ([], _) => pure (.returned .null t.offset)
        | some (right, _) => do
          let v ← evaluate call site right
          pure (.returned v t.offset)
      | some .cond => do
        p.require .beforeIf t.offset
        conditional call site shadow ends p.last false t.offset rest
      | some .alternative => Eval.malformed .elseWithoutIf t.offset
      | some .function =>
        match h : FunctionDecl.read ends (t :: rest) with
        | .error e => Eval.stop (.runtime e)
        | .ok (d, after) => do
          have := FunctionDecl.length_of_read h
          defineAll site 0 [d]
          run call site shadow ends p after
      | some .crystal =>
        match h : ClassDecl.read ends (t :: rest) with
        | .error e => Eval.stop (.runtime e)
        | .ok (d, after) => do
          have := ClassDecl.length_of_read h
          let globals := (← get).outermost site.scope
          let c ← instantiate call (some globals) d.name d.body
          modify (·.declare site d.name (.object c))
          run call site shadow ends p after
      | some .variables => Eval.malformed .variablesOutsideClass t.offset
      | some .number | some .string | some .bool => run call site shadow ends p rest
      | _ => expression call site shadow ends p t rest
    | _ => expression call site shadow ends p t rest
termination_by 2 * ts.length + 1
decreasing_by all_goals simp only [List.length_cons] at *; omega

/-- Evaluates the expression that starts with a token, and goes on with its
value pending. -/
def expression (call : Caller) (site : Site) (shadow : Bool) (ends : Int) (p : Progress)
    (t : Token) (rest : List Token) : Eval Flow := do
  p.require (.before t.literal) t.offset
  let r ← operand call site ends (t :: rest)
  have := r.shorter
  let r ← binary call site ends false r.value r.rest
  have := r.shorter
  run call site shadow ends { p with pending := some r.value } r.rest
termination_by 2 * rest.length + 2
decreasing_by simp only [List.length_cons] at *; omega

/-- Goes on behind an `if`: a condition in parentheses, a body in braces,
and an `else` part if one follows. `taken` tells that a body of the chain
has run. A body that has a value hands it on as the last one. -/
def conditional (call : Caller) (site : Site) (shadow : Bool) (ends : Int)
    (last : Option Value) (taken : Bool) (offset : Int) (ts : List Token) : Eval Flow :=
  match h₁ : Declaration.bracketed .leftParen .expectedConditionParen .unbalancedCondition ends
      ts with
  | .error e => Eval.stop (.runtime e)
  | .ok (test, afterTest) =>
    match h₂ : Declaration.bracketed .leftBrace .expectedBrace .unbalancedBrace ends
        afterTest with
    | .error e => Eval.stop (.runtime e)
    | .ok (body, after) => do
      have := Declaration.length_of_bracketed h₁
      have := Declaration.length_of_bracketed h₂
      let holds ← if taken then pure false else condition call site offset test
      let flow ← if holds then run call site shadow (Token.endOffset body) {} body
        else pure (.finished {})
      match flow with
      | .returned v o => pure (.returned v o)
      | .finished p => alternative call site shadow ends (p.value <|> last) (taken || holds) after
termination_by 2 * ts.length
decreasing_by all_goals omega

/-- Goes on behind a body of a chain: with an `else` part if one follows,
and with the statements behind the chain otherwise. -/
def alternative (call : Caller) (site : Site) (shadow : Bool) (ends : Int)
    (last : Option Value) (taken : Bool) (ts : List Token) : Eval Flow :=
  match ts with
  | [] => pure (.finished ⟨none, last⟩)
  | t :: rest =>
    if t.isKeyword .alternative then
      match rest with
      | u :: more =>
        if u.isKeyword .cond then conditional call site shadow ends last taken u.offset more
        else final call site shadow ends last taken (u :: more)
      | [] => final call site shadow ends last taken []
    else run call site shadow ends ⟨none, last⟩ (t :: rest)
termination_by 2 * ts.length + 2
decreasing_by all_goals simp only [List.length_cons] at *; omega

/-- The body behind the last `else` of a chain, and the statements behind
it. -/
def final (call : Caller) (site : Site) (shadow : Bool) (ends : Int) (last : Option Value)
    (taken : Bool) (ts : List Token) : Eval Flow :=
  match h : Declaration.bracketed .leftBrace .expectedBrace .unbalancedBrace ends ts with
  | .error e => Eval.stop (.runtime e)
  | .ok (body, after) => do
    have := Declaration.length_of_bracketed h
    let flow ← if taken then pure (.finished {})
      else run call site shadow (Token.endOffset body) {} body
    match flow with
    | .returned v o => pure (.returned v o)
    | .finished p => run call site shadow ends ⟨none, p.value <|> last⟩ after
termination_by 2 * ts.length
decreasing_by all_goals omega

/-- Builds an instance of a class from its body, outside the given scope.
A failure names the class. -/
def instantiate (call : Caller) (outer : Option ScopeId) (name : Bytes) (body : List Token) :
    Eval Instance := do
  let id ← modifyGet (·.nextId)
  let scope ← modifyGet (·.newScope outer)
  let label := utf8 "crystal " ++ name
  match h : Members.scan body with
  | .error e => Eval.stop (.labelled label (.runtime e))
  | .ok members => do
    defineAll ⟨scope, 0⟩ id members.functions
    match hb : members.block with
    | none => pure ()
    | some block => do
      have := Members.length_of_scan h hb
      let flow ← Eval.mapFault (.labelled (label ++ utf8 ": variables"))
        (run call ⟨scope, 0⟩ true (Token.endOffset block) {} block)
      match flow with
      | .returned _ offset => Eval.malformed .returnInVariables offset
      | .finished _ => pure ()
    let functions := ((← get).scope scope).root.funcs.size
    Eval.report (.classCreated name id functions)
    pure ⟨name, id, body, scope, scope⟩
termination_by 2 * body.length + 2
decreasing_by omega

end

end Quartz
