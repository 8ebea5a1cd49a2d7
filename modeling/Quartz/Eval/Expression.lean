import Quartz.Eval.Basic
import Quartz.Token.Bracket
import Quartz.Value.Apply
import Quartz.Value.Literal

/-!
# `Quartz.Eval.Expression`: the value of an expression

Expressions are evaluated while they are read, from left to right, and no
tree is built. Operators bind in three tiers:

* `*`, `/` and `%` tighter than `+` and `-`, both from left to right
  (`term`, `reduce`);
* one comparison between two such terms, which cannot be compared again;
* `&&` and `||`, which share one tier and always evaluate both sides.

`binary` applies the operators that follow a value, `operand` reads what
stands between operators. Parentheses and arguments are evaluated whole by
`evaluate`, which accepts no token left over.

Every reader hands back the tokens that it did not use, and the fact that
they are fewer. The measure of the block is four times the number of
tokens, plus a level for the calls that pass all tokens on.
-/

set_option autoImplicit false

namespace Quartz

/-- A value that was read off the front of fewer than `n` tokens' worth of
input, and the tokens behind it. -/
structure Reading (n : Nat) where
  value : Value
  rest : List Token
  shorter : rest.length < n

namespace Reading

/-- The same reading under a larger bound. -/
def widen {m n : Nat} (r : Reading m) (h : m ≤ n) : Reading n :=
  ⟨r.value, r.rest, Nat.lt_of_lt_of_le r.shorter h⟩

end Reading

/-- Whether a parenthesis opens at the front. -/
def opensParen : List Token → Bool
  | t :: _ => t.kind = .leftParen
  | [] => false

/-- The operator of a token applied to two values. -/
def combine (op : Token) (left right : Value) : Eval Value :=
  match op.kind.operator? with
  | some o => Eval.ofOperator op.offset (Value.apply o left right)
  | none => Eval.fail (.operand (.notBinary op.literal)) op.offset

/-- The negative of a value, which must be a number. -/
def negate (op : Token) : Value → Eval Value
  | .number x => pure (.number (-x))
  | v => Eval.fail (.unsupported .subtract v.typeName) op.offset

/-- The value that a keyword stands for. -/
def constant? (t : Token) : Option Value :=
  match t.keyword? with
  | some .null => some .null
  | some .yes => some (.bool true)
  | some .no => some (.bool false)
  | _ => none

mutual

/-- The operand at the front: a literal, a name, a call, a group in
parentheses, or one of these behind a sign. -/
def operand (call : Caller) (site : Site) (ends : Int) (ts : List Token) :
    Eval (Reading ts.length) :=
  match ts with
  | [] => Eval.fail (.operand .missing) ends
  | t :: rest =>
    match t.kind with
    | .number | .string => pure ⟨.ofLiteral t.literal, rest, by simp⟩
    | .keyword =>
      match constant? t with
      | some v => pure ⟨v, rest, by simp⟩
      | none => Eval.malformed (.unexpectedKeyword t.literal) t.offset
    | .ident => do
      let meaning := (← get).meaning site t.literal
      match opensParen rest, meaning.callee? with
      | true, some f => do
        let r ← application call site f t rest
        pure (r.widen (by simp))
      | opens, _ =>
        match meaning.value? with
        | some v => pure ⟨v, rest, by simp⟩
        | none =>
          if opens then Eval.fail (.undefinedFunction t.literal) t.offset
          else Eval.fail (.operand (.undefined t.literal)) t.offset
    | .leftParen =>
      match h : Bracket.enclosed? (t :: rest) with
      | none => Eval.malformed .unbalancedGroup t.offset
      | some ([], _) => Eval.fail (.operand .emptyGroup) t.offset
      | some (inner, after) => do
        have hlen := Bracket.length_of_enclosed? h
        let v ← evaluate call site inner
        pure ⟨v, after, by simp only [List.length_cons] at hlen ⊢; omega⟩
    | .minus => do
      let r ← operand call site ends rest
      let v ← negate t r.value
      pure ⟨v, r.rest, by have := r.shorter; simp only [List.length_cons]; omega⟩
    | .not => do
      let r ← operand call site ends rest
      let v ← Eval.ofOperator t.offset (Value.applyUnary .not r.value)
      pure ⟨v, r.rest, by have := r.shorter; simp only [List.length_cons]; omega⟩
    | .error => Eval.malformed (.lexical t) t.offset
    | _ => Eval.fail (.operand (.unexpected t.literal)) t.offset
termination_by 4 * ts.length
decreasing_by all_goals simp only [List.length_cons] at *; omega

/-- A call of a function: the parenthesis in front encloses the arguments.
A failure of the call that has no place of its own is placed at the name. -/
def application (call : Caller) (site : Site) (f : FunctionId) (name : Token)
    (ts : List Token) : Eval (Reading ts.length) :=
  match h : Bracket.enclosed? ts with
  | some (inner, after) => do
    have hlen := Bracket.length_of_enclosed? h
    let args ← if inner = [] then pure [] else arguments call site name inner
    let v ← Eval.mapFault (·.placedAt name.offset) (call f args)
    pure ⟨v, after, by omega⟩
  | none => Eval.malformed (.unbalancedCall name.literal) (Token.place (-1) ts)
termination_by 4 * ts.length + 3
decreasing_by omega

/-- The values of the arguments between commas, from left to right. -/
def arguments (call : Caller) (site : Site) (name : Token) (ts : List Token) :
    Eval (List Value) :=
  match h : Bracket.cutArgument ts with
  | ([], _) => Eval.fail (.operand (.emptyArgument name.literal)) name.offset
  | (span, none) => do
    have : span.length ≤ ts.length := by have := Bracket.length_cutArgument_le ts; rwa [h] at this
    let v ← evaluate call site span
    pure [v]
  | (span, some more) => do
    have : span.length ≤ ts.length := by have := Bracket.length_cutArgument_le ts; rwa [h] at this
    have := Bracket.length_lt_of_cutArgument h
    let v ← evaluate call site span
    let vs ← arguments call site name more
    pure (v :: vs)
termination_by 4 * ts.length + 2
decreasing_by all_goals omega

/-- The value of a whole token list, which must be one expression. -/
def evaluate (call : Caller) (site : Site) (ts : List Token) : Eval Value := do
  let ends := Token.endOffset ts
  let r ← operand call site ends ts
  have := r.shorter
  let r ← binary call site ends false r.value r.rest
  match r.rest with
  | [] => pure r.value
  | t :: _ => Eval.malformed (.leftover t.literal) t.offset
termination_by 4 * ts.length + 1
decreasing_by all_goals omega

/-- Applies the operators that follow a value. The flag tells that the
value is the result of a comparison or of a logical operator. -/
def binary (call : Caller) (site : Site) (ends : Int) (compared : Bool) (left : Value)
    (ts : List Token) : Eval (Reading (ts.length + 1)) :=
  match ts with
  | [] => pure ⟨left, [], by simp⟩
  | op :: rest =>
    if op.kind.isArithmetic then do
      let r ← term call site ends op.kind.priority rest
      have := r.shorter
      let v ← combine op left r.value
      let r ← binary call site ends compared v r.rest
      pure (r.widen (by simp only [List.length_cons]; omega))
    else if op.kind.isRelational then
      if compared then Eval.malformed (.comparedAgain op.literal) op.offset
      else do
        let r ← term call site ends 0 rest
        have := r.shorter
        let v ← combine op left r.value
        let r ← binary call site ends true v r.rest
        pure (r.widen (by simp only [List.length_cons]; omega))
    else if op.kind.isLogical then do
      let r ← comparison call site ends rest
      have := r.shorter
      let v ← combine op left r.value
      let r ← binary call site ends true v r.rest
      pure (r.widen (by simp only [List.length_cons]; omega))
    else pure ⟨left, op :: rest, by simp⟩
termination_by 4 * ts.length + 2
decreasing_by all_goals simp only [List.length_cons] at *; omega

/-- A term, and a second one if a comparison follows it: the right side of
a logical operator. -/
def comparison (call : Caller) (site : Site) (ends : Int) (ts : List Token) :
    Eval (Reading ts.length) := do
  let r ← term call site ends 0 ts
  have hr := r.shorter
  match h : r.rest with
  | [] => pure r
  | op :: rest =>
    if op.kind.isRelational then do
      have hlen : rest.length + 1 < ts.length := by rw [h] at hr; simpa using hr
      let right ← term call site ends 0 rest
      have := right.shorter
      let v ← combine op r.value right.value
      pure ⟨v, right.rest, by omega⟩
    else pure r
termination_by 4 * ts.length + 2
decreasing_by all_goals omega

/-- An operand with the arithmetic operators behind it that bind tighter
than a priority. -/
def term (call : Caller) (site : Site) (ends : Int) (floor : Nat) (ts : List Token) :
    Eval (Reading ts.length) := do
  let r ← operand call site ends ts
  have := r.shorter
  let r ← reduce call site ends floor r.value r.rest
  pure (r.widen (by omega))
termination_by 4 * ts.length + 1
decreasing_by all_goals omega

/-- Folds the arithmetic operators that bind tighter than a priority into
the value to their left. -/
def reduce (call : Caller) (site : Site) (ends : Int) (floor : Nat) (left : Value)
    (ts : List Token) : Eval (Reading (ts.length + 1)) :=
  match ts with
  | [] => pure ⟨left, [], by simp⟩
  | op :: rest =>
    if op.kind.isArithmetic && floor < op.kind.priority then do
      let r ← term call site ends op.kind.priority rest
      have := r.shorter
      let v ← combine op left r.value
      let r ← reduce call site ends floor v r.rest
      pure (r.widen (by simp only [List.length_cons]; omega))
    else pure ⟨left, op :: rest, by simp⟩
termination_by 4 * ts.length
decreasing_by all_goals simp only [List.length_cons] at *; omega

end

end Quartz
