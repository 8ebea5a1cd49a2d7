import Quartz.Eval.Expression
import Quartz.Proofs.Eval.Basic

/-!
# `Quartz.Proofs.Expression.Reader`: the readers without their bounds

Each reader of `Quartz.Eval.Expression` hands back its tokens together with the fact
that they became fewer. That fact is needed for the recursion to end and for nothing
else. `Eval.bare` drops it, and the equations below give every reader in terms of the
bare forms of the others, so later proofs neither unfold a reader nor see a bound.
-/

set_option autoImplicit false

namespace Quartz

/-- The value that was read and the tokens behind it. -/
def Reading.pair {n : Nat} (r : Reading n) : Value × List Token := (r.value, r.rest)

@[simp]
theorem Reading.pair_widen {m n : Nat} (r : Reading m) (h : m ≤ n) :
    (r.widen h).pair = r.pair := rfl

/-- A reader without the bound on what it leaves. -/
def Eval.bare {n : Nat} (x : Eval (Reading n)) : Eval (Value × List Token) :=
  Reading.pair <$> x

section

variable (call : Caller) (site : Site) (ends : Int)

theorem bare_operand_nil :
    (operand call site ends []).bare = Eval.fail (.operand .missing) ends := by
  rw [operand]
  rfl

/-- What a name in front of tokens is read as, once its meaning is known. -/
def readName (t : Token) (rest : List Token) (meaning : State.Meaning) :
    Eval (Value × List Token) :=
  match opensParen rest, meaning.callee? with
  | true, some f => (application call site f t rest).bare
  | opens, _ =>
    match meaning.value? with
    | some v => pure (v, rest)
    | none =>
      if opens then Eval.fail (.undefinedFunction t.literal) t.offset
      else Eval.fail (.operand (.undefined t.literal)) t.offset

/-- The operand that starts with a token, by the kind of the token. -/
theorem bare_operand_cons (t : Token) (rest : List Token) :
    (operand call site ends (t :: rest)).bare =
      (match t.kind with
      | .number | .string => pure (.ofLiteral t.literal, rest)
      | .keyword =>
        match constant? t with
        | some v => pure (v, rest)
        | none => Eval.malformed (.unexpectedKeyword t.literal) t.offset
      | .ident => do
        let st ← get
        readName call site t rest (st.meaning site t.literal)
      | .leftParen =>
        match Bracket.enclosed? (t :: rest) with
        | none => Eval.malformed .unbalancedGroup t.offset
        | some ([], _) => Eval.fail (.operand .emptyGroup) t.offset
        | some (inner, after) => do
          let v ← evaluate call site inner
          pure (v, after)
      | .minus => do
        let p ← (operand call site ends rest).bare
        let v ← negate t p.1
        pure (v, p.2)
      | .not => do
        let p ← (operand call site ends rest).bare
        let v ← Eval.ofOperator t.offset (Value.applyUnary .not p.1)
        pure (v, p.2)
      | .error => Eval.malformed (.lexical t) t.offset
      | _ => Eval.fail (.operand (.unexpected t.literal)) t.offset) := by
  rw [operand]
  simp only [Eval.bare]
  cases t.kind with
  -- The bound on what is left stands inside each branch, so it goes branch by branch.
  | ident =>
    simp only [map_bind]
    refine bind_congr fun st => ?_
    unfold readName
    cases opensParen rest <;> cases (st.meaning site t.literal).callee? <;>
      cases (st.meaning site t.literal).value? <;> simp <;> rfl
  | keyword => cases constant? t <;> rfl
  | leftParen =>
    dsimp only
    split
    · next h => rw [h]; rfl
    · next h => rw [h]; rfl
    · next inner after hne h =>
        -- The reader tells the empty group apart with a pattern, and not with a condition.
        cases inner with
        | nil => exact (hne rfl).elim
        | cons u us => simp only [h, map_bind, map_pure]; rfl
  | minus => simp only [map_bind, bind_map_left, map_pure]; rfl
  | not => simp only [map_bind, bind_map_left, map_pure]; rfl
  | _ => rfl

/-! #### Operands by their first token -/

section

variable {t : Token} (rest : List Token)

theorem bare_operand_literal (ht : t.kind = .number ∨ t.kind = .string) :
    (operand call site ends (t :: rest)).bare = pure (.ofLiteral t.literal, rest) := by
  rw [bare_operand_cons]
  rcases ht with h | h <;> rw [h]

theorem bare_operand_keyword (ht : t.kind = .keyword) :
    (operand call site ends (t :: rest)).bare =
      (match constant? t with
      | some v => pure (v, rest)
      | none => Eval.malformed (.unexpectedKeyword t.literal) t.offset) := by
  rw [bare_operand_cons, ht]

theorem bare_operand_leftParen (ht : t.kind = .leftParen) :
    (operand call site ends (t :: rest)).bare =
      (match Bracket.enclosed? (t :: rest) with
      | none => Eval.malformed .unbalancedGroup t.offset
      | some ([], _) => Eval.fail (.operand .emptyGroup) t.offset
      | some (inner, after) => do
        let v ← evaluate call site inner
        pure (v, after)) := by
  rw [bare_operand_cons, ht]

theorem bare_operand_minus (ht : t.kind = .minus) :
    (operand call site ends (t :: rest)).bare = (do
      let p ← (operand call site ends rest).bare
      let v ← negate t p.1
      pure (v, p.2)) := by
  rw [bare_operand_cons, ht]

theorem bare_operand_not (ht : t.kind = .not) :
    (operand call site ends (t :: rest)).bare = (do
      let p ← (operand call site ends rest).bare
      let v ← Eval.ofOperator t.offset (Value.applyUnary .not p.1)
      pure (v, p.2)) := by
  rw [bare_operand_cons, ht]

variable {st : State}

/-- A name in front of a parenthesis is called if it means a function. -/
theorem bare_operand_callee (ht : t.kind = .ident) (ho : opensParen rest) {f : FunctionId}
    (hf : (st.meaning site t.literal).callee? = some f) :
    (operand call site ends (t :: rest)).bare st = (application call site f t rest).bare st := by
  rw [bare_operand_cons, ht]
  simp only [Eval.get_bind_apply, readName, ho, hf]

/-- Any other name is read as a value, a parenthesis behind it or not. -/
theorem bare_operand_value (ht : t.kind = .ident)
    (ho : opensParen rest = false ∨ (st.meaning site t.literal).callee? = none) {v : Value}
    (hv : (st.meaning site t.literal).value? = some v) :
    (operand call site ends (t :: rest)).bare st = .ok (v, rest) st := by
  rw [bare_operand_cons, ht]
  -- Without a parenthesis the callee is not looked at.
  rcases ho with ho | ho
  · simp only [Eval.get_bind_apply, readName, ho, hv, Eval.pure_apply]
  · simp only [Eval.get_bind_apply, readName, ho, hv]
    cases opensParen rest <;> rfl

/-- A name that means nothing. -/
theorem bare_operand_unknown (ht : t.kind = .ident)
    (hm : (st.meaning site t.literal).known = false) :
    (operand call site ends (t :: rest)).bare st =
      .error (.fault (.runtime ⟨if opensParen rest then .undefinedFunction t.literal
        else .operand (.undefined t.literal), t.offset⟩)) st := by
  rw [bare_operand_cons, ht]
  have hmeaning : st.meaning site t.literal = .unknown := by
    cases h : st.meaning site t.literal <;> rw [h] at hm <;> first | rfl | exact nomatch hm
  cases ho : opensParen rest <;>
    simp [Eval.get_bind_apply, readName, ho, hmeaning, State.Meaning.callee?,
      State.Meaning.value?]

end

/-- A call: the arguments in parentheses, then the function. -/
theorem bare_application (f : FunctionId) (name : Token) (ts : List Token) :
    (application call site f name ts).bare =
      (match Bracket.enclosed? ts with
      | some (inner, after) => do
        let args ← (if inner = [] then pure [] else arguments call site name inner)
        let v ← Eval.mapFault (·.placedAt name.offset) (call f args)
        pure (v, after)
      | none => Eval.malformed (.unbalancedCall name.literal) (Token.place (-1) ts)) := by
  rw [application]
  simp only [Eval.bare]
  split
  · next inner after h =>
      simp only [h]
      split <;> simp only [map_bind, map_pure] <;> rfl
  · next h => rw [h]; rfl

theorem arguments_eq (name : Token) (ts : List Token) :
    arguments call site name ts =
      (match Bracket.cutArgument ts with
      | ([], _) => Eval.fail (.operand (.emptyArgument name.literal)) name.offset
      | (span, none) => do
        let v ← evaluate call site span
        pure [v]
      | (span, some more) => do
        let v ← evaluate call site span
        let vs ← arguments call site name more
        pure (v :: vs)) := by
  rw [arguments]
  split
  · next h => rw [h]
  · next span hne h =>
      cases span with
      | nil => exact (hne rfl).elim
      | cons u us => simp only [h]
  · next span more hne h =>
      cases span with
      | nil => exact (hne rfl).elim
      | cons u us => simp only [h]

theorem evaluate_eq (ts : List Token) :
    evaluate call site ts = (do
      let p ← (operand call site (Token.endOffset ts) ts).bare
      let q ← (binary call site (Token.endOffset ts) false p.1 p.2).bare
      match q.2 with
      | [] => pure q.1
      | t :: _ => Eval.malformed (.leftover t.literal) t.offset) := by
  rw [evaluate]
  simp only [Eval.bare, bind_map_left]
  rfl

theorem bare_binary_nil (compared : Bool) (left : Value) :
    (binary call site ends compared left []).bare = pure (left, []) := by
  rw [binary]
  rfl

/-- The operators behind a value, by the kind of the first one. -/
theorem bare_binary_cons (compared : Bool) (left : Value) (op : Token) (rest : List Token) :
    (binary call site ends compared left (op :: rest)).bare =
      (if op.kind.isArithmetic then do
        let p ← (term call site ends op.kind.priority rest).bare
        let v ← combine op left p.1
        (binary call site ends compared v p.2).bare
      else if op.kind.isRelational then
        if compared then Eval.malformed (.comparedAgain op.literal) op.offset
        else do
          let p ← (term call site ends 0 rest).bare
          let v ← combine op left p.1
          (binary call site ends true v p.2).bare
      else if op.kind.isLogical then do
        let p ← (comparison call site ends rest).bare
        let v ← combine op left p.1
        (binary call site ends true v p.2).bare
      else pure (left, op :: rest)) := by
  rw [binary]
  simp only [Eval.bare]
  split
  · simp only [map_bind, bind_map_left, map_pure, Reading.pair_widen]; rfl
  · split
    · split
      · rfl
      · simp only [map_bind, bind_map_left, map_pure, Reading.pair_widen]; rfl
    · split
      · simp only [map_bind, bind_map_left, map_pure, Reading.pair_widen]; rfl
      · rfl

/-- What `comparison` does behind its first term: a second term, if a comparison stands
between them. -/
def compareOnce (v : Value) : List Token → Eval (Value × List Token)
  | [] => pure (v, [])
  | op :: rest =>
    if op.kind.isRelational then do
      let p ← (term call site ends 0 rest).bare
      let u ← combine op v p.1
      pure (u, p.2)
    else pure (v, op :: rest)

theorem bare_comparison (ts : List Token) :
    (comparison call site ends ts).bare = (do
      let p ← (term call site ends 0 ts).bare
      compareOnce call site ends p.1 p.2) := by
  rw [comparison]
  simp only [Eval.bare, map_bind, bind_map_left]
  refine bind_congr fun r => ?_
  obtain ⟨v, rest, hr⟩ := r
  -- The reader matches on the rest together with a proof, so the rest is taken apart first.
  cases rest with
  | nil => rfl
  | cons op rest =>
    dsimp only [Reading.pair, compareOnce]
    split
    · simp only [map_bind, map_pure, Eval.bare, bind_map_left]; rfl
    · rfl

theorem bare_term (floor : Nat) (ts : List Token) :
    (term call site ends floor ts).bare = (do
      let p ← (operand call site ends ts).bare
      (reduce call site ends floor p.1 p.2).bare) := by
  rw [term]
  simp only [Eval.bare, map_bind, bind_map_left, map_pure, Reading.pair_widen]
  rfl

theorem bare_reduce_nil (floor : Nat) (left : Value) :
    (reduce call site ends floor left []).bare = pure (left, []) := by
  rw [reduce]
  rfl

/-- An operator behind a value is folded in if it binds tighter than the floor. -/
theorem bare_reduce_cons (floor : Nat) (left : Value) (op : Token) (rest : List Token) :
    (reduce call site ends floor left (op :: rest)).bare =
      (if op.kind.isArithmetic && floor < op.kind.priority then do
        let p ← (term call site ends op.kind.priority rest).bare
        let v ← combine op left p.1
        (reduce call site ends floor v p.2).bare
      else pure (left, op :: rest)) := by
  rw [reduce]
  simp only [Eval.bare]
  split
  · simp only [map_bind, bind_map_left, map_pure, Reading.pair_widen]; rfl
  · rfl

end

end Quartz
