import Quartz.Eval.Statement
import Quartz.Proofs.Declaration
import Quartz.Proofs.Expression.Reader

/-!
# `Quartz.Proofs.Eval.Statement`: the readers of statements, one step at a time

The readers of `Quartz.Eval.Statement` keep the length of what is left beside every cut,
for their recursion to end. The equations below drop these facts and use the bare readers
of expressions, so that a proof about statements follows the tokens and nothing else.

Proofs about runs go by three case distinctions: how a statement opens (`exists_opens`), what a
conditional does (`conditional_cases`), and how a run goes on behind it (`exists_proceeds`).
-/

set_option autoImplicit false

namespace Quartz

/-- A token between statements that means nothing. -/
def Token.isIdle (t : Token) : Bool :=
  match t.kind, t.keyword? with
  | .leftBrace, _ | .rightBrace, _ | .rightParen, _ | .comma, _ => true
  | .keyword, some .number | .keyword, some .string | .keyword, some .bool => true
  | _, _ => false

section

variable (call : Caller) (site : Site) (shadow : Bool) (ends : Int)

theorem run_nil (p : Progress) :
    run call site shadow ends p [] = pure (.finished p) := by
  rw [run]

/-- An expression as a statement: its value is pending from then on. -/
theorem expression_eq (p : Progress) (t : Token) (rest : List Token) :
    expression call site shadow ends p t rest = (do
      p.require (.before t.literal) t.offset
      let q ← (operand call site ends (t :: rest)).bare
      let r ← (binary call site ends false q.1 q.2).bare
      run call site shadow ends { p with pending := some r.1 } r.2) := by
  rw [expression]
  simp only [Eval.bare, bind_map_left]
  rfl

/-- An assignment, read from the name on. -/
def assignment (p : Progress) (t : Token) (rest : List Token) : Eval Flow :=
  match rest with
  | [] => pure (.finished p)
  | sign :: tail => do
    p.require (.before t.literal) t.offset
    match Bracket.terminated? tail with
    | none => Eval.fail (.unterminated (.assignment t.literal)) t.offset
    | some ([], _) => Eval.fail (.operand (.noValue t.literal)) sign.offset
    | some (right, after) => do
      let v ← evaluate call site right
      store site shadow t.literal v
      run call site shadow ends ⟨none, some v⟩ after

/-- A name at the start of a statement that is not assigned to, once its meaning is known:
an expression, or the declaration of a variable that nothing stands for yet. -/
def mention (p : Progress) (t : Token) (rest : List Token) (meaning : State.Meaning) :
    Eval Flow :=
  if meaning.known || opensParen rest then expression call site shadow ends p t rest
  else do
    p.require (.before t.literal) t.offset
    modify (·.declare site t.literal .null)
    let r ← (binary call site ends false .null rest).bare
    run call site shadow ends { p with pending := some r.1 } r.2

/-- A class declaration among statements, once the scope of the globals is known. -/
def declareClass (p : Progress) (d : ClassDecl) (after : List Token) (globals : ScopeId) :
    Eval Flow := do
  let c ← instantiate call (some globals) d.name d.body
  modify (·.declare site d.name (.object c))
  run call site shadow ends p after

/-- A statement that starts with a keyword. -/
def keywordStatement (p : Progress) (t : Token) (rest : List Token) : Eval Flow :=
  match t.keyword? with
  | some .ret => do
    p.require .beforeReturn t.offset
    match Bracket.terminated? rest with
    | none => Eval.fail (.unterminated .ret) t.offset
    | some ([], _) => pure (.returned .null t.offset)
    | some (right, _) => do
      let v ← evaluate call site right
      pure (.returned v t.offset)
  | some .cond => do
    p.require .beforeIf t.offset
    conditional call site shadow ends p.last false t.offset rest
  | some .alternative => Eval.malformed .elseWithoutIf t.offset
  | some .function =>
    match FunctionDecl.read ends (t :: rest) with
    | .error e => Eval.stop (.runtime e)
    | .ok (d, after) => do
      defineAll site 0 [d]
      run call site shadow ends p after
  | some .crystal =>
    match ClassDecl.read ends (t :: rest) with
    | .error e => Eval.stop (.runtime e)
    | .ok (d, after) => do
      let st ← get
      declareClass call site shadow ends p d after (st.outermost site.scope)
  | some .variables => Eval.malformed .variablesOutsideClass t.offset
  | some .number | some .string | some .bool => run call site shadow ends p rest
  | _ => expression call site shadow ends p t rest

/-- The statement at the front, by the kind of its first token. -/
theorem run_cons (p : Progress) (t : Token) (rest : List Token) :
    run call site shadow ends p (t :: rest) =
      (match t.kind with
      | .eof => pure (.finished p)
      | .error => Eval.malformed (.lexical t) t.offset
      | .semicolon => run call site shadow ends p.committed rest
      | .leftBrace | .rightBrace | .rightParen | .comma => run call site shadow ends p rest
      | .assign => Eval.malformed .assignmentTarget t.offset
      | .ident =>
        if opensAssignment rest then assignment call site shadow ends p t rest
        else do
          let st ← get
          mention call site shadow ends p t rest (st.meaning site t.literal)
      | .keyword => keywordStatement call site shadow ends p t rest
      | _ => expression call site shadow ends p t rest) := by
  rw [run.eq_def]
  dsimp only
  cases t.kind with
  -- Only names and keywords cut tokens off together with a fact about their number.
  | ident =>
    dsimp only
    split
    · unfold assignment
      cases rest with
      | nil => rfl
      | cons sign tail =>
        dsimp only
        refine bind_congr fun _ => ?_
        split
        · next h => rw [h]
        · next h => rw [h]
        · next right after hne h =>
            cases right with
            | nil => exact (hne rfl).elim
            | cons u us => simp only [h]
    · simp only [mention]
      simp only [Eval.bare, bind_map_left]
      rfl
  | keyword =>
    dsimp only
    unfold keywordStatement
    cases t.keyword? with
    | none => rfl
    | some k =>
      cases k with
      | function =>
        dsimp only
        split
        · next h => rw [h]
        · next h => simp only [h]
      | crystal =>
        dsimp only
        split
        · next h => rw [h]
        · next h =>
            simp only [h]
            rfl
      | _ => rfl
  | _ => rfl

/-- The statements that a token opens, by the end of their source, the progress so far and the
tokens behind it. -/
inductive Opens (t : Token) : (Int → Progress → List Token → Eval Flow) → Prop
  | eof (ht : t.kind = .eof) : Opens t fun _ p _ => pure (.finished p)
  | refused (form : Malformation) : Opens t fun _ _ _ => Eval.malformed form t.offset
  | semicolon (ht : t.kind = .semicolon) :
      Opens t fun ends p rest => run call site shadow ends p.committed rest
  | idle (ht : t.isIdle = true) : Opens t fun ends p rest => run call site shadow ends p rest
  | name (ht : t.kind = .ident) : Opens t fun ends p rest =>
      if opensAssignment rest then assignment call site shadow ends p t rest
      else do
        let st ← get
        mention call site shadow ends p t rest (st.meaning site t.literal)
  | ret : Opens t fun _ p rest => do
      p.require .beforeReturn t.offset
      match Bracket.terminated? rest with
      | none => Eval.fail (.unterminated .ret) t.offset
      | some ([], _) => pure (.returned .null t.offset)
      | some (right, _) => do
        let v ← evaluate call site right
        pure (.returned v t.offset)
  | cond (ht : t.isKeyword .cond = true) : Opens t fun ends p rest => do
      p.require .beforeIf t.offset
      conditional call site shadow ends p.last false t.offset rest
  | function (ht : t.isKeyword .function = true) : Opens t fun ends p rest =>
      match FunctionDecl.read ends (t :: rest) with
      | .error e => Eval.stop (.runtime e)
      | .ok (d, after) => do
        defineAll site 0 [d]
        run call site shadow ends p after
  | crystal (ht : t.isKeyword .crystal = true) : Opens t fun ends p rest =>
      match ClassDecl.read ends (t :: rest) with
      | .error e => Eval.stop (.runtime e)
      | .ok (d, after) => do
        let st ← get
        declareClass call site shadow ends p d after (st.outermost site.scope)
  | expression (ht : t.kind ≠ .ident) : Opens t fun ends p rest =>
      expression call site shadow ends p t rest

/-- The first token tells what the statement does. -/
theorem exists_opens (t : Token) : ∃ f, Opens call site shadow t f ∧
    ∀ ends p rest, run call site shadow ends p (t :: rest) = f ends p rest := by
  simp only [run_cons]
  have hidle : t.isIdle = true → Opens call site shadow t fun ends p rest =>
      run call site shadow ends p rest := .idle
  unfold Token.isIdle at hidle
  cases hkind : t.kind with
  | eof => exact ⟨_, .eof hkind, fun _ _ _ => rfl⟩
  | error => exact ⟨_, .refused _, fun _ _ _ => rfl⟩
  | assign => exact ⟨_, .refused _, fun _ _ _ => rfl⟩
  | semicolon => exact ⟨_, .semicolon hkind, fun _ _ _ => rfl⟩
  | leftBrace => exact ⟨_, hidle (by rw [hkind]), fun _ _ _ => rfl⟩
  | rightBrace => exact ⟨_, hidle (by rw [hkind]), fun _ _ _ => rfl⟩
  | rightParen => exact ⟨_, hidle (by rw [hkind]), fun _ _ _ => rfl⟩
  | comma => exact ⟨_, hidle (by rw [hkind]), fun _ _ _ => rfl⟩
  | ident => exact ⟨_, .name hkind, fun _ _ _ => rfl⟩
  | keyword =>
    have hexpr : t.kind ≠ .ident := by simp [hkind]
    unfold keywordStatement
    cases hword : t.keyword? with
    | none => exact ⟨_, .expression hexpr, fun _ _ _ => rfl⟩
    | some word =>
      have hk : t.isKeyword word = true := by simp [Token.isKeyword, hword]
      cases word with
      | ret => exact ⟨_, .ret, fun _ _ _ => rfl⟩
      | cond => exact ⟨_, .cond hk, fun _ _ _ => rfl⟩
      | function => exact ⟨_, .function hk, fun _ _ _ => rfl⟩
      | crystal => exact ⟨_, .crystal hk, fun _ _ _ => rfl⟩
      | number => exact ⟨_, hidle (by rw [hkind, hword]), fun _ _ _ => rfl⟩
      | string => exact ⟨_, hidle (by rw [hkind, hword]), fun _ _ _ => rfl⟩
      | bool => exact ⟨_, hidle (by rw [hkind, hword]), fun _ _ _ => rfl⟩
      | alternative => exact ⟨_, .refused _, fun _ _ _ => rfl⟩
      | «variables» => exact ⟨_, .refused _, fun _ _ _ => rfl⟩
      | _ => exact ⟨_, .expression hexpr, fun _ _ _ => rfl⟩
  | _ => exact ⟨_, .expression (by simp [hkind]), fun _ _ _ => rfl⟩

variable (last : Option Value) (taken : Bool)

/-- What an `if` does with its condition and its body, once both have been cut off. -/
def arm (offset : Int) (test body after : List Token) : Eval Flow := do
  let holds ← (if taken then pure false else condition call site offset test)
  let flow ← (if holds then run call site shadow (Token.endOffset body) {} body
    else pure (.finished {}))
  match flow with
  | .returned v o => pure (.returned v o)
  | .finished p =>
    alternative call site shadow ends (p.value <|> last) (taken || holds) after

theorem conditional_eq (offset : Int) (ts : List Token) :
    conditional call site shadow ends last taken offset ts =
      (match Declaration.bracketed .leftParen .expectedConditionParen .unbalancedCondition ends
          ts with
      | .error e => Eval.stop (.runtime e)
      | .ok (test, afterTest) =>
        match Declaration.bracketed .leftBrace .expectedBrace .unbalancedBrace ends
            afterTest with
        | .error e => Eval.stop (.runtime e)
        | .ok (body, after) =>
          arm call site shadow ends last taken offset test body after) := by
  rw [conditional]
  split
  · next h => rw [h]
  · next test afterTest h =>
      simp only [h]
      split
      · next h => rw [h]
      · next h =>
          simp only [h]
          -- A condition that is not evaluated counts as false, on both sides.
          cases taken <;>
            · refine bind_congr fun holds => ?_
              cases holds <;> rfl

/-- The cuts of an `if` are made, or one of them is refused. -/
theorem conditional_cases (ts : List Token) :
    (∃ forms e, Declaration.Complains forms ends ts e ∧ ∀ last taken offset,
      conditional call site shadow ends last taken offset ts = Eval.stop (.runtime e)) ∨
    ∃ test middle body after,
      Declaration.bracketed .leftParen .expectedConditionParen .unbalancedCondition ends ts =
        .ok (test, middle) ∧
      Declaration.bracketed .leftBrace .expectedBrace .unbalancedBrace ends middle =
        .ok (body, after) ∧
      ∀ last taken offset, conditional call site shadow ends last taken offset ts =
        arm call site shadow ends last taken offset test body after := by
  simp only [conditional_eq]
  cases htest : Declaration.bracketed .leftParen .expectedConditionParen .unbalancedCondition
      ends ts with
  | error e => exact .inl ⟨_, e, Declaration.complains_of_bracketed htest, fun _ _ _ => rfl⟩
  | ok cut =>
    dsimp only
    cases hbody : Declaration.bracketed .leftBrace .expectedBrace .unbalancedBrace ends cut.2 with
    | error e =>
      exact .inl ⟨_, e, (Declaration.complains_of_bracketed hbody).mono (List.Subset.refl _)
        (Declaration.subset_of_bracketed htest).2, fun _ _ _ => rfl⟩
    | ok cut' => exact .inr ⟨_, _, _, _, rfl, hbody, fun _ _ _ => rfl⟩

/-- Behind a body: an `else` goes on with the chain, and any other token is the next
statement. -/
theorem alternative_cons (t : Token) (rest : List Token) :
    alternative call site shadow ends last taken (t :: rest) =
      (if t.isKeyword .alternative then
        match rest with
        | u :: more =>
          if u.isKeyword .cond then conditional call site shadow ends last taken u.offset more
          else final call site shadow ends last taken (u :: more)
        | [] => final call site shadow ends last taken []
      else run call site shadow ends ⟨none, last⟩ (t :: rest)) :=
  alternative.eq_def call site shadow ends last taken (t :: rest)

/-- Whether an `else` stands at the front. -/
def opensAlternative : List Token → Bool
  | t :: _ => t.isKeyword .alternative
  | [] => false

variable {call site shadow ends} in
/-- Without an `else` the chain is over. -/
theorem alternative_of_not_opens {ts : List Token} (h : opensAlternative ts = false)
    (last : Option Value) (taken : Bool) :
    alternative call site shadow ends last taken ts =
      run call site shadow ends ⟨none, last⟩ ts := by
  cases ts with
  | nil => rw [alternative, run_nil]
  | cons t rest =>
    have ht : t.isKeyword .alternative = false := h
    rw [alternative_cons, ht, if_neg (by simp)]

/-- What may stand behind a body, and how the last value is taken along: an `else if`, an `else`,
or the next statement. -/
inductive Proceeds : List Token → (Option Value → Bool → Eval Flow) → Prop
  | elseIf {t u : Token} {more : List Token} (ht : t.isKeyword .alternative = true)
      (hu : u.isKeyword .cond = true) : Proceeds (t :: u :: more) fun last taken =>
        conditional call site shadow ends last taken u.offset more
  | otherwise {t : Token} {rest : List Token} (ht : t.isKeyword .alternative = true)
      (hrest : ∀ u more, rest = u :: more → u.isKeyword .cond = false) :
      Proceeds (t :: rest) fun last taken => final call site shadow ends last taken rest
  | next {ts : List Token} (h : opensAlternative ts = false) :
      Proceeds ts fun last _ => run call site shadow ends ⟨none, last⟩ ts

theorem exists_proceeds (ts : List Token) : ∃ f, Proceeds call site shadow ends ts f ∧
    ∀ last taken, alternative call site shadow ends last taken ts = f last taken := by
  cases hopens : opensAlternative ts with
  | false =>
    exact ⟨_, .next hopens, alternative_of_not_opens hopens⟩
  | true =>
    cases ts with
    | nil => cases hopens
    | cons t rest =>
      have ht : t.isKeyword .alternative = true := hopens
      simp only [alternative_cons, if_pos ht]
      cases rest with
      | nil => exact ⟨_, .otherwise ht (by simp), fun _ _ => rfl⟩
      | cons u more =>
        by_cases hu : u.isKeyword .cond = true
        · exact ⟨_, .elseIf ht hu, fun _ _ => if_pos hu⟩
        · exact ⟨_, .otherwise ht (by simpa using hu), fun _ _ => if_neg hu⟩

theorem final_eq (ts : List Token) :
    final call site shadow ends last taken ts =
      (match Declaration.bracketed .leftBrace .expectedBrace .unbalancedBrace ends ts with
      | .error e => Eval.stop (.runtime e)
      | .ok (body, after) => do
        let flow ← (if taken then pure (.finished {})
          else run call site shadow (Token.endOffset body) {} body)
        match flow with
        | .returned v o => pure (.returned v o)
        | .finished p => run call site shadow ends ⟨none, p.value <|> last⟩ after) := by
  rw [final]
  split
  · next h => rw [h]
  · next h =>
      simp only [h]
      cases taken <;> rfl

end

/-- The variables block of a class, run in the scope of an instance. -/
def setUp (call : Caller) (name : Bytes) (scope : ScopeId) : Option (List Token) → Eval Unit
  | none => pure ()
  | some block => do
    let flow ← Eval.mapFault (.labelled (utf8 "crystal " ++ name ++ utf8 ": variables"))
      (run call ⟨scope, 0⟩ true (Token.endOffset block) {} block)
    match flow with
    | .returned _ offset => Eval.malformed .returnInVariables offset
    | .finished _ => pure ()

/-- Hands out an id and a scope: an instance without members. -/
def allot (outer : Option ScopeId) (name : Bytes) (body : List Token) : Eval Instance := do
  let id ← modifyGet (·.nextId)
  let scope ← modifyGet (·.newScope outer)
  pure ⟨name, id, body, scope, scope⟩

/-- Gives an instance its functions, and then its variables. -/
def furnish (call : Caller) (name : Bytes) (body : List Token) (c : Instance) : Eval Instance :=
  match Members.scan body with
  | .error e => Eval.stop (.labelled (utf8 "crystal " ++ name) (.runtime e))
  | .ok members => do
    defineAll ⟨c.scope, 0⟩ c.id members.functions
    setUp call name c.scope members.block
    let functions := ((← get).scope c.scope).root.funcs.size
    Eval.report (.classCreated name c.id functions)
    pure c

theorem instantiate_eq (call : Caller) (outer : Option ScopeId) (name : Bytes)
    (body : List Token) :
    instantiate call outer name body = allot outer name body >>= furnish call name body := by
  rw [instantiate]
  simp only [allot, furnish, bind_assoc, pure_bind]
  refine bind_congr fun id => bind_congr fun scope => ?_
  split
  · next h => rw [h]
  · next members h =>
      rw [h]
      dsimp only
      refine bind_congr fun _ => ?_
      -- The block is run or missing, and `setUp` has one case for each.
      split
      · next hb =>
          rw [hb]
          rfl
      · next block hb =>
          rw [hb]
          simp only [setUp, bind_assoc]
          refine bind_congr fun flow => ?_
          cases flow <;> rfl

end Quartz
