import Quartz.Proofs.Eval.Sequence

/-!
# `Quartz.Proofs.Eval.Trace`: the values of statements

A run keeps one value at a time, pending or last. `Trace` says which values a run of statements
goes through: of every expression that stands as a statement and of every assignment, those in
the bodies of conditionals among them, in the order of evaluation. It has one rule for every kind
of statement and knows nothing of `Progress`.

A run that comes to its end has a trace, its value is the last one of the trace, and every trace
is that of a run (`run_eq_finished_iff`). A value from in front of the run is its value if the
trace is empty, and has no other effect (`run_behind`).
-/

set_option autoImplicit false

namespace Quartz

variable {p : Progress} {ts : List Token} {last : Option Value} {st st' : State} {taken : Bool}
  {offset : Int} {t : Token}

/-! ### The value in front of a run -/

/-- The progress of a run that starts behind a value. -/
def Progress.behind (earlier : Option Value) (p : Progress) : Progress :=
  ⟨p.pending, p.last <|> earlier⟩

/-- The end of a run that starts behind a value, which stays the last one if the run has none
itself. -/
def Flow.behind (earlier : Option Value) : Flow → Flow
  | .finished p => .finished (p.behind earlier)
  | .returned v offset => .returned v offset

namespace Progress

theorem behind_committed (earlier : Option Value) (p : Progress) :
    (p.behind earlier).committed = p.committed.behind earlier := by
  cases p with
  | mk pending last => cases pending <;> rfl

theorem behind_orElse (earlier last : Option Value) (p : Progress) :
    (p.value <|> (last <|> earlier)) = ((p.value <|> last) <|> earlier) := by
  cases p.value <;> rfl

end Progress

section

variable (call : Caller) (site : Site) (shadow : Bool) (ends : Int) (earlier : Option Value)

/-- Runs of at most `n` tokens do not look at the value in front of them. -/
def Forgets (n : Nat) : Prop :=
  ∀ (ends : Int) (p : Progress) (ts : List Token), ts.length ≤ n →
    run call site shadow ends (p.behind earlier) ts =
      Flow.behind earlier <$> run call site shadow ends p ts

end

namespace Forgets

variable {call : Caller} {site : Site} {shadow : Bool} {ends : Int} {earlier : Option Value}
  {n : Nat} {p : Progress} {t : Token} {rest : List Token}

section

variable (hn : Forgets call site shadow earlier n)
include hn

theorem expression (hlen : rest.length ≤ n) :
    expression call site shadow ends (p.behind earlier) t rest =
      Flow.behind earlier <$> Quartz.expression call site shadow ends p t rest := by
  rw [expression_eq_phrase, expression_eq_phrase, map_bind]
  refine bind_congr fun _ => ?_
  rw [map_bind]
  funext st
  apply Eval.bind_congr_at
  intro r st' hphrase
  have hshort := length_of_phrase (v := r.1) hphrase
  rw [List.length_cons] at hshort
  exact congrFun (hn ends { p with pending := some r.1 } r.2 (by omega)) st'

theorem assignment (hlen : rest.length ≤ n) (hsign : opensAssignment rest = true) :
    assignment call site shadow ends (p.behind earlier) t rest =
      Flow.behind earlier <$> Quartz.assignment call site shadow ends p t rest := by
  cases rest with
  | nil => cases hsign
  | cons sign tail =>
    simp only [Quartz.assignment, map_bind]
    refine bind_congr fun _ => ?_
    cases hcut : Bracket.terminated? tail with
    | none => rfl
    | some cut =>
      obtain ⟨right, after⟩ := cut
      have hlen' := Bracket.length_of_terminated? hcut
      rw [List.length_cons] at hlen
      cases right with
      | nil => rfl
      | cons w right =>
        simp only [map_bind]
        refine bind_congr fun v => bind_congr fun _ => ?_
        exact hn ends ⟨none, some v⟩ after (by omega)

theorem mention {m : State.Meaning} (hlen : rest.length ≤ n) :
    mention call site shadow ends (p.behind earlier) t rest m =
      Flow.behind earlier <$> Quartz.mention call site shadow ends p t rest m := by
  simp only [Quartz.mention]
  split
  · exact hn.expression hlen
  · simp only [map_bind]
    refine bind_congr fun _ => bind_congr fun _ => ?_
    funext st
    apply Eval.bind_congr_at
    intro r st' hbinary
    have hshort := Eval.length_of_bare (v := r.1) hbinary
    exact congrFun (hn ends { p with pending := some r.1 } r.2 (by omega)) st'

theorem final (hlen : ts.length ≤ n) :
    final call site shadow ends (last <|> earlier) taken ts =
      Flow.behind earlier <$> Quartz.final call site shadow ends last taken ts := by
  rw [final_eq, final_eq]
  cases hcut : Declaration.bracketed .leftBrace .expectedBrace .unbalancedBrace ends ts with
  | error e => rfl
  | ok cut =>
    obtain ⟨body, after⟩ := cut
    have hshort := Declaration.length_of_bracketed hcut
    simp only [map_bind]
    refine bind_congr fun flow => ?_
    cases flow with
    | returned v offset => rfl
    | finished q =>
      dsimp only
      rw [Progress.behind_orElse]
      exact hn ends ⟨none, q.value <|> last⟩ after (by omega)

theorem conditional (hlen : ts.length ≤ n) :
    conditional call site shadow ends (last <|> earlier) taken offset ts =
      Flow.behind earlier <$> Quartz.conditional call site shadow ends last taken offset ts := by
  induction hk : ts.length using Nat.strongRecOn generalizing ts last taken offset with
  | _ k ih =>
    rcases conditional_cases call site shadow ends ts with
      ⟨_, _, _, heq⟩ | ⟨test, middle, body, after, htest, hbody, heq⟩
    · rw [heq, heq]
      rfl
    · rw [heq, heq, arm, arm]
      have hlen₁ := Declaration.length_of_bracketed htest
      have hlen₂ := Declaration.length_of_bracketed hbody
      simp only [map_bind]
      refine bind_congr fun holds => bind_congr fun flow => ?_
      cases flow with
      | returned v o => rfl
      | finished q =>
        dsimp only
        rw [Progress.behind_orElse]
        obtain ⟨f, hf, heq'⟩ := exists_proceeds call site shadow ends after
        rw [heq', heq']
        cases hf with
        | elseIf =>
          simp only [List.length_cons] at hlen₂
          exact ih _ (by omega) (by omega) rfl
        | otherwise =>
          rw [List.length_cons] at hlen₂
          exact hn.final (by omega)
        | next => exact hn ends ⟨none, q.value <|> last⟩ after (by omega)

theorem succ : Forgets call site shadow earlier (n + 1) := by
  intro ends p ts hlen
  cases ts with
  | nil =>
    rw [run_nil, run_nil]
    rfl
  | cons t rest =>
    have hrest : rest.length ≤ n := by simpa using hlen
    obtain ⟨f, hf, hrun⟩ := exists_opens call site shadow t
    rw [hrun, hrun]
    cases hf with
    | eof ht => rfl
    | refused form => rfl
    | semicolon ht =>
      dsimp only
      rw [Progress.behind_committed]
      exact hn ends p.committed rest hrest
    | idle ht => exact hn ends p rest hrest
    | name ht =>
      dsimp only
      split
      · next hsign => exact hn.assignment hrest hsign
      · simp only [map_bind]
        refine bind_congr fun st => ?_
        exact hn.mention hrest
    | ret =>
      simp only [map_bind]
      refine bind_congr fun _ => ?_
      cases Bracket.terminated? rest with
      | none => rfl
      | some cut =>
        obtain ⟨right, after⟩ := cut
        cases right with
        | nil => rfl
        | cons w right => simp only [map_bind, map_pure, Flow.behind]
    | cond ht =>
      simp only [map_bind]
      refine bind_congr fun _ => ?_
      exact hn.conditional hrest
    | function ht =>
      dsimp only
      cases hread : FunctionDecl.read ends (t :: rest) with
      | error e => rfl
      | ok cut =>
        obtain ⟨d, after⟩ := cut
        have hshort := FunctionDecl.length_of_read hread
        rw [List.length_cons] at hshort
        simp only [map_bind]
        refine bind_congr fun _ => ?_
        exact hn ends p after (by omega)
    | crystal ht =>
      dsimp only
      cases hread : ClassDecl.read ends (t :: rest) with
      | error e => rfl
      | ok cut =>
        obtain ⟨d, after⟩ := cut
        have hshort := ClassDecl.length_of_read hread
        rw [List.length_cons] at hshort
        simp only [declareClass, map_bind]
        refine bind_congr fun _ => bind_congr fun _ => bind_congr fun _ => ?_
        exact hn ends p after (by omega)
    | expression ht => exact hn.expression hrest

end

theorem all (n : Nat) : Forgets call site shadow earlier n := by
  induction n with
  | zero =>
    intro ends p ts hlen
    rw [List.eq_nil_of_length_eq_zero (Nat.le_zero.1 hlen), run_nil, run_nil]
    rfl
  | succ n ih => exact ih.succ

end Forgets

/-- The value in front of a run is handed through, and touches nothing else. -/
theorem run_behind (call : Caller) (site : Site) (shadow : Bool) (ends : Int)
    (earlier : Option Value) (p : Progress) (ts : List Token) :
    run call site shadow ends (p.behind earlier) ts =
      Flow.behind earlier <$> run call site shadow ends p ts :=
  Forgets.all ts.length ends p ts (Nat.le_refl _)

/-! ### Traces -/

/-- Where a run of statements stands. In a chain of conditionals, `taken` tells that a body of
the chain has run. -/
inductive Stage where
  /-- In front of a statement, with or without a value that waits for its semicolon. -/
  | statement (pending : Bool)
  /-- Behind an `if`. -/
  | condition (taken : Bool) (offset : Int)
  /-- Behind a body of a chain. -/
  | alternative (taken : Bool)
  /-- Behind the last `else` of a chain. -/
  | body (taken : Bool)

/-- Whether a value waits for its semicolon. -/
def Stage.pending : Stage → Bool
  | .statement pending => pending
  | _ => false

/-- `Trace ends stage ts st vs pending st'`: the statements in `ts`, from the given stage on, lead
from `st` to `st'` and have the values `vs`, the last of which may be left without its
semicolon. -/
inductive Trace (call : Caller) (site : Site) (shadow : Bool) :
    Int → Stage → List Token → State → List Value → Bool → State → Prop
  | nil {ends : Int} {pending : Bool} {st : State} :
      Trace call site shadow ends (.statement pending) [] st [] pending st
  | eof {ends : Int} {pending : Bool} {t : Token} {rest : List Token} {st : State}
      (ht : t.kind = .eof) :
      Trace call site shadow ends (.statement pending) (t :: rest) st [] pending st
  | semicolon {ends : Int} {pending pending' : Bool} {t : Token} {rest : List Token}
      {st st' : State} {vs : List Value} (ht : t.kind = .semicolon)
      (next : Trace call site shadow ends (.statement false) rest st vs pending' st') :
      Trace call site shadow ends (.statement pending) (t :: rest) st vs pending' st'
  | idle {ends : Int} {pending pending' : Bool} {t : Token} {rest : List Token}
      {st st' : State} {vs : List Value} (ht : t.isIdle = true)
      (next : Trace call site shadow ends (.statement pending) rest st vs pending' st') :
      Trace call site shadow ends (.statement pending) (t :: rest) st vs pending' st'
  | assignment {ends : Int} {pending' : Bool} {t sign : Token} {tail right after : List Token}
      {st mid st' : State} {v : Value} {vs : List Value} (ht : t.kind = .ident)
      (hsign : sign.kind = .assign) (hcut : Bracket.terminated? tail = some (right, after))
      (hright : right ≠ []) (hv : evaluate call site right st = .ok v mid)
      (next : Trace call site shadow ends (.statement false) after
        (if shadow then mid.declare site t.literal v else mid.assign site t.literal v) vs
        pending' st') :
      Trace call site shadow ends (.statement false) (t :: sign :: tail) st (v :: vs) pending' st'
  | expression {ends : Int} {pending' : Bool} {t : Token} {rest after : List Token}
      {st mid st' : State} {v : Value} {vs : List Value}
      (ht : t.kind = .ident → opensAssignment rest = false ∧
        ((st.meaning site t.literal).known || opensParen rest) = true)
      (hv : phrase call site ends (t :: rest) st = .ok (v, after) mid)
      (next : Trace call site shadow ends (.statement true) after mid vs pending' st') :
      Trace call site shadow ends (.statement false) (t :: rest) st (v :: vs) pending' st'
  | declaration {ends : Int} {pending' : Bool} {t : Token} {rest after : List Token}
      {st mid st' : State} {v : Value} {vs : List Value} (ht : t.kind = .ident)
      (hassign : opensAssignment rest = false)
      (hunknown : ((st.meaning site t.literal).known || opensParen rest) = false)
      (hv : (binary call site ends false .null rest).bare (st.declare site t.literal .null) =
        .ok (v, after) mid)
      (next : Trace call site shadow ends (.statement true) after mid vs pending' st') :
      Trace call site shadow ends (.statement false) (t :: rest) st (v :: vs) pending' st'
  | function {ends : Int} {pending pending' : Bool} {t : Token} {rest after : List Token}
      {d : FunctionDecl} {st mid st' : State} {vs : List Value}
      (ht : t.isKeyword .function = true)
      (hread : FunctionDecl.read ends (t :: rest) = .ok (d, after))
      (hdefine : defineAll site 0 [d] st = .ok () mid)
      (next : Trace call site shadow ends (.statement pending) after mid vs pending' st') :
      Trace call site shadow ends (.statement pending) (t :: rest) st vs pending' st'
  | crystal {ends : Int} {pending pending' : Bool} {t : Token} {rest after : List Token}
      {d : ClassDecl} {c : Instance} {st mid st' : State} {vs : List Value}
      (ht : t.isKeyword .crystal = true)
      (hread : ClassDecl.read ends (t :: rest) = .ok (d, after))
      (hbuilt : instantiate call (some (st.outermost site.scope)) d.name d.body st = .ok c mid)
      (next : Trace call site shadow ends (.statement pending) after
        (mid.declare site d.name (.object c)) vs pending' st') :
      Trace call site shadow ends (.statement pending) (t :: rest) st vs pending' st'
  | conditional {ends : Int} {pending' : Bool} {t : Token} {rest : List Token}
      {st st' : State} {vs : List Value} (ht : t.isKeyword .cond = true)
      (next : Trace call site shadow ends (.condition false t.offset) rest st vs pending' st') :
      Trace call site shadow ends (.statement false) (t :: rest) st vs pending' st'
  | skipped {ends offset : Int} {pending' : Bool} {ts test afterTest body after : List Token}
      {st st' : State} {vs : List Value}
      (htest : Declaration.bracketed .leftParen .expectedConditionParen .unbalancedCondition ends
        ts = .ok (test, afterTest))
      (hbody : Declaration.bracketed .leftBrace .expectedBrace .unbalancedBrace ends
        afterTest = .ok (body, after))
      (next : Trace call site shadow ends (.alternative true) after st vs pending' st') :
      Trace call site shadow ends (.condition true offset) ts st vs pending' st'
  | refused {ends offset : Int} {pending' : Bool} {ts test afterTest body after : List Token}
      {st mid st' : State} {vs : List Value}
      (htest : Declaration.bracketed .leftParen .expectedConditionParen .unbalancedCondition ends
        ts = .ok (test, afterTest))
      (hbody : Declaration.bracketed .leftBrace .expectedBrace .unbalancedBrace ends
        afterTest = .ok (body, after))
      (hholds : condition call site offset test st = .ok false mid)
      (next : Trace call site shadow ends (.alternative false) after mid vs pending' st') :
      Trace call site shadow ends (.condition false offset) ts st vs pending' st'
  | chosen {ends offset : Int} {pending pending' : Bool}
      {ts test afterTest body after : List Token} {st mid mid' st' : State}
      {vs vs' : List Value}
      (htest : Declaration.bracketed .leftParen .expectedConditionParen .unbalancedCondition ends
        ts = .ok (test, afterTest))
      (hbody : Declaration.bracketed .leftBrace .expectedBrace .unbalancedBrace ends
        afterTest = .ok (body, after))
      (hholds : condition call site offset test st = .ok true mid)
      (inner : Trace call site shadow (Token.endOffset body) (.statement false) body mid vs pending
        mid')
      (next : Trace call site shadow ends (.alternative true) after mid' vs' pending' st') :
      Trace call site shadow ends (.condition false offset) ts st (vs ++ vs') pending' st'
  | noElse {ends : Int} {pending' taken : Bool} {ts : List Token} {st st' : State}
      {vs : List Value} (hts : opensAlternative ts = false)
      (next : Trace call site shadow ends (.statement false) ts st vs pending' st') :
      Trace call site shadow ends (.alternative taken) ts st vs pending' st'
  | elseIf {ends : Int} {pending' taken : Bool} {t u : Token} {rest : List Token}
      {st st' : State} {vs : List Value} (ht : t.isKeyword .alternative = true)
      (hu : u.isKeyword .cond = true)
      (next : Trace call site shadow ends (.condition taken u.offset) rest st vs pending' st') :
      Trace call site shadow ends (.alternative taken) (t :: u :: rest) st vs pending' st'
  | otherwise {ends : Int} {pending' taken : Bool} {t u : Token} {rest : List Token}
      {st st' : State} {vs : List Value} (ht : t.isKeyword .alternative = true)
      (hu : u.isKeyword .cond = false)
      (next : Trace call site shadow ends (.body taken) (u :: rest) st vs pending' st') :
      Trace call site shadow ends (.alternative taken) (t :: u :: rest) st vs pending' st'
  | passed {ends : Int} {pending' : Bool} {ts body after : List Token} {st st' : State}
      {vs : List Value}
      (hbody : Declaration.bracketed .leftBrace .expectedBrace .unbalancedBrace ends ts =
        .ok (body, after))
      (next : Trace call site shadow ends (.statement false) after st vs pending' st') :
      Trace call site shadow ends (.body true) ts st vs pending' st'
  | entered {ends : Int} {pending pending' : Bool} {ts body after : List Token}
      {st mid st' : State} {vs vs' : List Value}
      (hbody : Declaration.bracketed .leftBrace .expectedBrace .unbalancedBrace ends ts =
        .ok (body, after))
      (inner : Trace call site shadow (Token.endOffset body) (.statement false) body st vs pending
        mid)
      (next : Trace call site shadow ends (.statement false) after mid vs' pending' st') :
      Trace call site shadow ends (.body false) ts st (vs ++ vs') pending' st'

/-- The last of some values, behind another one. -/
def latest (vs : List Value) (earlier : Option Value) : Option Value := vs.getLast? <|> earlier

@[simp]
theorem latest_nil (earlier : Option Value) : latest [] earlier = earlier := by
  cases earlier <;> rfl

@[simp]
theorem latest_cons (v : Value) (vs : List Value) (earlier : Option Value) :
    latest (v :: vs) earlier = latest vs (some v) := by
  unfold latest
  rw [List.getLast?_cons]
  cases vs.getLast? <;> rfl

theorem latest_append (vs vs' : List Value) (earlier : Option Value) :
    latest (vs ++ vs') earlier = latest vs' (latest vs earlier) := by
  unfold latest
  rw [List.getLast?_append]
  cases vs'.getLast? <;> rfl

theorem latest_orElse (vs : List Value) (earlier : Option Value) :
    (none <|> (latest vs none <|> earlier)) = latest vs earlier := by
  unfold latest
  cases vs.getLast? <;> cases earlier <;> rfl

/-- Goes on from a stage with the progress so far. -/
def Stage.resume (call : Caller) (site : Site) (shadow : Bool) (ends : Int) (p : Progress) :
    Stage → List Token → Eval Flow
  | .statement _, ts => run call site shadow ends p ts
  | .condition taken offset, ts =>
    Quartz.conditional call site shadow ends p.last taken offset ts
  | .alternative taken, ts => Quartz.alternative call site shadow ends p.last taken ts
  | .body taken, ts => Quartz.final call site shadow ends p.last taken ts

section

variable {call : Caller} {site : Site} {shadow : Bool} {ends : Int}

/-! ### A trace is that of a run -/

theorem Progress.require_of_none (hp : p.pending.isSome = false) (place : Unterminated)
    (offset : Int) (st : State) : p.require place offset st = .ok () st := by
  rw [Progress.require, hp]
  rfl

theorem Progress.value_of_none (hp : p.pending.isSome = false) : p.value = p.last := by
  rw [Progress.value, Option.isSome_eq_false_iff.1 hp |> Option.isNone_iff_eq_none.1]
  cases p.last <;> rfl

/-- An idle token is passed over. -/
theorem run_of_idle (ht : t.isIdle = true) (p : Progress) (rest : List Token) :
    run call site shadow ends p (t :: rest) = run call site shadow ends p rest := by
  rw [run_cons]
  unfold Token.isIdle at ht
  cases hkind : t.kind with
  | leftBrace => rfl
  | rightBrace => rfl
  | rightParen => rfl
  | comma => rfl
  | keyword =>
    rw [hkind] at ht
    dsimp only
    unfold keywordStatement
    cases hword : t.keyword? with
    | none =>
      rw [hword] at ht
      cases ht
    | some word =>
      rw [hword] at ht
      cases word <;> first | rfl | cases ht
  | _ =>
    rw [hkind] at ht
    cases ht

/-- A token that an expression can start with starts one, unless it is a name. -/
theorem run_of_phrase {rest after : List Token} {mid : State} {v : Value}
    (hp : p.pending.isSome = false)
    (ht : t.kind = .ident → opensAssignment rest = false ∧
      ((st.meaning site t.literal).known || opensParen rest) = true)
    (hv : phrase call site ends (t :: rest) st = .ok (v, after) mid) :
    run call site shadow ends p (t :: rest) st =
      run call site shadow ends { p with pending := some v } after mid := by
  have hexpr : Quartz.expression call site shadow ends p t rest st =
      run call site shadow ends { p with pending := some v } after mid := by
    rw [expression_eq_phrase, Eval.bind_of_ok (Progress.require_of_none hp _ _ st),
      Eval.bind_of_ok hv]
  -- The reader of operands refuses what is no expression.
  obtain ⟨⟨u, middle⟩, mid', hoperand, _⟩ := Eval.bind_eq_ok.1 hv
  rw [bare_operand_cons] at hoperand
  rw [run_cons]
  cases hkind : t.kind with
  | number => exact hexpr
  | string => exact hexpr
  | leftParen => exact hexpr
  | minus => exact hexpr
  | not => exact hexpr
  | ident =>
    obtain ⟨hassign, hknown⟩ := ht hkind
    dsimp only
    rw [hassign, if_neg (by simp), Eval.get_bind_apply, mention, if_pos hknown]
    exact hexpr
  | keyword =>
    rw [hkind] at hoperand
    unfold constant? at hoperand
    unfold keywordStatement
    cases hword : t.keyword? with
    | none =>
      rw [hword] at hoperand
      cases hoperand
    | some word =>
      rw [hword] at hoperand
      cases word <;> first | exact hexpr | cases hoperand
  | _ =>
    rw [hkind] at hoperand
    cases hoperand

theorem Token.run_of_isKeyword {k : Keyword} (ht : t.isKeyword k = true) (p : Progress)
    (rest : List Token) :
    run call site shadow ends p (t :: rest) =
      keywordStatement call site shadow ends p t rest := by
  rw [run_cons, (Token.kind_of_isKeyword ht).1]

section

variable {rest tail test afterTest right body after : List Token} {mid : State} {v : Value}

/-- An assignment evaluates its right side and sets the variable. -/
theorem run_of_assignment {sign : Token} (hp : p.pending.isSome = false) (ht : t.kind = .ident)
    (hsign : sign.kind = .assign) (hcut : Bracket.terminated? tail = some (right, after))
    (hright : right ≠ []) (hv : evaluate call site right st = .ok v mid) :
    run call site shadow ends p (t :: sign :: tail) st =
      run call site shadow ends ⟨none, some v⟩ after
        (if shadow then mid.declare site t.literal v else mid.assign site t.literal v) := by
  have hopens : opensAssignment (sign :: tail) = true := by simp [opensAssignment, hsign]
  rw [run_cons, ht]
  dsimp only
  rw [if_pos hopens, Quartz.assignment, Eval.bind_of_ok (Progress.require_of_none hp _ _ _), hcut]
  cases right with
  | nil => exact absurd rfl hright
  | cons w right =>
    dsimp only
    rw [Eval.bind_of_ok hv]
    rfl

/-- A name without a meaning is declared, and what stands behind it is evaluated. -/
theorem run_of_declaration (hp : p.pending.isSome = false) (ht : t.kind = .ident)
    (hassign : opensAssignment rest = false)
    (hunknown : ((st.meaning site t.literal).known || opensParen rest) = false)
    (hv : (binary call site ends false .null rest).bare (st.declare site t.literal .null) =
      .ok (v, after) mid) :
    run call site shadow ends p (t :: rest) st =
      run call site shadow ends { p with pending := some v } after mid := by
  rw [run_cons, ht]
  dsimp only
  rw [hassign, if_neg (by simp), Eval.get_bind_apply, mention, hunknown, if_neg (by simp),
    Eval.bind_of_ok (Progress.require_of_none hp _ _ _)]
  exact Eval.bind_of_ok hv

theorem run_of_function {d : FunctionDecl} (ht : t.isKeyword .function = true)
    (hread : FunctionDecl.read ends (t :: rest) = .ok (d, after))
    (hdefine : defineAll site 0 [d] st = .ok () mid) :
    run call site shadow ends p (t :: rest) st = run call site shadow ends p after mid := by
  rw [Token.run_of_isKeyword ht, keywordStatement, (Token.kind_of_isKeyword ht).2]
  dsimp only
  rw [hread]
  exact Eval.bind_of_ok hdefine

theorem run_of_crystal {d : ClassDecl} {c : Instance} (ht : t.isKeyword .crystal = true)
    (hread : ClassDecl.read ends (t :: rest) = .ok (d, after))
    (hbuilt : instantiate call (some (st.outermost site.scope)) d.name d.body st = .ok c mid) :
    run call site shadow ends p (t :: rest) st =
      run call site shadow ends p after (mid.declare site d.name (.object c)) := by
  rw [Token.run_of_isKeyword ht, keywordStatement, (Token.kind_of_isKeyword ht).2]
  dsimp only
  rw [hread]
  exact Eval.bind_of_ok hbuilt

theorem run_of_conditional (hp : p.pending.isSome = false) (ht : t.isKeyword .cond = true) :
    run call site shadow ends p (t :: rest) st =
      conditional call site shadow ends p.last false t.offset rest st := by
  rw [Token.run_of_isKeyword ht, keywordStatement, (Token.kind_of_isKeyword ht).2]
  exact Eval.bind_of_ok (Progress.require_of_none hp _ _ _)

/-! #### Chains of conditionals -/

theorem alternative_of_elseIf {u : Token} (ht : t.isKeyword .alternative = true)
    (hu : u.isKeyword .cond = true) :
    alternative call site shadow ends last taken (t :: u :: rest) =
      conditional call site shadow ends last taken u.offset rest := by
  rw [alternative_cons, if_pos ht]
  exact if_pos hu

theorem alternative_of_otherwise {u : Token} (ht : t.isKeyword .alternative = true)
    (hu : u.isKeyword .cond = false) :
    alternative call site shadow ends last taken (t :: u :: rest) =
      final call site shadow ends last taken (u :: rest) := by
  rw [alternative_cons, if_pos ht]
  exact if_neg (by simp [hu])

section

variable (htest : Declaration.bracketed .leftParen .expectedConditionParen .unbalancedCondition
    ends ts = .ok (test, afterTest))
  (hbody : Declaration.bracketed .leftBrace .expectedBrace .unbalancedBrace ends afterTest =
    .ok (body, after))
include htest hbody

/-- Behind a body that was taken, neither the test nor the body is looked into. -/
theorem conditional_of_taken :
    conditional call site shadow ends last true offset ts =
      alternative call site shadow ends last true after := by
  rw [conditional_eq]
  simp only [htest, hbody]
  rfl

theorem conditional_of_refused (hholds : condition call site offset test st = .ok false mid) :
    conditional call site shadow ends last false offset ts st =
      alternative call site shadow ends last false after mid := by
  rw [conditional_eq]
  simp only [htest, hbody]
  exact Eval.bind_of_ok hholds

theorem conditional_of_chosen {mid' : State} {r : Progress}
    (hholds : condition call site offset test st = .ok true mid)
    (hinner : run call site shadow (Token.endOffset body) {} body mid = .ok (.finished r) mid') :
    conditional call site shadow ends last false offset ts st =
      alternative call site shadow ends (r.value <|> last) true after mid' := by
  rw [conditional_eq]
  simp only [htest, hbody]
  exact (Eval.bind_of_ok hholds).trans (Eval.bind_of_ok hinner)

end

section

variable (hbody : Declaration.bracketed .leftBrace .expectedBrace .unbalancedBrace ends ts =
  .ok (body, after))
include hbody

theorem final_of_taken :
    final call site shadow ends last true ts st =
      run call site shadow ends ⟨none, last⟩ after st := by
  rw [final_eq]
  simp only [hbody]
  rfl

theorem final_of_entered {r : Progress}
    (hinner : run call site shadow (Token.endOffset body) {} body st = .ok (.finished r) mid) :
    final call site shadow ends last false ts st =
      run call site shadow ends ⟨none, r.value <|> last⟩ after mid := by
  rw [final_eq]
  simp only [hbody]
  exact Eval.bind_of_ok hinner

end

end

/-- Whatever runs in front of it, a trace is that of the run from its stage on, and the value of
the run is the last one of the trace. -/
theorem Trace.resume_eq {stage : Stage} {vs : List Value} {pending : Bool}
    (h : Trace call site shadow ends stage ts st vs pending st')
    (hp : p.pending.isSome = stage.pending) :
    ∃ q, stage.resume call site shadow ends p ts st = .ok (.finished q) st' ∧
      q.pending.isSome = pending ∧ q.value = latest vs p.value := by
  -- Each rule is a step of the run. A body that is run has its value in front of what follows.
  induction h generalizing p with
  | nil =>
    refine ⟨p, ?_, hp, (latest_nil _).symm⟩
    rw [Stage.resume, run_nil]
    rfl
  | eof ht =>
    refine ⟨p, ?_, hp, (latest_nil _).symm⟩
    rw [Stage.resume, run_cons, ht]
    rfl
  | semicolon ht next ih =>
    obtain ⟨q, hrun, hq⟩ := ih (p := p.committed) rfl
    refine ⟨q, ?_, hq⟩
    rw [Stage.resume, run_cons, ht]
    exact hrun
  | idle ht next ih =>
    obtain ⟨q, hrun, hq⟩ := ih hp
    exact ⟨q, (congrFun (run_of_idle ht p _) _).trans hrun, hq⟩
  | assignment ht hsign hcut hright hv next ih =>
    obtain ⟨q, hrun, hpending, hvalue⟩ := ih (p := ⟨none, some _⟩) rfl
    refine ⟨q, (run_of_assignment hp ht hsign hcut hright hv).trans hrun, hpending, ?_⟩
    rw [hvalue, latest_cons]
    rfl
  | expression ht hv next ih =>
    obtain ⟨q, hrun, hpending, hvalue⟩ := ih (p := { p with pending := some _ }) rfl
    refine ⟨q, (run_of_phrase hp ht hv).trans hrun, hpending, ?_⟩
    rw [hvalue, latest_cons]
    rfl
  | declaration ht hassign hunknown hv next ih =>
    obtain ⟨q, hrun, hpending, hvalue⟩ := ih (p := { p with pending := some _ }) rfl
    refine ⟨q, (run_of_declaration hp ht hassign hunknown hv).trans hrun, hpending, ?_⟩
    rw [hvalue, latest_cons]
    rfl
  | function ht hread hdefine next ih =>
    obtain ⟨q, hrun, hq⟩ := ih hp
    exact ⟨q, (run_of_function ht hread hdefine).trans hrun, hq⟩
  | crystal ht hread hbuilt next ih =>
    obtain ⟨q, hrun, hq⟩ := ih hp
    exact ⟨q, (run_of_crystal ht hread hbuilt).trans hrun, hq⟩
  | conditional ht next ih =>
    obtain ⟨q, hrun, hq⟩ := ih hp
    exact ⟨q, (run_of_conditional hp ht).trans hrun, hq⟩
  | skipped htest hbody next ih =>
    obtain ⟨q, hrun, hq⟩ := ih (p := p) hp
    exact ⟨q, (congrFun (conditional_of_taken htest hbody) _).trans hrun, hq⟩
  | refused htest hbody hholds next ih =>
    obtain ⟨q, hrun, hq⟩ := ih (p := p) hp
    exact ⟨q, (conditional_of_refused htest hbody hholds).trans hrun, hq⟩
  | chosen htest hbody hholds inner next ihinner ih =>
    obtain ⟨r, hinner, _, hr⟩ := ihinner (p := {}) rfl
    obtain ⟨q, hrun, hpending, hvalue⟩ := ih (p := ⟨none, r.value <|> p.last⟩) rfl
    refine ⟨q, (conditional_of_chosen htest hbody hholds hinner).trans hrun, hpending, ?_⟩
    rw [hvalue, latest_append, hr, Progress.value_of_none hp]
    exact congrArg (latest _) (latest_orElse _ _)
  | noElse hts next ih =>
    obtain ⟨q, hrun, hpending, hvalue⟩ := ih (p := ⟨none, p.last⟩) rfl
    refine ⟨q, ?_, hpending, by rw [hvalue, Progress.value_of_none hp]; rfl⟩
    exact (congrFun (alternative_of_not_opens hts _ _) _).trans hrun
  | elseIf ht hu next ih =>
    obtain ⟨q, hrun, hq⟩ := ih (p := p) hp
    exact ⟨q, (congrFun (alternative_of_elseIf ht hu) _).trans hrun, hq⟩
  | otherwise ht hu next ih =>
    obtain ⟨q, hrun, hq⟩ := ih (p := p) hp
    exact ⟨q, (congrFun (alternative_of_otherwise ht hu) _).trans hrun, hq⟩
  | passed hbody next ih =>
    obtain ⟨q, hrun, hpending, hvalue⟩ := ih (p := ⟨none, p.last⟩) rfl
    refine ⟨q, (final_of_taken hbody).trans hrun, hpending, ?_⟩
    rw [hvalue, Progress.value_of_none hp]
    rfl
  | entered hbody inner next ihinner ih =>
    obtain ⟨r, hinner, _, hr⟩ := ihinner (p := {}) rfl
    obtain ⟨q, hrun, hpending, hvalue⟩ := ih (p := ⟨none, r.value <|> p.last⟩) rfl
    refine ⟨q, (final_of_entered hbody hinner).trans hrun, hpending, ?_⟩
    rw [hvalue, latest_append, hr, Progress.value_of_none hp]
    exact congrArg (latest _) (latest_orElse _ _)

/-! ### A run has a trace -/

theorem Progress.require_eq_ok {place : Unterminated} {u : Unit}
    (h : p.require place offset st = .ok u st') : p.pending.isSome = false ∧ st = st' := by
  unfold Progress.require at h
  cases hp : p.pending.isSome with
  | true =>
    rw [hp, if_pos rfl] at h
    cases h
  | false =>
    rw [hp, if_neg (by simp)] at h
    cases h
    exact ⟨rfl, rfl⟩

variable (call site shadow) in
/-- Runs of at most `n` tokens that come to their end have a trace. -/
def Traced (n : Nat) : Prop :=
  ∀ (ends : Int) (p q : Progress) (ts : List Token) (st st' : State), ts.length ≤ n →
    run call site shadow ends p ts st = .ok (.finished q) st' →
    ∃ vs, Trace call site shadow ends (.statement p.pending.isSome) ts st vs q.pending.isSome st'

namespace Traced

variable {n : Nat} {p q : Progress} {t : Token} {rest : List Token} {st st' : State}

section

variable (hn : Traced call site shadow n)
include hn

theorem expression (hlen : rest.length ≤ n)
    (ht : t.kind = .ident → opensAssignment rest = false ∧
      ((st.meaning site t.literal).known || opensParen rest) = true)
    (h : Quartz.expression call site shadow ends p t rest st = .ok (.finished q) st') :
    ∃ vs, Trace call site shadow ends (.statement p.pending.isSome) (t :: rest) st vs
      q.pending.isSome st' := by
  rw [expression_eq_phrase] at h
  obtain ⟨_, mid, hreq, h⟩ := Eval.bind_eq_ok.1 h
  obtain ⟨hp, rfl⟩ := Progress.require_eq_ok hreq
  obtain ⟨⟨v, after⟩, mid', hphrase, h⟩ := Eval.bind_eq_ok.1 h
  have hshort := length_of_phrase hphrase
  rw [List.length_cons] at hshort
  obtain ⟨vs, htrace⟩ := hn ends _ q after mid' st' (by omega) h
  rw [hp]
  exact ⟨v :: vs, .expression ht hphrase htrace⟩

theorem assignment (hlen : rest.length ≤ n) (ht : t.kind = .ident)
    (hopens : opensAssignment rest = true)
    (h : Quartz.assignment call site shadow ends p t rest st = .ok (.finished q) st') :
    ∃ vs, Trace call site shadow ends (.statement p.pending.isSome) (t :: rest) st vs
      q.pending.isSome st' := by
  cases rest with
  | nil => cases hopens
  | cons sign tail =>
    unfold Quartz.assignment at h
    obtain ⟨_, mid, hreq, h⟩ := Eval.bind_eq_ok.1 h
    obtain ⟨hp, rfl⟩ := Progress.require_eq_ok hreq
    cases hcut : Bracket.terminated? tail with
    | none =>
      rw [hcut] at h
      cases h
    | some cut =>
      obtain ⟨right, after⟩ := cut
      rw [hcut] at h
      cases right with
      | nil => cases h
      | cons w right =>
        obtain ⟨v, mid', hv, h⟩ := Eval.bind_eq_ok.1 h
        have hlen' := Bracket.length_of_terminated? hcut
        rw [List.length_cons] at hlen
        obtain ⟨vs, htrace⟩ := hn ends ⟨none, some v⟩ q after _ st' (by omega) h
        rw [hp]
        exact ⟨v :: vs, .assignment ht (of_decide_eq_true hopens) hcut (by simp) hv htrace⟩

theorem mention (hlen : rest.length ≤ n) (ht : t.kind = .ident)
    (hopens : opensAssignment rest = false)
    (h : Quartz.mention call site shadow ends p t rest (st.meaning site t.literal) st =
      .ok (.finished q) st') :
    ∃ vs, Trace call site shadow ends (.statement p.pending.isSome) (t :: rest) st vs
      q.pending.isSome st' := by
  unfold Quartz.mention at h
  cases hknown : ((st.meaning site t.literal).known || opensParen rest) with
  | true =>
    rw [hknown, if_pos rfl] at h
    exact hn.expression hlen (fun _ => ⟨hopens, hknown⟩) h
  | false =>
    rw [hknown, if_neg (by simp)] at h
    obtain ⟨_, mid, hreq, h⟩ := Eval.bind_eq_ok.1 h
    obtain ⟨hp, rfl⟩ := Progress.require_eq_ok hreq
    obtain ⟨_, mid', hdeclare, h⟩ := Eval.bind_eq_ok.1 h
    cases hdeclare
    obtain ⟨⟨v, after⟩, mid'', hbinary, h⟩ := Eval.bind_eq_ok.1 h
    have hshort := Eval.length_of_bare hbinary
    obtain ⟨vs, htrace⟩ := hn ends _ q after mid'' st' (by omega) h
    rw [hp]
    exact ⟨v :: vs, .declaration ht hopens hknown hbinary htrace⟩

theorem final (hlen : ts.length ≤ n)
    (h : Quartz.final call site shadow ends last taken ts st = .ok (.finished q) st') :
    ∃ vs, Trace call site shadow ends (.body taken) ts st vs q.pending.isSome st' := by
  rw [final_eq] at h
  cases hbody : Declaration.bracketed .leftBrace .expectedBrace .unbalancedBrace ends ts with
  | error e =>
    rw [hbody] at h
    cases h
  | ok cut =>
    obtain ⟨body, after⟩ := cut
    have hshort := Declaration.length_of_bracketed hbody
    rw [hbody] at h
    obtain ⟨flow, mid, hflow, h⟩ := Eval.bind_eq_ok.1 h
    cases flow with
    | returned v offset => cases h
    | finished r =>
      obtain ⟨vs', hnext⟩ := hn ends _ q after mid st' (by omega) h
      cases taken with
      | true =>
        cases hflow
        exact ⟨vs', .passed hbody hnext⟩
      | false =>
        obtain ⟨vs, hinner⟩ := hn _ {} r body st mid (by omega) hflow
        exact ⟨vs ++ vs', .entered hbody hinner hnext⟩

theorem conditional (hlen : ts.length ≤ n)
    (h : Quartz.conditional call site shadow ends last taken offset ts st = .ok (.finished q) st') :
    ∃ vs, Trace call site shadow ends (.condition taken offset) ts st vs q.pending.isSome st' := by
  induction hk : ts.length using Nat.strongRecOn generalizing ts st last taken offset with
  | _ k ih =>
    rcases conditional_cases call site shadow ends ts with
      ⟨_, _, _, heq⟩ | ⟨test, middle, body, after, htest, hbody, heq⟩
    · rw [heq] at h
      cases h
    · rw [heq] at h
      have hlen₁ := Declaration.length_of_bracketed htest
      have hlen₂ := Declaration.length_of_bracketed hbody
      obtain ⟨holds, mid, hholds, h⟩ := Eval.bind_eq_ok.1 h
      obtain ⟨flow, mid', hflow, h⟩ := Eval.bind_eq_ok.1 h
      cases flow with
      | returned v o => cases h
      | finished r =>
        -- What follows the body is traced first, the body then.
        have hnext : ∃ vs, Trace call site shadow ends (.alternative (taken || holds)) after
            mid' vs q.pending.isSome st' := by
          obtain ⟨f, hf, heq'⟩ := exists_proceeds call site shadow ends after
          dsimp only at h
          rw [heq'] at h
          cases hf with
          | next hopens =>
            obtain ⟨vs, hvs⟩ := hn ends _ q after mid' st' (by omega) h
            exact ⟨vs, .noElse hopens hvs⟩
          | elseIf hw hx =>
            simp only [List.length_cons] at hlen₂
            obtain ⟨vs, hvs⟩ := ih _ (by omega) (by omega) h rfl
            exact ⟨vs, .elseIf hw hx hvs⟩
          | @otherwise w tail hw hx =>
            rw [List.length_cons] at hlen₂
            obtain ⟨vs, hvs⟩ := hn.final (by omega) h
            cases tail with
            | nil =>
              dsimp only at h
              rw [final_eq] at h
              cases h
            | cons x tail => exact ⟨vs, .otherwise hw (hx x tail rfl) hvs⟩
        obtain ⟨vs', hnext⟩ := hnext
        cases taken with
        | true =>
          cases hholds
          cases hflow
          exact ⟨vs', .skipped htest hbody hnext⟩
        | false =>
          cases holds with
          | false =>
            cases hflow
            exact ⟨vs', .refused htest hbody hholds hnext⟩
          | true =>
            obtain ⟨vs, hinner⟩ := hn _ {} r body mid mid' (by omega) hflow
            exact ⟨vs ++ vs', .chosen htest hbody hholds hinner hnext⟩

theorem succ : Traced call site shadow (n + 1) := by
  intro ends p q ts st st' hlen h
  cases ts with
  | nil =>
    rw [run_nil] at h
    cases h
    exact ⟨[], .nil⟩
  | cons t rest =>
    have hrest : rest.length ≤ n := by simpa using hlen
    obtain ⟨f, hf, hrun⟩ := exists_opens call site shadow t
    rw [hrun] at h
    cases hf with
    | eof ht =>
      cases h
      exact ⟨[], .eof ht⟩
    | refused form => cases h
    | semicolon ht =>
      obtain ⟨vs, hvs⟩ := hn ends p.committed q rest st st' hrest h
      exact ⟨vs, .semicolon ht hvs⟩
    | idle ht =>
      obtain ⟨vs, hvs⟩ := hn ends p q rest st st' hrest h
      exact ⟨vs, .idle ht hvs⟩
    | name ht =>
      dsimp only at h
      cases hopens : opensAssignment rest with
      | true =>
        rw [hopens, if_pos rfl] at h
        exact hn.assignment hrest ht hopens h
      | false =>
        rw [hopens, if_neg (by simp), Eval.get_bind_apply] at h
        exact hn.mention hrest ht hopens h
    | ret =>
      -- A run that returns does not come to its end.
      obtain ⟨_, mid, _, h⟩ := Eval.bind_eq_ok.1 h
      cases hcut : Bracket.terminated? rest with
      | none =>
        rw [hcut] at h
        cases h
      | some cut =>
        obtain ⟨right, after⟩ := cut
        rw [hcut] at h
        cases right with
        | nil => cases h
        | cons w right =>
          obtain ⟨v, mid', _, h⟩ := Eval.bind_eq_ok.1 h
          cases h
    | cond ht =>
      obtain ⟨_, mid, hreq, h⟩ := Eval.bind_eq_ok.1 h
      obtain ⟨hp, rfl⟩ := Progress.require_eq_ok hreq
      obtain ⟨vs, hvs⟩ := hn.conditional hrest h
      rw [hp]
      exact ⟨vs, .conditional ht hvs⟩
    | function ht =>
      cases hread : FunctionDecl.read ends (t :: rest) with
      | error e =>
        simp only [hread] at h
        cases h
      | ok cut =>
        obtain ⟨d, after⟩ := cut
        have hshort := FunctionDecl.length_of_read hread
        rw [List.length_cons] at hshort
        simp only [hread] at h
        obtain ⟨_, mid, hdefine, h⟩ := Eval.bind_eq_ok.1 h
        obtain ⟨vs, hvs⟩ := hn ends p q after mid st' (by omega) h
        exact ⟨vs, .function ht hread hdefine hvs⟩
    | crystal ht =>
      cases hread : ClassDecl.read ends (t :: rest) with
      | error e =>
        simp only [hread] at h
        cases h
      | ok cut =>
        obtain ⟨d, after⟩ := cut
        have hshort := ClassDecl.length_of_read hread
        rw [List.length_cons] at hshort
        simp only [hread, Eval.get_bind_apply, declareClass] at h
        obtain ⟨c, mid, hbuilt, h⟩ := Eval.bind_eq_ok.1 h
        obtain ⟨vs, hvs⟩ := hn ends p q after _ st' (by omega) h
        exact ⟨vs, .crystal ht hread hbuilt hvs⟩
    | expression ht => exact hn.expression hrest (fun hident => absurd hident ht) h

end

theorem all (n : Nat) : Traced call site shadow n := by
  induction n with
  | zero =>
    intro ends p q ts st st' hlen h
    rw [List.eq_nil_of_length_eq_zero (Nat.le_zero.1 hlen)] at h ⊢
    rw [run_nil] at h
    cases h
    exact ⟨[], .nil⟩
  | succ n ih => exact ih.succ

end Traced

/-- A run comes to its end exactly if it has a trace, and its value is the last one of the
trace. -/
theorem run_eq_finished_iff {v : Option Value} {pending : Bool} :
    (∃ q, run call site shadow ends p ts st = .ok (.finished q) st' ∧
      q.pending.isSome = pending ∧ q.value = v) ↔
    ∃ vs, Trace call site shadow ends (.statement p.pending.isSome) ts st vs pending st' ∧
      v = latest vs p.value := by
  constructor
  · rintro ⟨q, hrun, rfl, rfl⟩
    obtain ⟨vs, htrace⟩ := Traced.all ts.length ends p q ts st st' (Nat.le_refl _) hrun
    obtain ⟨q', hrun', _, hvalue⟩ := htrace.resume_eq (p := p) rfl
    cases hrun.symm.trans hrun'
    exact ⟨vs, htrace, hvalue⟩
  · rintro ⟨vs, htrace, rfl⟩
    exact htrace.resume_eq rfl

end

end Quartz
