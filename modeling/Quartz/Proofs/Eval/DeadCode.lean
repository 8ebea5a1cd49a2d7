import Quartz.Eval.Call
import Quartz.Proofs.Eval.Sequence
import Quartz.Token.Lexer

/-!
# `Quartz.Proofs.Eval.DeadCode`: what stands behind a `return`

Nothing behind the semicolon of a `return` has an effect, be it well formed or not. The statements
in front of the `return` look ahead, for semicolons, closing brackets and an `else`, but they find
what they look for before they come to the `return`, or stop at it (`resumed_run`). The `return`
itself reads up to its semicolon (`run_return`). So two token lists that differ only behind that
semicolon run alike (`code_behind_return_is_dead`).

The statements in front may also return, at their top level or inside a conditional, and then even
the last `return` is not looked at.

`runAll` runs a token list from its start. Function bodies and programs are run by it, with its two
flags set to what each of them asks for (`bodyValue_eq_runAll`, `execute_eq_runAll`).
-/

set_option autoImplicit false

namespace Quartz

/-! ### Whole token lists -/

/-- Runs a token list from its start. With `strict`, an expression at the very end needs its
semicolon. -/
def runAll (call : Caller) (site : Site) (shadow strict : Bool) (ts : List Token) : Eval Flow := do
  let flow ← run call site shadow (Token.endOffset ts) {} ts
  if strict && flow.pending?.isSome then Eval.fail (.unterminated .atEnd) (Token.endOffset ts)
  else pure flow

/-- What a body gives: the value of its `return`, or of its last expression. -/
def Flow.value : Flow → Value
  | .returned v _ => v
  | .finished p => p.value.getD .null

/-- What a program gives. A `return` means nothing there. -/
def Flow.outside : Flow → Eval Value
  | .returned _ offset => Eval.fail .returnOutsideFunction offset
  | .finished p => pure (p.value.getD .null)

/-- A function body may end with an expression without a semicolon. -/
theorem bodyValue_eq_runAll (call : Caller) (site : Site) (body : List Token) :
    bodyValue call site body = Flow.value <$> runAll call site false false body := by
  simp only [bodyValue, runAll, Bool.false_and, Bool.false_eq_true, if_false, bind_pure,
    map_eq_pure_bind]
  refine bind_congr fun flow => ?_
  cases flow <;> rfl

/-- A program may not. -/
theorem execute_eq_runAll (s : ScopeId) (ts : List Token) (st : State) :
    execute s ts st =
      (runAll (callFrom st s) ⟨s, 0⟩ false true ts >>= Flow.outside) st := by
  rw [runAll, bind_assoc]
  show (run (callFrom st s) ⟨s, 0⟩ false (Token.endOffset ts) {} ts >>= _) st = _
  refine Eval.bind_congr_at fun flow st' _ => ?_
  cases flow with
  | returned v offset => rfl
  | finished p =>
    obtain ⟨pending, last⟩ := p
    cases pending <;> rfl

/-- Two token lists that run alike run alike as a whole, if a list that needs its last semicolon
has it. -/
theorem runAll_congr {call : Caller} {site : Site} {shadow strict : Bool} {ts us : List Token}
    {st : State} (h : run call site shadow (Token.endOffset ts) {} ts st =
      run call site shadow (Token.endOffset us) {} us st)
    (hend : ∀ flow st', run call site shadow (Token.endOffset us) {} us st = .ok flow st' →
      (strict && flow.pending?.isSome) = false) :
    runAll call site shadow strict ts st = runAll call site shadow strict us st := by
  rw [runAll, runAll, Eval.bind_congr_left h]
  refine Eval.bind_congr_at fun flow st' hrun => ?_
  rw [hend flow st' hrun]
  rfl

/-! ### Behind a `return` -/

section

variable {call : Caller} {site : Site} {shadow : Bool} {ret semicolon : Token} {e : List Token}

/-- A `return` evaluates what stands in front of its semicolon, and looks no further. -/
theorem run_return (hret : ret.isKeyword .ret = true) (he : ∀ t ∈ e, t.kind ≠ .semicolon)
    (hsemi : semicolon.kind = .semicolon) (ends : Int) (p : Progress) (rest : List Token) :
    run call site shadow ends p (ret :: (e ++ semicolon :: rest)) = (do
      p.require .beforeReturn ret.offset
      let v ← (if e = [] then pure .null else evaluate call site e)
      pure (.returned v ret.offset)) := by
  obtain ⟨hkind, hword⟩ := Token.kind_of_isKeyword hret
  have hcut : Bracket.terminated? (e ++ semicolon :: rest) = some (e, rest) :=
    Bracket.terminated?_eq_some_iff.2 ⟨semicolon, hsemi, rfl, he⟩
  rw [run_cons, hkind]
  simp only [keywordStatement, hword, hcut]
  refine bind_congr fun _ => ?_
  cases e <;> rfl

/-- A `return` and all that follows it have no part in what stands in front of them. -/
theorem precedes_return (hret : ret.isKeyword .ret = true) (flow : Flow) (rest : List Token) :
    flow.Precedes (ret :: rest) := by
  obtain ⟨hkind, hword⟩ := Token.kind_of_isKeyword hret
  refine ⟨?_, fun _ => ⟨ret, rest, rfl, ?_, ?_⟩⟩
  · simp [opensAlternative, Token.isKeyword, hword]
  · rw [hkind]
    rfl
  · simp [hkind]

/-- **Code behind a `return` is dead.** Let statements run without an error on their own. Followed
by a `return` with its semicolon, they give the same flow or error, in the same state and with the
same output, whatever stands behind that semicolon. -/
theorem code_behind_return_is_dead {strict : Bool} {front : List Token} {flow : Flow}
    {st st' : State} (hfront : runAll call site shadow strict front st = .ok flow st')
    (hret : ret.isKeyword .ret = true) (he : ∀ t ∈ e, t.kind ≠ .semicolon)
    (hsemi : semicolon.kind = .semicolon) (rest rest' : List Token) :
    runAll call site shadow strict (front ++ ret :: (e ++ semicolon :: rest)) st =
      runAll call site shadow strict (front ++ ret :: (e ++ semicolon :: rest')) st := by
  -- The statements in front end with `flow` before the last semicolon is asked for.
  obtain ⟨flow', mid, hrun, hend⟩ := Eval.bind_eq_ok.1 hfront
  split at hend
  · cases hend
  next hpending =>
  cases hend
  have hprecedes := fun rest => precedes_return hret flow (e ++ semicolon :: rest)
  cases resumed_run hrun with
  | ended _ hx =>
    -- They returned, or came to the end of the source.
    have hover := fun rest => hx (Token.endOffset (front ++ ret :: (e ++ semicolon :: rest))) _
      (hprecedes rest)
    apply runAll_congr ((hover rest).trans (hover rest').symm)
    intro flow'' st'' hflow
    cases (hover rest').symm.trans hflow
    simpa using hpending
  | @onward q _ hx =>
    -- They go on with the `return`, which returns or stops.
    have hon := fun rest => (hx (Token.endOffset (front ++ ret :: (e ++ semicolon :: rest))) _
      (hprecedes rest)).trans (congrFun (run_return hret he hsemi _ q rest) st')
    apply runAll_congr ((hon rest).trans (hon rest').symm)
    intro flow'' st'' hflow
    obtain ⟨_, _, _, hreturned⟩ := Eval.bind_eq_ok.1 ((hon rest').symm.trans hflow)
    obtain ⟨v, _, _, hreturned⟩ := Eval.bind_eq_ok.1 hreturned
    cases hreturned
    simp [Flow.pending?]

/-- A conditional in front of the `return`, and brackets behind it that fit nothing. -/
theorem code_behind_return_is_dead_brackets :
    let front := (Lexer.tokenize (utf8 "x = true; if (x) { x = false; }")).filter
      (·.kind ≠ .eof)
    let ret : Token := ⟨.keyword, utf8 "return", 32⟩
    let e : List Token := [⟨.ident, utf8 "x", 39⟩]
    let semicolon : Token := ⟨.semicolon, utf8 ";", 40⟩
    let rest := Lexer.tokenize (utf8 "\x7d else \x7b ((")
    let st := (({} : State).newScope none).2
    let runs := fun ts => runAll (callAt 1) ⟨0, 0⟩ false false ts st
    (result? (runs front)).isSome = true ∧ ret.isKeyword .ret = true ∧
      (∀ t ∈ e, t.kind ≠ .semicolon) ∧ semicolon.kind = .semicolon ∧
      (result? (runs (front ++ ret :: (e ++ [semicolon])))).map (st.display ∘ Flow.value) =
        some (utf8 "false") ∧
      runs (front ++ ret :: (e ++ semicolon :: rest)) =
        runs (front ++ ret :: (e ++ [semicolon])) := by
  intro front ret e semicolon rest st runs
  have hok : (result? (runs front)).isSome = true := by decide +kernel
  have hret : ret.isKeyword .ret = true := by decide +kernel
  have he : ∀ t ∈ e, t.kind ≠ .semicolon := by simp [e]
  have hvalue : (result? (runs (front ++ ret :: (e ++ [semicolon])))).map
      (st.display ∘ Flow.value) = some (utf8 "false") := by decide +kernel
  obtain ⟨flow, st', hfront⟩ := exists_of_result? hok
  exact ⟨hok, hret, he, rfl, hvalue, code_behind_return_is_dead hfront hret he rfl rest []⟩

end

end Quartz
