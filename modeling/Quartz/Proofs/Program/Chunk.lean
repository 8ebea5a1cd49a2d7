import Quartz.Proofs.Eval.Trace
import Quartz.Proofs.Program.Hoist

/-!
# `Quartz.Proofs.Program.Chunk`: executing statements piece by piece

A session executes its input in chunks against one scope. Cutting a list of statements into
chunks makes no difference: the second chunk goes on in the state that the first one left, fails
as it would fail on its own, and its value is the last one that it evaluates. Only if it evaluates
nothing, the value of the first chunk shines through (`execute_append`).

The second chunk must not start with an `else`, which would belong to the `if` that ends the first
one, and the first chunk must not hold the token that ends a source.
-/

set_option autoImplicit false

namespace Quartz

section

variable {s : ScopeId} {ts : List Token} {st st' : State}

/-- The statements in `ts` are executed from `st` to `st'` and have the values `vs`. -/
def Executes (s : ScopeId) (ts : List Token) (st : State) (vs : List Value) (st' : State) : Prop :=
  Trace (callFrom st s) ⟨s, 0⟩ false (Token.endOffset ts) (.statement false) ts st vs false st'

/-- Executes tokens behind a value. -/
def executeBehind (s : ScopeId) (earlier : Option Value) (ts : List Token) : Eval Value := do
  let call := callFrom (← get) s
  let flow ← run call ⟨s, 0⟩ false (Token.endOffset ts) ⟨none, earlier⟩ ts
  conclude (Token.endOffset ts) flow

theorem executeBehind_none (s : ScopeId) (ts : List Token) :
    executeBehind s none ts = execute s ts := rfl

theorem getD_latest (vs : List Value) (earlier : Option Value) :
    (latest vs earlier).getD .null = vs.getLast?.getD (earlier.getD .null) := by
  unfold latest
  cases vs.getLast? <;> rfl

/-- What is concluded from a run that ends without a pending value. -/
theorem conclude_eq_ok {ends : Int} {flow : Flow} {v : Value} :
    conclude ends flow st = .ok v st' ↔
      st = st' ∧ ∃ q, flow = .finished q ∧ q.pending.isSome = false ∧ v = q.value.getD .null := by
  cases flow with
  | returned u offset => simp [conclude]
  | finished q =>
    cases hq : q.pending.isSome with
    | true => simp [conclude, hq, -Option.isSome_eq_false_iff]
    | false =>
      simp only [conclude, hq, Bool.false_eq_true, if_false, Eval.pure_apply,
        EStateM.Result.ok.injEq, Flow.finished.injEq, exists_eq_left', true_and,
        Progress.value_of_none hq]
      tauto

/-- Executed tokens have a value exactly if they have a trace. -/
theorem executeBehind_eq_ok_iff {earlier : Option Value} {v : Value} :
    executeBehind s earlier ts st = .ok v st' ↔
      ∃ vs, Executes s ts st vs st' ∧ v = vs.getLast?.getD (earlier.getD .null) := by
  have hrun : executeBehind s earlier ts st = .ok v st' ↔
      ∃ q, run (callFrom st s) ⟨s, 0⟩ false (Token.endOffset ts) ⟨none, earlier⟩ ts st =
        .ok (.finished q) st' ∧ q.pending.isSome = false ∧ v = q.value.getD .null := by
    unfold executeBehind
    rw [Eval.get_bind_apply, Eval.bind_eq_ok]
    constructor
    · rintro ⟨flow, mid, hflow, h⟩
      obtain ⟨rfl, q, rfl, hq⟩ := conclude_eq_ok.1 h
      exact ⟨q, hflow, hq⟩
    · rintro ⟨q, hflow, hq⟩
      exact ⟨_, st', hflow, conclude_eq_ok.2 ⟨rfl, q, rfl, hq⟩⟩
  rw [hrun]
  constructor
  · rintro ⟨q, hflow, hpending, rfl⟩
    obtain ⟨vs, htrace, hvalue⟩ := run_eq_finished_iff.1 ⟨q, hflow, hpending, rfl⟩
    exact ⟨vs, htrace, by rw [hvalue, ← getD_latest]; rfl⟩
  · rintro ⟨vs, htrace, rfl⟩
    obtain ⟨q, hflow, hpending, hvalue⟩ := Trace.resume_eq (p := ⟨none, earlier⟩) htrace rfl
    exact ⟨q, hflow, hpending, by rw [hvalue, ← getD_latest]; rfl⟩

/-- The value in front of executed tokens has no part in their failures. -/
theorem executeBehind_eq_error_iff {earlier : Option Value} {stop : Stop} :
    executeBehind s earlier ts st = .error stop st' ↔ execute s ts st = .error stop st' := by
  have hbehind := run_behind (callFrom st s) ⟨s, 0⟩ false (Token.endOffset ts) earlier {} ts
  rw [execute_eq]
  unfold executeBehind
  rw [Eval.get_bind_apply]
  show (run _ _ _ _ (Progress.behind earlier {}) ts >>= conclude _) st = _ ↔ _
  rw [hbehind, bind_map_left]
  cases hrun : run (callFrom st s) ⟨s, 0⟩ false (Token.endOffset ts) {} ts st with
  | error stop' mid => rw [Eval.bind_of_error hrun, Eval.bind_of_error hrun]
  | ok flow mid =>
    rw [Eval.bind_of_ok hrun, Eval.bind_of_ok hrun]
    cases flow with
    | returned v offset => rfl
    | finished q =>
      cases hq : q.pending.isSome <;> simp [Flow.behind, Progress.behind, conclude, hq]

end

section

variable {s : ScopeId} {a b : List Token} {built : List Instance} {st st₁ : State} {va : Value}

/-- Executing tokens leaves the caller of a scope as it is. -/
theorem callFrom_of_execute (hst : st.Sound built) (hs : s < st.scopes.size)
    (hva : execute s a st = .ok va st₁) : callFrom st₁ s = callFrom st s := by
  obtain ⟨built', hreach, _⟩ := (leads_execute hst hs a).exists_of_ok hva
  rw [callFrom, callFrom, hreach.keeps.limit s hs]

/-- Tokens behind executed tokens are executed behind their value. -/
theorem execute_append_eq (hst : st.Sound built) (hs : s < st.scopes.size)
    (ha : ∀ t ∈ a, t.kind ≠ .eof) (helse : opensAlternative b = false)
    (hva : execute s a st = .ok va st₁) :
    ∃ earlier : Option Value, va = earlier.getD .null ∧
      execute s (a ++ b) st = executeBehind s earlier b st₁ := by
  have hcall := callFrom_of_execute hst hs hva
  rw [execute_eq, Eval.bind_eq_ok] at hva
  obtain ⟨flow, mid, hrun, h⟩ := hva
  obtain ⟨rfl, q, rfl, hq, rfl⟩ := conclude_eq_ok.1 h
  have hnone : q.pending = none := Option.isSome_eq_false_iff.1 hq |> Option.isNone_iff_eq_none.1
  have hqlast : q = ⟨none, q.last⟩ := by rw [← hnone]
  refine ⟨q.last, by rw [Progress.value_of_none hq], ?_⟩
  rw [execute_eq, Eval.bind_congr_from (run_append helse ha hrun hnone)]
  unfold executeBehind
  rw [Eval.get_bind_apply, hcall]
  by_cases hb : b = []
  · -- Nothing follows, and the offset of the end is not used.
    subst hb
    rw [run_nil, run_nil, hqlast]
    rfl
  · rw [endOffset_append hb, ← hqlast]

/-- **Statements can be executed in chunks.** Let tokens `a` be executed with success in a scope
of a reachable state. Then executing `a ++ b` fails exactly if executing `b` afterwards fails, with
the same error at the same place and in the same state. It succeeds exactly if that succeeds, in the
same state. The value is that of the last expression or assignment evaluated in `b`, and the value
of `a` if `b` evaluates none. All this holds for every order in which copies take over members,
since that is a part of the state (`State.order`). -/
theorem execute_append (h : Reachable built st) (hs : s < st.scopes.size)
    (ha : ∀ t ∈ a, t.kind ≠ .eof) (helse : opensAlternative b = false)
    (hva : execute s a st = .ok va st₁) :
    (∀ stop st₂, execute s (a ++ b) st = .error stop st₂ ↔ execute s b st₁ = .error stop st₂) ∧
    (∀ vb st₂, execute s b st₁ = .ok vb st₂ ↔
      ∃ vs, Executes s b st₁ vs st₂ ∧ vb = vs.getLast?.getD .null) ∧
    ∀ v st₂, execute s (a ++ b) st = .ok v st₂ ↔
      ∃ vs, Executes s b st₁ vs st₂ ∧ v = vs.getLast?.getD va := by
  obtain ⟨earlier, rfl, happend⟩ := execute_append_eq h.sound hs ha helse hva
  rw [happend]
  refine ⟨?_, ?_, ?_⟩
  · intro stop st₂
    exact executeBehind_eq_error_iff
  · intro vb st₂
    rw [← executeBehind_none]
    exact executeBehind_eq_ok_iff
  · intro v st₂
    exact executeBehind_eq_ok_iff

/-- A chunk that ends with a conditional, and one that evaluates nothing. -/
theorem execute_append_conditional :
    let a := (Lexer.tokenize (utf8 "k = true; if (k) { k = false; }")).filter (·.kind ≠ .eof)
    let b := (Lexer.tokenize (utf8 "function f() { k; }")).filter (·.kind ≠ .eof)
    let st := (({} : State).newScope none (some 4)).2
    Reachable [] st ∧ (∀ t ∈ a, t.kind ≠ .eof) ∧ opensAlternative b = false ∧
      (result? (execute 0 (a ++ b) st)).map st.display = some (utf8 "false") ∧
      ∃ va st₁, execute 0 a st = .ok va st₁ ∧
        (∀ stop st₂, execute 0 (a ++ b) st = .error stop st₂ ↔ execute 0 b st₁ = .error stop st₂) ∧
        (∀ vb st₂, execute 0 b st₁ = .ok vb st₂ ↔
          ∃ vs, Executes 0 b st₁ vs st₂ ∧ vb = vs.getLast?.getD .null) ∧
        ∀ v st₂, execute 0 (a ++ b) st = .ok v st₂ ↔
          ∃ vs, Executes 0 b st₁ vs st₂ ∧ v = vs.getLast?.getD va := by
  intro a b st
  have hst : Reachable [] st := .step (.initial rfl rfl) (.newScope none (some 4) (by simp))
  have heof : ∀ t ∈ a, t.kind ≠ .eof := by decide +kernel
  have helse : opensAlternative b = false := by decide +kernel
  have hshown : (result? (execute 0 (a ++ b) st)).map st.display = some (utf8 "false") := by
    decide +kernel
  have hok : (result? (execute 0 a st)).isSome = true := by decide +kernel
  obtain ⟨va, st₁, hva⟩ := exists_of_result? hok
  exact ⟨hst, heof, helse, hshown, va, st₁, hva, execute_append hst (by decide) heof helse hva⟩

end

end Quartz
