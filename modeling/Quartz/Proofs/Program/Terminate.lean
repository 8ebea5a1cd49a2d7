import Quartz.Proofs.Eval.Settle
import Quartz.Proofs.Program.Hoist

/-!
# `Quartz.Proofs.Program.Terminate`: programs without classes terminate

A program that declares no class runs in one scope, so the limit of that scope bounds how deep its
calls nest. Whatever recursion it contains, in functions that call each other, that are declared in
functions or that are passed around as values, it ends with a value or with an error
(`classless_terminates`). Levels of calls play no part in it: as many as the limit suffice.

With classes this fails: a function of one instance can call one of another, in whose scope there is
room again.
-/

set_option autoImplicit false

namespace Quartz

/-- A run ends with a value or with an error. -/
def Eval.Terminates {α : Type} (x : Eval α) (st : State) : Prop :=
  (∃ a st', x st = .ok a st') ∨ ∃ f st', x st = .error (.fault f) st'

theorem Settles.terminates {s : ScopeId} {first n : Nat} {st : State} {α : Type}
    {Q : Realm → α → Prop} {x : Eval α} (hx : Settles s first n st Q x) : x.Terminates st := by
  unfold Settles at hx
  cases hrun : x st with
  | ok a st' => exact .inl ⟨a, st', hrun⟩
  | error stop st' =>
    rw [hrun] at hx
    cases stop with
    | fault f => exact .inr ⟨f, st', hrun⟩
    | exhausted => exact absurd rfl hx

/-- Executes tokens with a number of levels of calls. -/
def executeAt (level : Nat) (s : ScopeId) (ts : List Token) : Eval Value := do
  let flow ← run (callAt level) ⟨s, 0⟩ false (Token.endOffset ts) {} ts
  conclude (Token.endOffset ts) flow

section

variable {s : ScopeId} {first n : Nat} {st : State}

/-- A scope that stands alone executes tokens without classes to the end. -/
theorem State.Alone.settles_executeAt (hst : st.Alone s first n) {ts : List Token}
    (hts : Classless ts) :
    Settles s first n st (fun w v => v.Within w) (executeAt n s ts) := by
  have hr : (enclave first st.functions.size).Reads ts := hts
  have hrun := (stepwise_run (callAt n) ⟨s, 0⟩ false hr.last (.empty _) hr).settles
    (settles_callAt s first n) rfl st hst rfl
  refine hrun.bind fun flow st' _ hon hflow => ?_
  cases flow with
  | returned v offset => exact .fail _ _
  | finished p =>
    show Settles s first n st' _
      (if p.pending.isSome then Eval.fail (.unterminated .atEnd) (Token.endOffset ts)
        else pure (p.last.getD .null))
    split
    · exact .fail _ _
    · apply Settles.pure hon.alone
      cases hlast : p.last with
      | none => trivial
      | some v => exact hflow v (.inr hlast)

/-! ### The start of a program -/

/-- A new scope with a limit, and the functions that every script can call. -/
def State.host (st : State) (limit : Int) : State :=
  (registerBuiltins st.scopes.size).after (st.newScope none (some limit)).2

/-- A new scope stands alone: there is nothing in it. -/
theorem State.alone_newScope (st : State) (limit : Int) :
    (st.newScope none (some limit)).2.Alone st.scopes.size st.functions.size
      ((st.newScope none (some limit)).2.scope st.scopes.size).limit := by
  obtain ⟨l, hl, hnew⟩ : ∃ l, 0 < l ∧
      (st.newScope none (some limit)).2 = (st.addScope (Scope.fresh none l)).2 := by
    refine ⟨_, ?_, rfl⟩
    dsimp only
    split
    · omega
    · exact Nat.zero_lt_succ _
  have hscope : (st.addScope (Scope.fresh none l)).2.scope st.scopes.size = Scope.fresh none l := by
    rw [State.scope_addScope, if_pos rfl]
  have hframe : ∀ i, (Scope.fresh none l).frame i = Frame.fresh (-1) := by
    intro i
    cases i <;> rfl
  rw [hnew, hscope]
  constructor
  · simp [State.addScope]
  · exact Nat.le_refl _
  · rw [hscope]
    rfl
  · rw [hscope]
    exact Nat.zero_lt_one
  · rw [hscope]
    exact Nat.le_refl 1
  · rw [hscope]
    exact hl
  · rw [hscope]
    show l < 1 + l
    omega
  · intro i e he
    rw [hscope, hframe] at he
    cases he
  · intro i e he
    rw [hscope, hframe] at he
    cases he
  · intro f hf hlt
    exact absurd hlt (Nat.not_lt.2 hf)

/-- A function that every script can call is added. -/
theorem State.Alone.native (hst : st.Alone s first n) (name : Bytes) (params : List Param)
    {native : Native} (hnative : native = .print ∨ native = .typeOf ∨ native = .create) :
    st.Onward s first n (st.register ⟨s, 0⟩ (Function.ofNative name params native)) := by
  apply hst.register 0 rfl
  refine { native := ?_, home := ?_, body := ?_ }
  · intro other hother
    cases hother
    exact hnative
  · intro hnone
    cases hnone
  · intro t ht
    cases ht

/-- The functions that every script can call leave a scope alone. -/
theorem State.Alone.builtins (hst : st.Alone s first n) :
    st.Onward s first n ((registerBuiltins s).after st) := by
  have hprint := hst.native (utf8 "print") [⟨utf8 "value", Param.anyType⟩] (.inl rfl)
  have htypeOf := hprint.alone.native (utf8 "typeof") [⟨utf8 "value", Param.anyType⟩]
    (.inr (.inl rfl))
  have hcreate := htypeOf.alone.native (utf8 "create") [⟨utf8 "value", Param.anyType⟩]
    (.inr (.inr rfl))
  have hreport : State.Onward s first n _ ((registerBuiltins s).after st) :=
    hcreate.alone.onward rfl rfl
  exact hprint.trans (htypeOf.trans (hcreate.trans hreport))

/-- The limit of the scope bounds the levels that a program in it needs. -/
theorem State.alone_host (st : State) (limit : Int) {level : Nat}
    (hlevel : ((st.host limit).scope st.scopes.size).limit ≤ level) :
    (st.host limit).Alone st.scopes.size st.functions.size level := by
  have hbuiltins := (st.alone_newScope limit).builtins
  apply hbuiltins.alone.mono
  rw [← hbuiltins.limit]
  exact hlevel

end

/-- A program that declares no class terminates in a new scope, whatever the limit of the scope.
As many levels of calls as the limit are enough for it. -/
theorem classless_terminates (st : State) (limit : Int) {ts : List Token} (hts : Classless ts) :
    (execute st.scopes.size ts).Terminates (st.host limit) ∧
      ∀ level, ((st.host limit).scope st.scopes.size).limit ≤ level →
        (executeAt level st.scopes.size ts).Terminates (st.host limit) := by
  have hlevels : ∀ level, ((st.host limit).scope st.scopes.size).limit ≤ level →
      (executeAt level st.scopes.size ts).Terminates (st.host limit) := by
    intro level hlevel
    exact ((st.alone_host limit hlevel).settles_executeAt hts).terminates
  refine ⟨?_, hlevels⟩
  have hspare := hlevels _ (Nat.le_add_right _ spareLevels)
  unfold Eval.Terminates at hspare ⊢
  rw [execute_eq]
  exact hspare

/-- Two functions that call each other without end: one is passed to the other, which is declared
anew in each call. -/
theorem classless_terminates_recursion :
    let ts := Lexer.tokenize
      (utf8 "function g(any f) \x7b function h(any k) \x7b return k(k); \x7d return h(f); \x7d g(g);")
    let st := ({} : State).host 5
    Classless ts ∧ failure? (execute 0 ts st) = some (.stackOverflow, 47) ∧
      (execute 0 ts).Terminates st ∧
      ∀ level, (st.scope 0).limit ≤ level → (executeAt level 0 ts).Terminates st := by
  intro ts st
  have hts : Classless ts := by decide +kernel
  have hfails : failure? (execute 0 ts st) = some (.stackOverflow, 47) := by decide +kernel
  exact ⟨hts, hfails, classless_terminates {} 5 hts⟩

end Quartz
