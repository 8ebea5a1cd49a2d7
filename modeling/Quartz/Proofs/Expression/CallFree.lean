import Mathlib.Data.List.Chain
import Quartz.Proofs.Expression.Lookahead

/-!
# `Quartz.Proofs.Expression.CallFree`: expressions without calls only look

The one thing in an expression that can change the state is a call, and a call is written as a
name in front of an opening parenthesis. `CallFree` tokens have no such place. Pieces of them
are `CallFree` again, and a reader hands on a piece of what it was given (`Reader.Local`), so
the whole evaluation of such tokens comes across no call: `after_evaluate` and `after_phrase`
say that it leaves the state as it is, whether it gives a value or fails.

`Reader.Still` says this of a reader, for a state that is fixed throughout.
-/

set_option autoImplicit false

namespace Quartz

/-! ### Tokens without calls -/

/-- No name stands in front of an opening parenthesis. -/
def CallFree (ts : List Token) : Prop :=
  List.IsChain (fun t u => ¬ (t.kind = .ident ∧ u.kind = .leftParen)) ts

instance (ts : List Token) : Decidable (CallFree ts) :=
  inferInstanceAs (Decidable (List.IsChain _ ts))

namespace CallFree

variable {t : Token} {ts us : List Token}

theorem left (h : CallFree (ts ++ us)) : CallFree ts := List.IsChain.left_of_append h

theorem right (h : CallFree (ts ++ us)) : CallFree us := List.IsChain.right_of_append h

theorem tail (h : CallFree (t :: ts)) : CallFree ts := List.IsChain.tail h

theorem opensParen (h : CallFree (t :: ts)) (ht : t.kind = .ident) : opensParen ts = false := by
  cases ts with
  | nil => rfl
  | cons u ts =>
    have hu : u.kind ≠ .leftParen := fun hu => List.IsChain.rel h ⟨ht, hu⟩
    simpa [Quartz.opensParen] using hu

/-- A bracket, what it encloses and what stands behind it. -/
theorem enclosed (h : CallFree ts) {inner after : List Token}
    (hcut : Bracket.enclosed? ts = some (inner, after)) : CallFree inner ∧ CallFree after := by
  obtain ⟨o, c, rfl, _⟩ := Bracket.enclosed?_eq_some_iff.1 hcut
  exact ⟨h.tail.left, h.tail.right.tail⟩

/-- A statement up to its semicolon, and what stands behind it. -/
theorem terminated (h : CallFree ts) {statement after : List Token}
    (hcut : Bracket.terminated? ts = some (statement, after)) :
    CallFree statement ∧ CallFree after := by
  obtain ⟨t, _, rfl, _⟩ := Bracket.terminated?_eq_some_iff.1 hcut
  exact ⟨h.left, h.right.tail⟩

end CallFree

/-! ### Readers that only look -/

section

variable {α β : Type} {x : Eval α} {f : α → Eval β} {st : State}

/-- A run in two parts leaves the state as it is if both parts do. -/
theorem Eval.after_bind (hx : x.after st = st) (hf : ∀ a, x st = .ok a st → (f a).after st = st) :
    (x >>= f).after st = st := by
  unfold Eval.after at hx ⊢
  cases hrun : x st with
  | ok a mid =>
    rw [hrun] at hx
    change mid = st at hx
    rw [hx] at hrun
    rw [Eval.bind_of_ok hrun]
    exact hf a hrun
  | error stop mid =>
    rw [hrun] at hx
    rw [Eval.bind_of_error hrun]
    exact hx

theorem Eval.after_ofOperator (offset : Int) (r : Except Cause α) :
    (Eval.ofOperator offset r).after st = st := by
  cases r <;> rfl

theorem after_combine (op : Token) (l r : Value) : (combine op l r).after st = st := by
  unfold combine
  split
  · exact Eval.after_ofOperator _ _
  · rfl

theorem after_negate (op : Token) (v : Value) : (negate op v).after st = st := by
  unfold negate
  split <;> rfl

end

namespace Reader

/-- A reader of at most `n` tokens without calls leaves the state as it is. -/
def Still (st : State) (n : Nat) (read : Reader) : Prop :=
  ∀ (ends : Int) (ts : List Token), ts.length ≤ n → CallFree ts → (read ends ts).after st = st

namespace Still

variable {st : State} {n k : Nat} {read : Reader} {next : Value → Reader}

theorem mono (h : Still st n read) (hk : k ≤ n) : Still st k read :=
  fun ends ts hlen hts => h ends ts (Nat.le_trans hlen hk) hts

theorem pure (n : Nat) (v : Value) : Still st n fun _ ts => Pure.pure (v, ts) :=
  fun _ _ _ _ => rfl

theorem zero (hnil : ∀ ends, (read ends []).after st = st) : Still st 0 read := by
  intro ends ts hlen _
  rw [List.eq_nil_of_length_eq_zero (Nat.le_zero.1 hlen)]
  exact hnil ends

/-- No tokens, or one in front of at most `n` others. -/
theorem succ (hnil : ∀ ends, (read ends []).after st = st)
    (hcons : ∀ ends t ts, ts.length ≤ n → CallFree (t :: ts) →
      (read ends (t :: ts)).after st = st) : Still st (n + 1) read := by
  intro ends ts hlen hts
  cases ts with
  | nil => exact hnil ends
  | cons t ts => exact hcons ends t ts (by simpa using hlen) hts

/-- A reader goes on where another one stopped, with tokens that are without calls still. -/
theorem andThen (hlocal : Local n read) (hread : Still st n read)
    (hnext : ∀ v, Still st n (next v)) :
    Still st n fun ends ts => read ends ts >>= fun p => next p.1 ends p.2 := by
  intro ends ts hlen hts
  apply Eval.after_bind (hread ends ts hlen hts)
  rintro ⟨v, rest⟩ hrun
  obtain ⟨used, rfl, _⟩ := hlocal ends ts st v rest st hlen hrun
  rw [List.length_append] at hlen
  exact hnext v ends rest (by omega) hts.right

theorem afterStep {α : Type} {x : Eval α} {next : α → Reader} (hx : x.after st = st)
    (hnext : ∀ a, Still st n (next a)) : Still st n fun ends ts => x >>= fun a => next a ends ts :=
  fun ends ts hlen hts => Eval.after_bind hx fun a _ => hnext a ends ts hlen hts

/-- An operator takes a right side, is applied, and hands on to what follows. -/
theorem turn (op : Token) (left : Value) (hlocal : Local n read) (hread : Still st n read)
    (hnext : ∀ v, Still st n (next v)) :
    Still st n fun ends ts => read ends ts >>= fun p =>
      combine op left p.1 >>= fun v => next v ends p.2 :=
  hread.andThen hlocal fun u => .afterStep (after_combine op left u) hnext

end Still

end Reader

open Reader

section

variable {call : Caller} {site : Site} {st : State} {n : Nat}

variable (call site st) in
/-- Operands of at most `n` tokens without calls leave the state as it is. -/
def StillOperand (n : Nat) : Prop := Still st n fun ends ts => (operand call site ends ts).bare

namespace StillOperand

section

variable (hn : StillOperand call site st n)
include hn

theorem reduce (floor : Nat) (left : Value) :
    Still st n fun ends ts => (reduce call site ends floor left ts).bare := by
  have hnil : ∀ floor left ends,
      (Quartz.reduce call site ends floor left []).bare.after st = st := by
    intro floor left ends
    rw [bare_reduce_nil]
    rfl
  induction n generalizing floor left with
  | zero => exact .zero (hnil floor left)
  | succ n ih =>
    have hfewer : StillOperand call site st n := hn.mono (Nat.le_succ n)
    apply Still.succ (hnil floor left)
    intro ends op ts hlen hts
    rw [bare_reduce_cons]
    split
    · -- The right side is a term, which is the loop again above another floor.
      have hterm : Still st n fun ends ts =>
          (Quartz.term call site ends op.kind.priority ts).bare := by
        simp only [bare_term]
        exact hfewer.andThen (local_operand call site n) fun u => ih hfewer _ u
      have hturn := hterm.turn op left (local_term call site n op.kind.priority)
        fun u => ih hfewer floor u
      exact hturn ends ts hlen hts.tail
    · rfl

theorem term (floor : Nat) : Still st n fun ends ts => (term call site ends floor ts).bare := by
  simp only [bare_term]
  exact hn.andThen (local_operand call site n) fun u => hn.reduce floor u

theorem comparison : Still st n fun ends ts => (comparison call site ends ts).bare := by
  simp only [bare_comparison]
  suffices hcompare : ∀ u, Still st n fun ends ts => compareOnce call site ends u ts from
    (hn.term 0).andThen (local_term call site n 0) hcompare
  intro u ends ts hlen hts
  cases ts with
  | nil => rfl
  | cons op ts =>
    dsimp only
    rw [compareOnce]
    split
    · have hturn := (hn.term 0).turn op u (local_term call site n 0) fun w => Still.pure n w
      rw [List.length_cons] at hlen
      exact hturn ends ts (by omega) hts.tail
    · rfl

theorem binary (compared : Bool) (left : Value) :
    Still st n fun ends ts => (binary call site ends compared left ts).bare := by
  have hnil : ∀ compared left ends,
      (Quartz.binary call site ends compared left []).bare.after st = st := by
    intro compared left ends
    rw [bare_binary_nil]
    rfl
  induction n generalizing compared left with
  | zero => exact .zero (hnil compared left)
  | succ n ih =>
    have hfewer : StillOperand call site st n := hn.mono (Nat.le_succ n)
    apply Still.succ (hnil compared left)
    intro ends op ts hlen hts
    have hturn : ∀ (flag : Bool) {read : Reader}, Local n read → Still st n read →
        (read ends ts >>= fun p => combine op left p.1 >>= fun v =>
          (Quartz.binary call site ends flag v p.2).bare).after st = st := by
      intro flag read hlocal hread
      exact hread.turn op left hlocal (fun u => ih hfewer flag u) ends ts hlen hts.tail
    rw [bare_binary_cons]
    split
    · exact hturn compared (local_term call site n _) (hfewer.term _)
    · split
      · split
        · rfl
        · exact hturn true (local_term call site n 0) (hfewer.term 0)
      · split
        · exact hturn true (local_comparison call site n) hfewer.comparison
        · rfl

theorem phrase : Still st n (phrase call site) :=
  hn.andThen (local_operand call site n) fun u => hn.binary false u

theorem evaluate {ts : List Token} (hlen : ts.length ≤ n) (hts : CallFree ts) :
    (evaluate call site ts).after st = st := by
  rw [evaluate_eq, ← bind_assoc]
  apply Eval.after_bind (hn.phrase _ ts hlen hts)
  rintro ⟨v, rest⟩ _
  cases rest <;> rfl

end

theorem nil (ends : Int) : (operand call site ends []).bare.after st = st := by
  rw [bare_operand_nil]
  rfl

theorem succ (hn : StillOperand call site st n) : StillOperand call site st (n + 1) := by
  apply Still.succ nil
  intro ends t rest hlen hts
  rw [bare_operand_cons]
  cases hkind : t.kind with
  | ident =>
    show (readName call site t rest (st.meaning site t.literal)).after st = st
    unfold readName
    rw [hts.opensParen hkind]
    cases (st.meaning site t.literal).value? <;> rfl
  | keyword => cases constant? t <;> rfl
  | leftParen =>
    dsimp only
    split
    · rfl
    · rfl
    · next inner after _ hcut =>
        have hcutLen := Bracket.length_of_enclosed? hcut
        rw [List.length_cons] at hcutLen
        apply Eval.after_bind (hn.evaluate (by omega) (hts.enclosed hcut).1)
        exact fun v _ => rfl
  | minus =>
    apply Eval.after_bind (hn ends rest hlen hts.tail)
    intro p _
    exact Eval.after_bind (after_negate t p.1) fun v _ => rfl
  | not =>
    apply Eval.after_bind (hn ends rest hlen hts.tail)
    intro p _
    exact Eval.after_bind (Eval.after_ofOperator _ _) fun v _ => rfl
  | _ => rfl

end StillOperand

theorem stillOperand (call : Caller) (site : Site) (st : State) (n : Nat) :
    StillOperand call site st n := by
  induction n with
  | zero => exact Still.zero StillOperand.nil
  | succ n ih => exact ih.succ

variable {ts : List Token} (hts : CallFree ts)
include hts

/-- Evaluating tokens without calls leaves the state as it is. -/
theorem after_evaluate : (evaluate call site ts).after st = st :=
  (stillOperand call site st ts.length).evaluate (Nat.le_refl _) hts

/-- So does reading an expression at the front of tokens without calls. -/
theorem after_phrase (ends : Int) : (phrase call site ends ts).after st = st :=
  (stillOperand call site st ts.length).phrase ends ts (Nat.le_refl _) hts

/-- So do the operators behind a value. -/
theorem after_binary (ends : Int) (compared : Bool) (left : Value) :
    (binary call site ends compared left ts).bare.after st = st :=
  (stillOperand call site st ts.length).binary compared left ends ts (Nat.le_refl _) hts

end

end Quartz
