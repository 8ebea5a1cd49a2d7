import Quartz.Proofs.Cursor.Access
import Quartz.Proofs.Cursor.Token

/-!
# `Quartz.Proofs.Cursor.Expression`: expressions over a cursor

A cursor at an index reads the expression that stands at the front of the tokens from there on, and
comes to rest where that reading ends. All readers are compared at once, on the number of tokens
that are left (`Follows`): an operand in a group or in an argument is read from a list of its own,
which is shorter.
-/

set_option autoImplicit false

namespace Quartz

/-- Every arithmetic operator binds. -/
theorem Kind.priority_pos {k : Kind} (h : k.isArithmetic = true) : 0 < k.priority := by
  cases k <;> first | decide | cases h

/-- Arithmetic operators behind a value can be folded in first. -/
theorem bare_reduce_bind_binary (call : Caller) (site : Site) (ends : Int) (compared : Bool)
    (left : Value) (ts : List Token) :
    ((reduce call site ends 0 left ts).bare >>= fun p =>
      (binary call site ends compared p.1 p.2).bare) =
        (binary call site ends compared left ts).bare := by
  -- On a bound for the tokens: each operator takes several of them.
  obtain ⟨k, hk⟩ : ∃ k, ts.length ≤ k := ⟨_, Nat.le_refl _⟩
  induction k generalizing ts left with
  | zero =>
    rw [List.eq_nil_of_length_eq_zero (Nat.le_zero.1 hk), bare_reduce_nil, pure_bind]
  | succ k ih =>
    cases ts with
    | nil => rw [bare_reduce_nil, pure_bind]
    | cons op rest =>
      simp only [List.length_cons] at hk
      rw [bare_reduce_cons]
      by_cases hop : op.kind.isArithmetic = true
      · rw [if_pos (by simp [hop, Kind.priority_pos hop]), bare_binary_cons, if_pos hop]
        simp only [bind_assoc]
        -- What the term leaves is shorter, which the reader knows and its bare form does not.
        show (Reading.pair <$> _ >>= _) = (Reading.pair <$> _ >>= _)
        rw [bind_map_left, bind_map_left]
        apply bind_congr
        intro r
        have hshort := r.shorter
        apply bind_congr
        intro v
        exact ih v r.rest (by omega)
      · rw [if_neg (by simp [hop]), pure_bind]

theorem opensParen_eq_any (ts : List Token) :
    opensParen ts = ts.head?.any (·.kind = .leftParen) := by
  cases ts <;> rfl

namespace Cursor

/-- The calls of a checked caller are those of a caller. -/
def Caller.Simulates (call' : Caller) (call : Quartz.Caller) : Prop :=
  ∀ (f : FunctionId) (args : List Value) (built : List Instance) (st : State), st.Sound built →
    st.Tidy → st.Equipped → f < st.functions.size → (∀ v ∈ args, v.Within (st.world built)) →
    Quartz.Simulates Eq st (call' f args) (call f args)

section

variable {call : Quartz.Caller} {call' : Caller} {site : Site} {n : Nat}

/-! ### What the readers leave of the tokens from an index on -/

section

variable (call site) (ends : Int) (ts : List Token) (i : Nat) {w : World}

theorem stepwise_operandAt :
    Stepwise call false w site (Leaves (ts.length - i))
      (Quartz.operand call site ends (ts.drop i)).bare := by
  apply (stepwiseOperand call false site _ w ends (ts.drop i) (Nat.le_refl _) (w.reads _)
    (w.points ends)).mono
  intro w' p _ hp
  exact hp.mono (Nat.le_of_eq List.length_drop)

theorem stepwise_reduceAt (floor : Nat) {v : Value} (hv : v.Within w) :
    Stepwise call false w site (Leaves (ts.length - i + 1))
      (Quartz.reduce call site ends floor v (ts.drop i)).bare := by
  apply ((stepwiseOperand call false site _).reduce floor (w.points ends) hv (Nat.le_refl _)
    (w.reads (ts.drop i))).mono
  intro w' p _ hp
  exact hp.mono (Nat.le_of_eq (congrArg (· + 1) List.length_drop))

theorem stepwise_binaryAt (compared : Bool) {v : Value} (hv : v.Within w) :
    Stepwise call false w site (Leaves (ts.length - i + 1))
      (Quartz.binary call site ends compared v (ts.drop i)).bare := by
  apply ((stepwiseOperand call false site _).binary compared (w.points ends) hv (Nat.le_refl _)
    (w.reads (ts.drop i))).mono
  intro w' p _ hp
  exact hp.mono (Nat.le_of_eq (congrArg (· + 1) List.length_drop))

end

/-- A reading at a cursor, and what follows it. -/
theorem bindAt {γ δ : Type} {R : γ → δ → Prop} {built : List Instance} {st : State} {k : Nat}
    {ts : List Token} {x : Guarded (Value × Nat)} {y : Eval (Value × List Token)}
    {f : Value × Nat → Guarded γ} {g : Value × List Token → Eval δ}
    (hst : Standing built st site) (hcall : call.Keeping)
    (hy : Stepwise call false (st.world built) site (Leaves k) y) (hx : Simulates (At ts) st x y)
    (hf : ∀ v j built' st', Standing built' st' site → st.world built ≤ st'.world built' →
      v.Within (st'.world built') → j ≤ ts.length → ts.length - j < k →
      Simulates R st' (f (v, j)) (g (v, ts.drop j))) : Simulates R st (x >>= f) (y >>= g) := by
  apply hst.bind hcall hy hx
  rintro ⟨v, j⟩ ⟨_, _⟩ built' st' hst' hle ⟨hv, hshort, _⟩ ⟨rfl, hj, rfl⟩
  rw [List.length_drop] at hshort
  exact hf v j built' st' hst' hle hv hj hshort

/-! ### Operators -/

variable (call call' site) in
/-- With at most `n` tokens left, the operand at a cursor is the operand at their front. -/
def FollowsOperand (n : Nat) : Prop :=
  ∀ ⦃built : List Instance⦄ ⦃st : State⦄ (ts : List Token) (i : Nat), Standing built st site →
    i ≤ ts.length → ts.length - i ≤ n →
    Simulates (At ts) st (operand call' site ts i)
      (Quartz.operand call site (Token.endOffset ts) (ts.drop i)).bare

namespace FollowsOperand

variable {built : List Instance} {st : State} {γ δ : Type} {R : γ → δ → Prop}

variable (hn : FollowsOperand call call' site n) (hcall : call.Keeping)
include hn hcall

theorem reduce (ts : List Token) (floor : Nat) (v : Value) (i : Nat)
    (hst : Standing built st site) (hv : v.Within (st.world built)) (hi : i ≤ ts.length)
    (hlen : ts.length - i ≤ n) :
    Simulates (At ts) st (reduce call' site ts floor v i)
      (Quartz.reduce call site (Token.endOffset ts) floor v (ts.drop i)).bare := by
  -- The right side of an operator is read by the same loop, so the induction is on what is left.
  induction hk : ts.length - i using Nat.strongRecOn generalizing floor v i built st with
  | _ k ih =>
    rw [Cursor.reduce]
    cases hleft : ts.drop i with
    | nil =>
      rw [if_neg (not_lt_of_drop hleft), bare_reduce_nil]
      exact .pure ⟨rfl, hi, hleft⟩
    | cons op rest =>
      have hlt := lt_of_drop hleft
      rw [if_pos hlt, tokenAt_eq hleft, pure_bind, bare_reduce_cons]
      split
      · rw [← drop_succ hleft, bare_term, Cursor.term, bind_assoc, bind_assoc]
        apply bindAt hst hcall (stepwise_operandAt call site _ ts (i + 1))
          (hn ts (i + 1) hst hlt (by omega))
        intro u j built₁ st₁ hst₁ _ hu hj hshort
        dsimp only
        rw [ahead_eq hshort, pure_bind]
        apply bindAt hst₁ hcall (stepwise_reduceAt call site _ ts j _ hu)
          (ih _ (by omega) op.kind.priority u j hst₁ hu hj (by omega) rfl)
        intro u' j' built₂ st₂ hst₂ _ _ hj' hshort'
        apply hst₂.bindEval hcall (.combine (World.points _ op.offset) v u')
        intro w built₃ st₃ hst₃ _ hw
        apply Simulates.ofPure (ahead_eq (by omega))
        exact ih _ (by omega) floor w j' hst₃ hw hj' (by omega) rfl
      · exact .pure ⟨rfl, hi, hleft⟩

/-- A term is an operand and what is folded into it. -/
theorem term {f : Value × Nat → Guarded γ} {g : Value × List Token → Eval δ} (ts : List Token)
    (floor i : Nat) (hst : Standing built st site) (hi : i ≤ ts.length) (hlen : ts.length - i ≤ n)
    (hf : ∀ v j built' st', Standing built' st' site → v.Within (st'.world built') →
      j ≤ ts.length → ts.length - j < ts.length - i →
      Simulates R st' (f (v, j)) (g (v, ts.drop j))) :
    Simulates R st
      (Cursor.term call' site ts floor i >>= f)
      ((Quartz.term call site (Token.endOffset ts) floor (ts.drop i)).bare >>= g) := by
  rw [bare_term, Cursor.term, bind_assoc, bind_assoc]
  apply bindAt hst hcall (stepwise_operandAt call site _ ts i) (hn ts i hst hi hlen)
  intro u j built₁ st₁ hst₁ _ hu hj hshort
  dsimp only
  rw [ahead_eq hshort, pure_bind]
  apply bindAt hst₁ hcall (stepwise_reduceAt call site _ ts j floor hu)
    (hn.reduce hcall ts floor u j hst₁ hu hj (by omega))
  intro v j' built₂ st₂ hst₂ _ hv hj' hshort'
  exact hf v j' built₂ st₂ hst₂ hv hj' (by omega)

section

variable {f : Value × Nat → Guarded γ} {op : Token} {ts rest : List Token}
  {g : Value → List Token → Eval δ} {i : Nat} (hleft : ts.drop i = op :: rest) (v : Value)
  (hst : Standing built st site) (hlen : ts.length - i ≤ n)
  (hf : ∀ u j built' st', Standing built' st' site → u.Within (st'.world built') →
    j ≤ ts.length → ts.length - j < ts.length - i →
    Simulates R st' (f (u, j)) (g u (ts.drop j)))
include hleft hst hlen hf

/-- A comparison with the term behind the operator, and what follows it. -/
theorem relational :
    Simulates R st (Cursor.relational call' site ts v i >>= f) (do
      let p ← (Quartz.term call site (Token.endOffset ts) 0 rest).bare
      let u ← combine op v p.1
      g u p.2) := by
  have hlt := lt_of_drop hleft
  rw [Cursor.relational, tokenAt_eq hleft, pure_bind, ← drop_succ hleft]
  simp only [bind_assoc, pure_bind]
  apply hn.term hcall ts 0 (i + 1) hst hlt (by omega)
  intro u j built₁ st₁ hst₁ _ hj hshort
  apply hst₁.bindEval hcall (.combine (World.points _ op.offset) v u)
  intro w built₂ st₂ hst₂ _ hw
  exact hf w j built₂ st₂ hst₂ hw hj (by omega)

/-- A logical operator, the comparison behind it, and what follows them. -/
theorem logical :
    Simulates R st (Cursor.logical call' site ts v i >>= f) (do
      let p ← (Quartz.comparison call site (Token.endOffset ts) rest).bare
      let u ← combine op v p.1
      g u p.2) := by
  have hlt := lt_of_drop hleft
  -- Whatever the right side is, it is combined.
  have last : ∀ u j built' st', Standing built' st' site → j ≤ ts.length →
      ts.length - j < ts.length - i → Simulates R st'
        (Guarded.ofEval (combine op v u) >>= fun w => f (w, j))
        (combine op v u >>= fun w => g w (ts.drop j)) := by
    intro u j built' st' hst' hj hshort
    apply hst'.bindEval hcall (.combine (World.points _ op.offset) v u)
    intro w built₂ st₂ hst₂ _ hw
    exact hf w j built₂ st₂ hst₂ hw hj hshort
  rw [Cursor.logical, tokenAt_eq hleft, pure_bind, ← drop_succ hleft, bare_comparison]
  simp only [bind_assoc]
  apply hn.term hcall ts 0 (i + 1) hst hlt (by omega)
  intro u j built₁ st₁ hst₁ hu hj hshort
  dsimp only
  rw [holdsAt_eq, pure_bind]
  cases hnext : ts.drop j with
  | nil =>
    rw [compareOnce, pure_bind, List.head?_nil, Option.any_none, if_neg Bool.false_ne_true,
      bind_assoc, ← hnext]
    exact last u j built₁ st₁ hst₁ hj (by omega)
  | cons op' rest' =>
    rw [compareOnce, List.head?_cons, Option.any_some]
    split
    · rw [ahead_eq (by omega), pure_bind]
      simp only [bind_assoc, pure_bind]
      apply hn.relational (g := fun u ts' => combine op v u >>= fun w => g w ts') hcall hnext u
        hst₁ (by omega)
      intro u' j' built₂ st₂ hst₂ _ hj' hshort'
      exact last u' j' built₂ st₂ hst₂ hj' (by omega)
    · rw [pure_bind, bind_assoc, ← hnext]
      exact last u j built₁ st₁ hst₁ hj (by omega)

end

theorem binary (ts : List Token) (compared : Bool) (v : Value) (i : Nat)
    (hst : Standing built st site) (hv : v.Within (st.world built)) (hi : i ≤ ts.length)
    (hlen : ts.length - i ≤ n) :
    Simulates (At ts) st (Cursor.binary call' site ts compared v i)
      (Quartz.binary call site (Token.endOffset ts) compared v (ts.drop i)).bare := by
  induction hk : ts.length - i using Nat.strongRecOn generalizing compared v i built st with
  | _ k ih =>
    rw [Cursor.binary]
    cases hleft : ts.drop i with
    | nil =>
      rw [if_neg (not_lt_of_drop hleft), bare_binary_nil]
      exact .pure ⟨rfl, hi, hleft⟩
    | cons op rest =>
      have hlt := lt_of_drop hleft
      rw [if_pos hlt, tokenAt_eq hleft, pure_bind]
      by_cases hop : op.kind.isArithmetic = true
      · have hfold : (op.kind.isArithmetic && decide (0 < op.kind.priority)) = true := by
          simp [hop, Kind.priority_pos hop]
        -- The first operator is folded in before the loop goes on, so fewer tokens are left.
        rw [if_pos hop, ← bare_reduce_bind_binary, bare_reduce_cons, if_pos hfold,
          Cursor.reduce, if_pos hlt, tokenAt_eq hleft, pure_bind, if_pos hfold,
          ← drop_succ hleft]
        simp only [bind_assoc]
        apply hn.term hcall ts _ (i + 1) hst hlt (by omega)
        intro u j built₁ st₁ hst₁ _ hj hshort
        apply hst₁.bindEval hcall (.combine (World.points _ op.offset) v u)
        intro w built₂ st₂ hst₂ _ hw
        apply Simulates.ofPure (ahead_eq (by omega))
        apply bindAt hst₂ hcall (stepwise_reduceAt call site _ ts j 0 hw)
          (hn.reduce hcall ts 0 w j hst₂ hw hj (by omega))
        intro w' j' built₃ st₃ hst₃ _ hw' hj' hshort'
        apply Simulates.ofPure (ahead_eq (by omega))
        exact ih _ (by omega) compared w' j' hst₃ hw' hj' (by omega) rfl
      · have goOn : ∀ u j built' st', Standing built' st' site → u.Within (st'.world built') →
            j ≤ ts.length → ts.length - j < ts.length - i →
            Simulates (At ts) st'
              (Cursor.ahead ts i j >>= fun _ => Cursor.binary call' site ts true u j)
              (Quartz.binary call site (Token.endOffset ts) true u (ts.drop j)).bare := by
          intro u j built' st' hst' hu hj hshort
          apply Simulates.ofPure (ahead_eq hshort)
          exact ih _ (by omega) true u j hst' hu hj (by omega) rfl
        rw [if_neg hop, bare_binary_cons, if_neg hop]
        split
        · split
          · exact .malformed _ _
          · exact hn.relational
              (g := fun u ts' => (Quartz.binary call site (Token.endOffset ts) true u ts').bare)
              hcall hleft v hst (by omega) goOn
        · split
          · exact hn.logical
              (g := fun u ts' => (Quartz.binary call site (Token.endOffset ts) true u ts').bare)
              hcall hleft v hst (by omega) goOn
          · exact .pure ⟨rfl, hi, hleft⟩

/-! ### Operands -/

theorem evaluate (ts : List Token) (hst : Standing built st site) (hlen : ts.length ≤ n) :
    Simulates Eq st (Cursor.evaluate call' site ts) (Quartz.evaluate call site ts) := by
  rw [Cursor.evaluate, evaluate_eq]
  apply bindAt hst hcall (stepwise_operandAt call site _ ts 0) (hn ts 0 hst (Nat.zero_le _) hlen)
  intro v j built₁ st₁ hst₁ _ hv hj hshort
  apply bindAt hst₁ hcall (stepwise_binaryAt call site _ ts j false hv)
    (hn.binary hcall ts false v j hst₁ hv hj (by omega))
  intro u j' built₂ st₂ hst₂ _ _ _ _
  dsimp only
  cases hleft : ts.drop j' with
  | nil =>
    rw [if_neg (not_lt_of_drop hleft)]
    exact .pure rfl
  | cons t rest =>
    rw [if_pos (lt_of_drop hleft), tokenAt_eq hleft, pure_bind]
    exact .malformed _ _

section

variable {most : Nat} (name : Token) (ts : List Token) (hst : Standing built st site)
  (hlen : ts.length ≤ n) (hmost : ts.length < most)
include hst hlen hmost

theorem arguments :
    Simulates Eq st (Cursor.arguments call' site name most (Bracket.spans ts))
      (Quartz.arguments call site name ts) := by
  induction ts using Bracket.cut_induction generalizing built st with
  | last ts hcut _ =>
    rw [arguments_eq, hcut, Bracket.spans_of_last hcut, Cursor.arguments]
    cases ts with
    | nil => exact .fail _ _
    | cons t ts =>
      rw [if_neg (by simp : ¬ (t :: ts).length = 0), Guarded.ensure_eq hmost, pure_bind]
      apply hst.bind hcall (stepwise_evaluate call false site (World.reads _ (t :: ts)))
        (hn.evaluate hcall _ hst hlen)
      rintro v _ built₁ st₁ _ _ _ rfl
      rw [Cursor.arguments, pure_bind]
      exact .pure rfl
  | more span comma rest _ hcut _ ih =>
    rw [arguments_eq, hcut, Bracket.spans_of_more hcut, Cursor.arguments]
    simp only [List.length_append, List.length_cons] at hlen hmost
    cases span with
    | nil => exact .fail _ _
    | cons t span =>
      rw [if_neg (by simp : ¬ (t :: span).length = 0), Guarded.ensure_eq (by omega), pure_bind]
      apply hst.bind hcall (stepwise_evaluate call false site (World.reads _ (t :: span)))
        (hn.evaluate hcall _ hst (by omega))
      rintro v _ built₁ st₁ hst₁ _ _ rfl
      apply hst₁.bind hcall
        ((stepwiseOperand call false site _).arguments (World.points _ name.offset)
          (Nat.le_refl _) (World.reads _ rest))
        (ih hst₁ (by omega) (by omega))
      rintro vs _ built₂ st₂ _ _ _ rfl
      exact .pure rfl

/-- The arguments in parentheses, and what follows them. -/
theorem argumentList {f : List Value → Guarded γ} {g : List Value → Eval δ}
    (hf : ∀ vs built' st', Standing built' st' site → st.world built ≤ st'.world built' →
      (∀ v ∈ vs, v.Within (st'.world built')) → Simulates R st' (f vs) (g vs)) :
    Simulates R st
      (Cursor.arguments call' site name most (Bracket.splitArguments ts) >>= f)
      ((if ts = [] then pure [] else Quartz.arguments call site name ts) >>= g) := by
  unfold Bracket.splitArguments
  split
  · rw [Cursor.arguments, pure_bind, pure_bind]
    exact hf [] built st hst (World.le_refl _) (by simp)
  · apply hst.bind hcall
      ((stepwiseOperand call false site _).arguments (World.points _ name.offset)
        (Nat.le_refl _) (World.reads _ ts))
      (hn.arguments hcall name ts hst hlen hmost)
    rintro vs _ built₁ st₁ hst₁ hle hvs rfl
    exact hf vs built₁ st₁ hst₁ hle hvs

end

theorem application (hsim : call'.Simulates call) {ts rest : List Token} {t : Token} {i : Nat}
    (hleft : ts.drop i = t :: rest) {f : FunctionId} (name : Token) (hst : Standing built st site)
    (hf : (st.world built).realm.function f) (hlen : ts.length - i ≤ n) :
    Simulates (At ts) st (Cursor.application call' site ts i f name)
      (Quartz.application call site f name (ts.drop i)).bare := by
  rw [Cursor.application, bare_application]
  cases henc : Bracket.enclosed? (ts.drop i) with
  | none =>
    rw [matchingClose_none henc, pure_bind, hleft]
    dsimp only
    rw [tokenAt_eq hleft, pure_bind]
    exact .malformed _ _
  | some cut =>
    obtain ⟨inner, after⟩ := cut
    obtain ⟨hclose, hcut⟩ := encloses_of_enclosed? henc
    have hshort := hcut.close_lt
    have hclose_eq := hcut.length_eq
    dsimp only at hclose hcut hshort hclose_eq ⊢
    rw [hclose, pure_bind]
    dsimp only
    rw [hcut.slice_eq, pure_bind, splitArguments_eq, pure_bind]
    apply hn.argumentList hcall name inner hst (by omega) (by omega)
    intro vs built₁ st₁ hst₁ hle hvs
    have hf₁ : f < st₁.functions.size := (World.realm_mono hle).function f hf
    have hcallee := hsim f vs built₁ st₁ hst₁.sound hst₁.tidy hst₁.equipped hf₁ hvs
    have hstep : Stepwise call false (st₁.world built₁) site _ _ :=
      .mapFault (fun _ _ hle hf => hf.placedAt ((World.points _ name.offset).mono hle))
        (.call hf₁ hvs)
    apply hst₁.bind hcall hstep (hcallee.mapFault _)
    rintro v _ built₂ st₂ _ _ _ rfl
    exact .pure ⟨rfl, hshort, hcut.drop_eq⟩

/-- A sign in front of an operand. -/
theorem signed (ts : List Token) (i : Nat) (hst : Standing built st site) (hi : i ≤ ts.length)
    (hlen : ts.length - i ≤ n) {g : Value → Eval Value}
    (hg : ∀ (w : World) v, Stepwise call false w site (fun w v => v.Within w) (g v)) :
    Simulates (At ts) st
      (Cursor.operand call' site ts i >>= fun r =>
        Guarded.ofEval (g r.1) >>= fun v => pure (v, r.2))
      ((Quartz.operand call site (Token.endOffset ts) (ts.drop i)).bare >>= fun p =>
        g p.1 >>= fun v => pure (v, p.2)) := by
  apply bindAt hst hcall (stepwise_operandAt call site _ ts i) (hn ts i hst hi hlen)
  intro v j built₁ st₁ hst₁ _ _ hj _
  apply hst₁.bindEval hcall (hg _ v)
  intro u built₂ st₂ _ _ _
  exact .pure ⟨rfl, hj, rfl⟩

/-- With at most one token more, the operand at a cursor is still the one at their front. -/
theorem succ (hsim : call'.Simulates call) : FollowsOperand call call' site (n + 1) := by
  intro built st ts i hst hi hlen
  rw [Cursor.operand]
  cases hleft : ts.drop i with
  | nil =>
    rw [if_neg (not_lt_of_drop hleft), placeAt_eq, pure_bind, hleft, bare_operand_nil]
    exact .fail _ _
  | cons t rest =>
    have hlt := lt_of_drop hleft
    have hrest := drop_succ hleft
    have hlit : ∀ v : Value, Simulates (At ts) st (pure (v, i + 1)) (pure (v, rest)) :=
      fun v => .pure ⟨rfl, hlt, hrest⟩
    rw [if_pos hlt, tokenAt_eq hleft, pure_bind, bare_operand_cons]
    cases t.kind with
    | number => exact hlit _
    | string => exact hlit _
    | keyword =>
      dsimp only
      cases constant? t with
      | some v => exact hlit v
      | none => exact .malformed _ _
    | ident =>
      have hmeaning := meaning_eq hst.sound.grounded hst.tidy hst.shallow t.literal
      have hwithin := hst.sound.grounded.meaning site t.literal
      dsimp only
      rw [holdsAt_eq, pure_bind, hrest, ← opensParen_eq_any]
      apply Simulates.ofOk hmeaning
      apply Simulates.get
      unfold readName
      -- A parenthesis behind a name that means no function is left where it is.
      cases hopens : opensParen rest with
      | false => cases (st.meaning site t.literal).value? with
        | some v => exact hlit v
        | none => exact .fail _ _
      | true => cases hcallee : (st.meaning site t.literal).callee? with
        | none => cases (st.meaning site t.literal).value? with
          | some v => exact hlit v
          | none => exact .fail _ _
        | some f =>
          obtain ⟨u, us, rfl⟩ : ∃ u us, rest = u :: us := by
            cases rest with
            | nil => cases hopens
            | cons u us => exact ⟨u, us, rfl⟩
          dsimp only
          rw [← hrest]
          exact hn.application hcall hsim hrest t hst (hwithin.callee hcallee) (by omega)
    | leftParen =>
      dsimp only
      cases henc : Bracket.enclosed? (ts.drop i) with
      | none =>
        rw [matchingClose_none henc, pure_bind, ← hleft, henc]
        exact .malformed _ _
      | some cut =>
        obtain ⟨inner, after⟩ := cut
        obtain ⟨hclose, hcut⟩ := encloses_of_enclosed? henc
        have hshort := hcut.close_lt
        rw [hclose, pure_bind, ← hleft, henc]
        cases inner with
        | nil =>
          have hend : i + 1 + ([] : List Token).length = i + 1 := rfl
          dsimp only
          rw [if_pos hend]
          exact .fail _ _
        | cons u us =>
          have hne : i + 1 + (u :: us).length ≠ i + 1 := by
            simp only [List.length_cons]
            omega
          dsimp only at hcut hshort ⊢
          have hinner : (u :: us).length < ts.length - i := by omega
          rw [if_neg hne, hcut.slice_eq, pure_bind, Guarded.ensure_eq hinner, pure_bind]
          apply hst.bind hcall (stepwise_evaluate call false site (World.reads _ (u :: us)))
            (hn.evaluate hcall (u :: us) hst (by omega))
          rintro v _ built₁ st₁ _ _ _ rfl
          exact .pure ⟨rfl, hshort, hcut.drop_eq⟩
    | minus =>
      dsimp only
      rw [← hrest]
      exact hn.signed hcall ts (i + 1) hst hlt (by omega) fun w v =>
        .negate (w.points t.offset) v
    | not =>
      dsimp only
      rw [← hrest]
      exact hn.signed (g := fun v => Eval.ofOperator t.offset (v.applyUnary .not)) hcall ts
        (i + 1) hst hlt (by omega) fun w v =>
          .ofOperator (w.points t.offset) fun u hu => Value.within_of_applyUnary hu w.realm
    | error => exact .malformed _ _
    | _ => exact .fail _ _

end FollowsOperand

theorem followsOperand (hcall : call.Keeping) (hsim : call'.Simulates call) (site : Site)
    (n : Nat) : FollowsOperand call call' site n := by
  induction n with
  | zero =>
    intro built st ts i hst hi hlen
    have hleft : ts.drop i = [] := List.drop_of_length_le (by omega)
    rw [Cursor.operand, if_neg (not_lt_of_drop hleft), placeAt_eq, pure_bind, hleft,
      bare_operand_nil]
    exact .fail _ _
  | succ n ih => exact ih.succ hcall hsim

/-- Evaluating tokens by index is evaluating them. -/
theorem simulates_evaluate (hcall : call.Keeping) (hsim : call'.Simulates call)
    {built : List Instance} {st : State} (hst : Standing built st site) (ts : List Token) :
    Simulates Eq st (evaluate call' site ts) (Quartz.evaluate call site ts) :=
  (followsOperand hcall hsim site ts.length).evaluate hcall ts hst (Nat.le_refl _)

end

end Cursor

end Quartz
