import Quartz.Proofs.Expression.Complete

/-!
# `Quartz.Proofs.Expression.Sound`: a value comes from a tree

Where the evaluator gives a value, the tokens are those of an expression, and the tree
gives the same value in the same state (`exists_of_evaluate`).

A loop is followed from its left side on: `Spells x ts st v rest mid` says what has been
read so far, and a turn of the loop adds a link to `x`. A loop over arithmetic has two
phases. In the first one it folds products into a product. From the first sum on, the
right sides take all products with them, so no operator of a product stands in front any
more, and `Free` carries that fact from one turn to the next. `binary` then has a third
phase for logic, in which nothing can be compared.

The readers call each other on fewer tokens. `SoundOperand n` is soundness of operands
for up to `n` tokens; the loops are sound on that ground, and with them the operands of
`n + 1` tokens.
-/

set_option autoImplicit false

namespace Quartz

variable {t op : Token} {p : Value × List Token} {mid' : State}

/-- No token of such a kind stands in front. -/
def Free (p : Kind → Bool) (ts : List Token) : Prop :=
  ∀ t ∈ ts.head?, p t.kind = false

theorem free_cons {p : Kind → Bool} {ts : List Token} : Free p (t :: ts) ↔ p t.kind = false := by
  simp [Free]

section

variable (call : Caller) (site : Site)

/-- The tokens start with a phrase, which has a value from the given state on, and
further tokens stand behind it. -/
structure Spells {tier : Tier} (x : Phrase tier) (ts : List Token) (st : State) (v : Value)
    (rest : List Token) (mid : State) : Prop where
  tokens : ts = x.render ++ rest
  value : (x.value call site).run st = .ok (.ok v) mid

/-- Every operand of at most `n` tokens that has a value comes from a tree. -/
def SoundOperand (n : Nat) : Prop :=
  ∀ ⦃ends : Int⦄ ⦃ts rest : List Token⦄ ⦃st mid : State⦄ ⦃v : Value⦄, ts.length ≤ n →
    (operand call site ends ts).bare st = .ok (v, rest) mid →
    ∃ x : Phrase .operand, Spells call site x ts st v rest mid

end

namespace Spells

variable {call : Caller} {site : Site} {tier : Tier} {ts us rest : List Token}
  {st mid last : State} {v w u : Value}

theorem length_lt {x : Phrase tier} (h : Spells call site x ts st v rest mid) :
    rest.length < ts.length := by
  obtain ⟨t, tail, hcons, -⟩ := x.render_eq_cons
  rw [h.tokens, hcons]
  simp only [List.cons_append, List.length_cons, List.length_append]
  omega

theorem lift {x : Phrase tier.below} (h : Spells call site x ts st v rest mid)
    (hn : tier ≠ .operand) : Spells call site (Phrase.lift x hn) ts st v rest mid :=
  ⟨h.tokens, h.value⟩

/-- The value of a left side, a right side and the operator between them. -/
theorem run_combine {l r : Reckoning Value} (hl : l.run st = .ok (.ok v) mid)
    (hr : r.run mid = .ok (.ok w) mid') (hu : combine op v w mid' = .ok u last) :
    (do let v ← l; let w ← r; ExceptT.lift (combine op v w) : Reckoning Value).run st
      = .ok (.ok u) last := by
  rw [Reckoning.run_bind_of_value hl, Reckoning.run_bind_of_value hr]
  exact Reckoning.run_lift_of_ok hu

theorem join {l : Phrase tier} {r : Phrase tier.below}
    (hl : Spells call site l ts st v (op :: us) mid) (hr : Spells call site r us mid w rest mid')
    (hu : combine op v w mid' = .ok u last) (hop : tier.joins op.kind) :
    Spells call site (Phrase.join l op r hop) ts st u rest last where
  tokens := by
    rw [hl.tokens, hr.tokens, Phrase.render, List.append_assoc]
    rfl
  value := run_combine hl.value hr.value hu

theorem compare {l r : Phrase .sum} (hl : Spells call site l ts st v (op :: us) mid)
    (hr : Spells call site r us mid w rest mid') (hu : combine op v w mid' = .ok u last)
    (hop : op.kind.isRelational) :
    Spells call site (Phrase.compare l op r hop) ts st u rest last where
  tokens := by
    rw [hl.tokens, hr.tokens, Phrase.render, List.append_assoc]
    rfl
  value := run_combine hl.value hr.value hu

end Spells

/-! ### Loops over arithmetic -/

section

variable {call : Caller} {site : Site} {ends : Int} {n : Nat} {ts us rest : List Token}
  {st mid last : State} {v u : Value}

/-- A turn of a loop that gave a result: the right side, the operator, and the loop
again. -/
theorem exists_of_turn {K : Value → List Token → Eval (Value × List Token)}
    {side : Eval (Value × List Token)}
    (h : (do
      let q ← side
      let u ← combine op v q.1
      K u q.2 : Eval (Value × List Token)) mid = .ok p last) :
    ∃ w rest mid' u mid'', side mid = .ok (w, rest) mid' ∧ combine op v w mid' = .ok u mid'' ∧
      K u rest mid'' = .ok p last := by
  obtain ⟨⟨w, rest⟩, mid', hside, h⟩ := Eval.bind_eq_ok.1 h
  obtain ⟨u, mid'', hu, h⟩ := Eval.bind_eq_ok.1 h
  exact ⟨w, rest, mid', u, mid'', hside, hu, h⟩

section

variable (hn : SoundOperand call site n)
include hn

theorem SoundOperand.term_two (hts : ts.length ≤ n)
    (h : (term call site ends 2 ts).bare st = .ok (v, rest) mid) :
    ∃ x : Phrase .operand, Spells call site x ts st v rest mid := by
  rw [bare_term] at h
  obtain ⟨⟨w, us⟩, mid', hx, h⟩ := Eval.bind_eq_ok.1 h
  -- Above the priority of products nothing is folded in.
  rw [reduce_two] at h
  cases h
  exact hn hts hx

/-- The first phase of a loop over arithmetic: products. -/
theorem SoundOperand.productPhase {K : Value → List Token → Eval (Value × List Token)}
    (hK : Loop call site ends 1 K) {x : Phrase .product} (hx : Spells call site x ts st v us mid)
    (hus : us.length ≤ n) (h : K v us mid = .ok p last) :
    ∃ (y : Phrase .product) (w : Value) (vs : List Token) (mid' : State),
      Spells call site y ts st w vs mid' ∧ vs.length ≤ us.length ∧
      Free (Tier.joins .product) vs ∧ K w vs mid' = .ok p last := by
  -- On the number of tokens left: every turn reads an operand, so it uses some up.
  induction hlen : us.length using Nat.strongRecOn generalizing us v x mid with
  | _ len ih =>
    cases us with
    | nil => exact ⟨x, v, [], mid, hx, by simp, by simp [Free], h⟩
    | cons op us =>
      cases hop : Tier.joins .product op.kind with
      -- The phase is over, and the operator in front is none of a product.
      | false => exact ⟨x, v, op :: us, mid, hx, by omega, free_cons.2 hop, h⟩
      | true =>
        have hpr : op.kind.isArithmetic ∧ op.kind.priority = 2 := by
          simpa [Tier.joins] using hop
        rw [hK.fold v op us hpr.1 (by omega), hpr.2] at h
        obtain ⟨w, vs, mid₁, u, mid₂, hside, hu, h⟩ := exists_of_turn h
        simp only [List.length_cons] at hus hlen
        obtain ⟨r, hr⟩ := hn.term_two (by omega) hside
        have hshort := hr.length_lt
        obtain ⟨y, w', vs', mid', hy, hle, hfree, hend⟩ :=
          ih vs.length (by omega) (hx.join hr hu hop) (by omega) h rfl
        exact ⟨y, w', vs', mid', hy, by omega, hfree, hend⟩

theorem SoundOperand.term_one (hts : ts.length ≤ n)
    (h : (term call site ends 1 ts).bare st = .ok (v, rest) mid) :
    ∃ x : Phrase .product, Spells call site x ts st v rest mid ∧
      Free (Tier.joins .product) rest := by
  rw [bare_term] at h
  obtain ⟨⟨w, us⟩, mid', hx, h⟩ := Eval.bind_eq_ok.1 h
  dsimp only at h
  obtain ⟨x, hx⟩ := hn hts hx
  have hshort := hx.length_lt
  obtain ⟨y, w, vs, mid', hy, -, hfree, h⟩ :=
    hn.productPhase (loop_reduce 1) (hx.lift (by decide)) (by omega) h
  -- Where no product goes on, the loop above the priority of sums ends.
  have hstop : ∀ t ∈ vs.head?, (t.kind.isArithmetic && 1 < t.kind.priority) = false := by
    intro t ht
    have hjoins := hfree t ht
    revert hjoins
    cases t.kind <;> simp [Tier.joins, Kind.isArithmetic, Kind.priority]
  rw [reduce_of_stops hstop] at h
  cases h
  exact ⟨y, hy, hfree⟩

section

variable {K : Value → List Token → Eval (Value × List Token)} (hK : Loop call site ends 0 K)
include hK

/-- The second phase: sums. The right sides take the products with them. -/
theorem SoundOperand.sumPhase {x : Phrase .sum} (hx : Spells call site x ts st v us mid)
    (hus : us.length ≤ n) (hfree : Free (Tier.joins .product) us) (h : K v us mid = .ok p last) :
    ∃ (y : Phrase .sum) (w : Value) (vs : List Token) (mid' : State),
      Spells call site y ts st w vs mid' ∧ vs.length ≤ us.length ∧
      Free Kind.isArithmetic vs ∧ K w vs mid' = .ok p last := by
  -- As before, with the invariant that no operator of a product stands in front.
  induction hlen : us.length using Nat.strongRecOn generalizing us v x mid with
  | _ len ih =>
    cases us with
    | nil => exact ⟨x, v, [], mid, hx, by simp, by simp [Free], h⟩
    | cons op us =>
      cases ha : op.kind.isArithmetic with
      | false => exact ⟨x, v, op :: us, mid, hx, by omega, free_cons.2 ha, h⟩
      | true =>
        -- Arithmetic that is no product is a sum.
        have hpr : op.kind.priority = 1 := by
          have hprod := free_cons.1 hfree
          revert ha hprod
          cases op.kind <;> simp [Tier.joins, Kind.isArithmetic, Kind.priority]
        rw [hK.fold v op us ha (by omega), hpr] at h
        obtain ⟨w, vs, mid₁, u, mid₂, hside, hu, h⟩ := exists_of_turn h
        simp only [List.length_cons] at hus hlen
        obtain ⟨r, hr, hvs⟩ := hn.term_one (by omega) hside
        have hshort := hr.length_lt
        have hop : Tier.joins .sum op.kind := by simp [Tier.joins, ha, hpr]
        obtain ⟨y, w', vs', mid', hy, hle, hend⟩ :=
          ih vs.length (by omega) (hx.join hr hu hop) (by omega) hvs h rfl
        exact ⟨y, w', vs', mid', hy, by omega, hend⟩

/-- A loop over all arithmetic, from its first operand on. -/
theorem SoundOperand.arithmetic (hts : ts.length ≤ n)
    (h : start call site ends K ts st = .ok p last) :
    ∃ (y : Phrase .sum) (w : Value) (vs : List Token) (mid : State),
      Spells call site y ts st w vs mid ∧ Free Kind.isArithmetic vs ∧
      K w vs mid = .ok p last := by
  obtain ⟨⟨v, us⟩, mid, hx, h⟩ := Eval.bind_eq_ok.1 h
  dsimp only at h
  obtain ⟨x, hx⟩ := hn hts hx
  have hshort := hx.length_lt
  -- First the products behind the first operand, then the sums.
  obtain ⟨y, w, vs, mid', hy, hle, hfree, h⟩ :=
    hn.productPhase (hK.mono (Nat.zero_le 1)) (hx.lift (by decide)) (by omega) h
  obtain ⟨z, w', vs', mid'', hz, -, hend⟩ :=
    hn.sumPhase hK (hy.lift (by decide)) (by omega) hfree h
  exact ⟨z, w', vs', mid'', hz, hend⟩

end

theorem SoundOperand.term_zero (hts : ts.length ≤ n)
    (h : (term call site ends 0 ts).bare st = .ok (v, rest) mid) :
    ∃ x : Phrase .sum, Spells call site x ts st v rest mid ∧ Free Kind.isArithmetic rest := by
  rw [bare_term] at h
  obtain ⟨y, w, vs, mid', hy, hfree, h⟩ := hn.arithmetic (loop_reduce 0) hts h
  have hstop : ∀ t ∈ vs.head?, (t.kind.isArithmetic && 0 < t.kind.priority) = false := by
    intro t ht
    rw [hfree t ht]
    rfl
  rw [reduce_of_stops hstop] at h
  cases h
  exact ⟨y, hy, hfree⟩

/-! ### Comparisons and logic -/

theorem SoundOperand.comparison (hts : ts.length ≤ n)
    (h : (comparison call site ends ts).bare st = .ok (v, rest) mid) :
    ∃ x : Phrase .comparison, Spells call site x ts st v rest mid ∧
      Free Kind.isArithmetic rest := by
  rw [bare_comparison] at h
  obtain ⟨⟨w, us⟩, mid', hl, h⟩ := Eval.bind_eq_ok.1 h
  obtain ⟨l, hl, hfree⟩ := hn.term_zero hts hl
  cases us with
  | nil =>
    cases h
    exact ⟨_, hl.lift (by decide), hfree⟩
  | cons op us =>
    have hshort := hl.length_lt
    simp only [List.length_cons] at hshort
    rw [compareOnce] at h
    split at h
    · next hop =>
        obtain ⟨w', vs, mid₁, u, mid₂, hside, hu, h⟩ :=
          exists_of_turn (K := fun u ts => pure (u, ts)) h
        obtain ⟨r, hr, hfree⟩ := hn.term_zero (by omega) hside
        cases h
        exact ⟨_, hl.compare hr hu hop, hfree⟩
    · cases h
      exact ⟨_, hl.lift (by decide), hfree⟩

/-- The last phase of `binary`: nothing is compared any more. -/
theorem SoundOperand.logicPhase {compared : Bool} {x : Expression}
    (hx : Spells call site x ts st v us mid) (hus : us.length ≤ n)
    (hfree : Free Kind.isArithmetic us) (hrel : compared = true ∨ Free Kind.isRelational us)
    (h : (binary call site ends compared v us).bare mid = .ok (u, rest) last) :
    ∃ y : Expression, Spells call site y ts st u rest last := by
  -- From the second turn on the flag is set, which refuses every comparison.
  induction hlen : us.length using Nat.strongRecOn generalizing us v x mid compared with
  | _ len ih =>
    cases us with
    | nil =>
      rw [bare_binary_nil] at h
      cases h
      exact ⟨x, hx⟩
    | cons op us =>
      rw [bare_binary_cons, free_cons.1 hfree, if_neg Bool.false_ne_true] at h
      split at h
      · next hop =>
          -- A comparison in front would be the second one.
          have hc : compared = true := by
            rcases hrel with hc | hrel
            · exact hc
            · exact nomatch hop.symm.trans (free_cons.1 hrel)
          rw [if_pos hc] at h
          exact nomatch h
      · split at h
        · next hop =>
            obtain ⟨w, vs, mid₁, u', mid₂, hside, hu, h⟩ := exists_of_turn
              (K := fun v ts => (binary call site ends true v ts).bare) h
            simp only [List.length_cons] at hus hlen
            obtain ⟨r, hr, hvs⟩ := hn.comparison (by omega) hside
            have hshort := hr.length_lt
            exact ih vs.length (by omega) (Spells.join hx hr hu hop) (by omega) hvs
              (.inl rfl) h rfl
        · cases h
          exact ⟨x, hx⟩

/-- All operators behind an operand. -/
theorem SoundOperand.operators (hts : ts.length ≤ n)
    (h : start call site ends (fun v ts => (binary call site ends false v ts).bare) ts st
      = .ok (u, rest) last) : ∃ x : Expression, Spells call site x ts st u rest last := by
  obtain ⟨l, v, us, mid, hl, hfree, h⟩ := hn.arithmetic (loop_binary false) hts h
  have hshort := hl.length_lt
  -- Behind the first sum: logic at once, or one comparison and then logic.
  by_cases hrel : Free Kind.isRelational us
  · have hlift : Spells call site (Phrase.lift l (by decide) : Phrase .comparison) ts st v us mid :=
      hl.lift (by decide)
    exact hn.logicPhase (hlift.lift (by decide)) (by omega) hfree (.inr hrel) h
  · cases us with
    | nil => exact absurd (by simp [Free]) hrel
    | cons op us =>
      have hop : op.kind.isRelational := by
        rw [free_cons] at hrel
        exact eq_true_of_ne_false hrel
      rw [bare_binary_cons, free_cons.1 hfree, hop, if_neg Bool.false_ne_true, if_pos rfl,
        if_neg Bool.false_ne_true] at h
      obtain ⟨w, vs, mid₁, u', mid₂, hside, hu, h⟩ := exists_of_turn
        (K := fun v ts => (binary call site ends true v ts).bare) h
      simp only [List.length_cons] at hshort
      obtain ⟨r, hr, hvs⟩ := hn.term_zero (by omega) hside
      have hshort' := hr.length_lt
      exact hn.logicPhase (Spells.lift (hl.compare hr hu hop) (by decide)) (by omega) hvs
        (.inl rfl) h

/-! ### Whole expressions and arguments -/

theorem SoundOperand.evaluate (hts : ts.length ≤ n) (h : evaluate call site ts st = .ok v last) :
    ∃ x : Expression, x.render = ts ∧ (x.value call site).run st = .ok (.ok v) last := by
  rw [evaluate_eq, ← bind_assoc] at h
  obtain ⟨⟨u, rest⟩, mid, hx, h⟩ := Eval.bind_eq_ok.1 h
  obtain ⟨x, hx⟩ := hn.operators hts hx
  cases rest with
  | nil =>
    cases h
    exact ⟨x, by rw [hx.tokens, List.append_nil], hx.value⟩
  | cons t rest => exact nomatch h

theorem SoundOperand.arguments {name : Token} {vs : List Value} (hts : ts.length ≤ n)
    (h : arguments call site name ts st = .ok vs last) :
    ∃ args : Arguments, args.render = ts ∧ (args.values call site).run st = .ok (.ok vs) last := by
  induction ts using Bracket.cut_induction generalizing st vs with
  | last ts hcut _ =>
    rw [arguments_eq, hcut] at h
    cases ts with
    | nil => cases h
    | cons t ts =>
      obtain ⟨v, mid, hv, h⟩ := Eval.bind_eq_ok.1 h
      obtain ⟨x, hx, hv⟩ := hn.evaluate hts hv
      cases h
      exact ⟨.last x, hx, by rw [Arguments.values, Reckoning.run_bind_of_value hv]; rfl⟩
  | more span comma rest hcomma hcut _ ih =>
    rw [arguments_eq, hcut] at h
    simp only [List.length_append, List.length_cons] at hts
    cases span with
    | nil => cases h
    | cons t span =>
      obtain ⟨v, mid, hv, h⟩ := Eval.bind_eq_ok.1 h
      obtain ⟨vs', mid', hvs, h⟩ := Eval.bind_eq_ok.1 h
      cases h
      obtain ⟨x, hx, hv⟩ := hn.evaluate (by omega) hv
      obtain ⟨args, hargs, hvs⟩ := ih (by omega) hvs
      refine ⟨.more x comma args hcomma, ?_, ?_⟩
      · rw [Arguments.render, hx, hargs]
      · rw [Arguments.values, Reckoning.run_bind_of_value hv, Reckoning.run_bind_of_value hvs]
        rfl

end

/-! ### Operands -/

/-- What a pair of parentheses encloses is shorter than the tokens with them. -/
theorem exists_of_enclosed {opener : Token} {inner after : List Token}
    (ho : opener.kind = .leftParen)
    (h : Bracket.enclosed? (opener :: us) = some (inner, after)) :
    ∃ closer : Token, closer.kind = .rightParen ∧ us = inner ++ closer :: after := by
  obtain ⟨o, c, hts, hclose, -⟩ := Bracket.enclosed?_eq_some_iff.1 h
  rw [List.cons.injEq] at hts
  obtain ⟨rfl, hus⟩ := hts
  rw [ho] at hclose
  exact ⟨c, (Option.some.inj hclose).symm, hus⟩

section

variable (hn : SoundOperand call site n) (hus : us.length ≤ n)
include hn hus

/-- A call that gave a value comes from a call in a tree. -/
theorem SoundOperand.application {f : FunctionId} (ht : t.kind = .ident) (ho : opensParen us)
    (hf : (st.meaning site t.literal).callee? = some f)
    (h : (application call site f t us).bare st = .ok (v, rest) mid) :
    ∃ x : Phrase .operand, Spells call site x (t :: us) st v rest mid := by
  rw [bare_application] at h
  cases us with
  | nil => cases ho
  | cons opener us =>
    have hparen : opener.kind = .leftParen := by simpa [opensParen] using ho
    have hcallee : (calleeOf site t opener).run st = .ok (.ok f) st :=
      Reckoning.run_calleeOf_of_callee hf
    split at h
    · next inner after henc =>
        obtain ⟨closer, hc, rfl⟩ := exists_of_enclosed hparen henc
        obtain ⟨args, mid', hargs, h⟩ := Eval.bind_eq_ok.1 h
        obtain ⟨w, mid'', hw, h⟩ := Eval.bind_eq_ok.1 h
        cases h
        -- Without arguments the call is a bare one.
        split at hargs
        · next hnil =>
            cases hargs
            subst hnil
            refine ⟨.bareCall t opener closer ht hparen hc, rfl, ?_⟩
            rw [Phrase.value, Reckoning.run_bind_of_value hcallee]
            exact Reckoning.run_lift_of_ok hw
        · have hshort : inner.length ≤ n := by
            simp only [List.length_cons, List.length_append] at hus
            omega
          obtain ⟨xs, hxs, hvs⟩ := hn.arguments hshort hargs
          refine ⟨.call t opener xs closer ht hparen hc, ?_, ?_⟩
          · rw [Phrase.render, hxs]
            simp
          · rw [Phrase.value, Reckoning.run_bind_of_value hcallee,
              Reckoning.run_bind_of_value hvs]
            exact Reckoning.run_lift_of_ok hw
    · cases h

/-- A name that is not called is read as a value. -/
theorem SoundOperand.ident (ht : t.kind = .ident)
    (h : (operand call site ends (t :: us)).bare st = .ok (v, rest) mid) :
    ∃ x : Phrase .operand, Spells call site x (t :: us) st v rest mid := by
  -- The parenthesis counts only behind a name that can be called.
  by_cases hcall : opensParen us = false ∨ (st.meaning site t.literal).callee? = none
  · cases hv : (st.meaning site t.literal).value? with
    | some w =>
      rw [bare_operand_value call site ends us ht hcall hv] at h
      cases h
      exact ⟨.name t ht, rfl, Reckoning.run_name_of_value ht hv⟩
    | none =>
      rw [bare_operand_unknown call site ends us ht (State.Meaning.value?_eq_none.1 hv)] at h
      exact nomatch h
  · rw [not_or, Bool.not_eq_false] at hcall
    obtain ⟨f, hf⟩ := Option.ne_none_iff_exists'.1 hcall.2
    rw [bare_operand_callee call site ends us ht hcall.1 hf] at h
    exact hn.application hus ht hcall.1 hf h

theorem SoundOperand.group (ht : t.kind = .leftParen)
    (h : (operand call site ends (t :: us)).bare st = .ok (v, rest) mid) :
    ∃ x : Phrase .operand, Spells call site x (t :: us) st v rest mid := by
  rw [bare_operand_leftParen call site ends us ht] at h
  split at h
  · cases h
  · cases h
  · next inner after _ henc =>
      obtain ⟨closer, hc, rfl⟩ := exists_of_enclosed ht henc
      obtain ⟨w, mid', hw, h⟩ := Eval.bind_eq_ok.1 h
      cases h
      simp only [List.length_append, List.length_cons] at hus
      obtain ⟨x, hx, hv⟩ := hn.evaluate (by omega) hw
      refine ⟨.group t x closer ht hc, ?_, hv⟩
      rw [Phrase.render, hx]
      simp

/-- A sign in front of an operand. -/
theorem exists_of_signed {g : Value → Eval Value}
    (h : (do
      let p ← (operand call site ends us).bare
      let u ← g p.1
      pure (u, p.2) : Eval (Value × List Token)) st = .ok (v, rest) mid) :
    ∃ x : Phrase .operand, t :: us = t :: (x.render ++ rest) ∧
      (do let w ← x.value call site; ExceptT.lift (g w) : Reckoning Value).run st
        = .ok (.ok v) mid := by
  obtain ⟨⟨w, us'⟩, mid', hx, h⟩ := Eval.bind_eq_ok.1 h
  obtain ⟨u, mid'', hu, h⟩ := Eval.bind_eq_ok.1 h
  cases h
  obtain ⟨x, hx⟩ := hn hus hx
  refine ⟨x, by rw [← hx.tokens], ?_⟩
  rw [Reckoning.run_bind_of_value hx.value]
  exact Reckoning.run_lift_of_ok hu

end

/-- One token more: every operand that has a value comes from a tree if the shorter ones
do. -/
theorem SoundOperand.succ (hn : SoundOperand call site n) : SoundOperand call site (n + 1) := by
  intro ends ts rest st mid v hts h
  -- On the kind of the first token, which decides what is read. The remaining tokens are at
  -- most `n`.
  cases ts with
  | nil =>
    rw [bare_operand_nil] at h
    cases h
  | cons t us =>
    have hus : us.length ≤ n := by simpa using hts
    cases hk : t.kind with
    | number =>
      rw [bare_operand_literal call site ends us (.inl hk)] at h
      cases h
      exact ⟨.literal t (.inl hk), rfl, rfl⟩
    | string =>
      rw [bare_operand_literal call site ends us (.inr hk)] at h
      cases h
      exact ⟨.literal t (.inr hk), rfl, rfl⟩
    | keyword =>
      rw [bare_operand_keyword call site ends us hk] at h
      cases hc : constant? t with
      | none =>
        rw [hc] at h
        cases h
      | some w =>
        rw [hc] at h
        cases h
        refine ⟨.constant t (by rw [hc]; rfl), rfl, ?_⟩
        simp only [Phrase.value, hc]
        rfl
    | ident => exact hn.ident hus hk h
    | leftParen => exact hn.group hus hk h
    | minus =>
      rw [bare_operand_minus call site ends us hk] at h
      obtain ⟨x, htokens, hv⟩ := exists_of_signed hn hus h
      exact ⟨.negative t x hk, htokens, hv⟩
    | not =>
      rw [bare_operand_not call site ends us hk] at h
      obtain ⟨x, htokens, hv⟩ := exists_of_signed
        (g := fun w => Eval.ofOperator t.offset (Value.applyUnary .not w)) hn hus h
      exact ⟨.negation t x hk, htokens, hv⟩
    | _ =>
      rw [bare_operand_cons, hk] at h
      cases h

theorem soundOperand (call : Caller) (site : Site) (n : Nat) : SoundOperand call site n := by
  induction n with
  | zero =>
    intro ends ts rest st mid v hts h
    rw [List.eq_nil_of_length_eq_zero (Nat.le_zero.1 hts), bare_operand_nil] at h
    exact nomatch h
  | succ n ih => exact ih.succ

/-- **A value comes from a tree**: tokens that the evaluator accepts are the tokens of an
expression with that value. -/
theorem exists_of_evaluate (h : evaluate call site ts st = .ok v last) :
    ∃ x : Expression, x.render = ts ∧ (x.value call site).run st = .ok (.ok v) last :=
  (soundOperand call site ts.length).evaluate (Nat.le_refl _) h

end

end Quartz
