import Quartz.Proofs.Eval.Basic
import Quartz.Proofs.Expression.Reader
import Quartz.Proofs.Expression.Unambiguous
import Quartz.Proofs.Token.Bracket

/-!
# `Quartz.Proofs.Expression.Complete`: the evaluator on the tokens of a tree

Run on the tokens of a tree, the evaluator does what the tree's `value` does: the same
values in the same states, and the same faults (`evaluate_render`).

The chains lean to the left and the evaluator reads from the left, so a tree is not
followed part by part. `Reads ts x k y` is the form that goes through: `y` does what
the tree `x` does and then goes on with its value as `k` does. For a chain, `k` is the
rest of the loop that `y` is in, and adding a link to the chain is one turn of that loop
(`Loop`). The arithmetic loops `reduce` and `binary` differ only in what they do once the
arithmetic is over, which is why one notion serves both.

Where a tree comes to rest at a parenthesis, the evaluator has read a name as a value
and has the parenthesis in front of it. No loop goes on there. The operators that wait
for the value are applied to it, and if they accept it the parenthesis is left over
(`Refusal`).
-/

set_option autoImplicit false

namespace Quartz

variable {op opener t : Token} {ts rest us : List Token} {n : Nat} {v : Value} {tier : Tier}

/-! ### Brackets and commas in a tree -/

theorem Tier.ne_of_joins {k : Kind} (h : tier.joins k) :
    k ≠ .leftParen ∧ k ≠ .rightParen ∧ k ≠ .comma := by
  cases tier <;> cases k <;>
    simp_all [joins, Kind.isLogical, Kind.isArithmetic, Kind.priority]

theorem Kind.ne_of_isRelational {k : Kind} (h : k.isRelational) :
    k ≠ .leftParen ∧ k ≠ .rightParen ∧ k ≠ .comma := by
  cases k <;> simp_all [isRelational]

/-- Tokens of a tree can be passed over in a search for a closing parenthesis, and in a
search for a comma outside parentheses. -/
structure SelfContained (n : Nat) (ts : List Token) : Prop where
  closed : Bracket.Closed .leftParen .rightParen ts
  uncut : Bracket.Uncut n ts

namespace SelfContained

theorem singleton (ho : t.kind ≠ .leftParen) (hc : t.kind ≠ .rightParen) (hm : t.kind ≠ .comma) :
    SelfContained n [t] where
  closed := Bracket.closed_singleton ho hc
  uncut := Bracket.uncut_singleton (by
    unfold Bracket.parenWeight
    split <;> simp_all) hm

theorem append (hts : SelfContained n ts) (hus : SelfContained n us) :
    SelfContained n (ts ++ us) where
  closed := hts.closed.append hus.closed
  uncut := hts.uncut.append hus.uncut

/-- Parentheses shelter the commas between them. -/
theorem bracket (h : SelfContained 1 ts) {o c : Token} (ho : o.kind = .leftParen)
    (hc : c.kind = .rightParen) :
    SelfContained 0 (o :: (ts ++ [c])) where
  closed := h.closed.bracket (by decide) ho hc
  uncut := h.uncut.bracket ho hc

theorem mono (h : SelfContained 0 ts) : SelfContained 1 ts where
  closed := h.closed
  uncut := h.uncut.mono (Nat.zero_le 1)

/-- A link of a chain: an operator between two pieces. -/
theorem join (hts : SelfContained 0 ts) (hus : SelfContained 0 us)
    (hop : op.kind ≠ .leftParen ∧ op.kind ≠ .rightParen ∧ op.kind ≠ .comma) :
    SelfContained 0 (ts ++ op :: us) :=
  hts.append ((singleton hop.1 hop.2.1 hop.2.2).append hus)

/-- A word in front of a piece. -/
theorem cons (h : SelfContained n ts) (ho : t.kind ≠ .leftParen) (hc : t.kind ≠ .rightParen)
    (hm : t.kind ≠ .comma) : SelfContained n (t :: ts) := (singleton ho hc hm).append h

end SelfContained

mutual

theorem Phrase.selfContained : {tier : Tier} → (x : Phrase tier) → SelfContained 0 x.render
  | _, .literal t ht => by
      rcases ht with h | h <;> exact .singleton (by simp [h]) (by simp [h]) (by simp [h])
  | _, .constant t ht => by
      have h := keyword_of_constant? ht
      exact .singleton (by simp [h]) (by simp [h]) (by simp [h])
  | _, .name t ht => .singleton (by simp [ht]) (by simp [ht]) (by simp [ht])
  | _, .bareCall t o c ht ho hc =>
    (SelfContained.bracket ⟨Bracket.closed_nil _ _, fun _ _ _ => rfl⟩ ho hc).cons
      (by simp [ht]) (by simp [ht]) (by simp [ht])
  -- Commas between arguments are inside the parentheses of the call.
  | _, .call t o args c ht ho hc =>
    (args.selfContained.bracket ho hc).cons (by simp [ht]) (by simp [ht]) (by simp [ht])
  | _, .group o inner c ho hc => inner.selfContained.mono.bracket ho hc
  | _, .negative s x hs => x.selfContained.cons (by simp [hs]) (by simp [hs]) (by simp [hs])
  | _, .negation s x hs => x.selfContained.cons (by simp [hs]) (by simp [hs]) (by simp [hs])
  | _, .lift x _ => x.selfContained
  | _, .join l _ r hop => l.selfContained.join r.selfContained (Tier.ne_of_joins hop)
  | _, .compare l _ r hop => l.selfContained.join r.selfContained (Kind.ne_of_isRelational hop)

theorem Arguments.selfContained : (args : Arguments) → SelfContained 1 args.render
  | .last x => x.selfContained.mono
  | .more x comma rest hc =>
    x.selfContained.mono.append (SelfContained.append
      ⟨Bracket.closed_singleton (by simp [hc]) (by simp [hc]), Bracket.uncut_comma hc⟩
      rest.selfContained)

end

/-! ### Runs that follow a tree -/

namespace Reckoning

variable {α β : Type} {x : Reckoning α} {f : α → Reckoning β} {st mid : State}

theorem run_bind_of_value {a : α} (h : x.run st = .ok (.ok a) mid) :
    (x >>= f).run st = (f a).run mid := by
  rw [ExceptT.run_bind, Eval.bind_of_ok h]

theorem run_bind_of_rest (h : x.run st = .ok (.error t) mid) :
    (x >>= f).run st = .ok (.error t) mid := by
  rw [ExceptT.run_bind, Eval.bind_of_ok h]
  rfl

theorem run_bind_of_stop {stop : Stop} (h : x.run st = .error stop mid) :
    (x >>= f).run st = .error stop mid := by
  rw [ExceptT.run_bind, Eval.bind_of_error h]

theorem run_lift_of_ok {y : Eval α} {a : α} (h : y st = .ok a mid) :
    (ExceptT.lift y : Reckoning α).run st = .ok (.ok a) mid := by
  show (Except.ok <$> y) st = _
  rw [map_eq_pure_bind, Eval.bind_of_ok h]
  rfl

theorem run_lift_of_error {y : Eval α} {stop : Stop} (h : y st = .error stop mid) :
    (ExceptT.lift y : Reckoning α).run st = .error stop mid := by
  show (Except.ok <$> y) st = _
  rw [map_eq_pure_bind, Eval.bind_of_error h]

section

variable {site : Site} {t opener : Token}

theorem run_getThe (st : State) : (getThe State : Reckoning State).run st = .ok (.ok st) st := rfl

theorem run_name_of_value {call : Caller} (ht : t.kind = .ident)
    (hv : (st.meaning site t.literal).value? = some v) :
    ((Phrase.name t ht).value call site).run st = .ok (.ok v) st := by
  rw [Phrase.value, run_bind_of_value (run_getThe st), hv]
  rfl

theorem run_name_of_unknown {call : Caller} (ht : t.kind = .ident)
    (hv : (st.meaning site t.literal).value? = none) :
    ((Phrase.name t ht).value call site).run st
      = .error (.fault (.runtime ⟨.operand (.undefined t.literal), t.offset⟩)) st := by
  rw [Phrase.value, run_bind_of_value (run_getThe st), hv]
  rfl

theorem run_calleeOf_of_callee {f : FunctionId}
    (hf : (st.meaning site t.literal).callee? = some f) :
    (calleeOf site t opener).run st = .ok (.ok f) st := by
  rw [calleeOf, run_bind_of_value (run_getThe st)]
  dsimp only
  rw [hf]
  rfl

theorem run_calleeOf_of_value (hf : (st.meaning site t.literal).callee? = none)
    (hv : (st.meaning site t.literal).value? = some v) :
    (calleeOf site t opener).run st = .ok (.error opener) st := by
  -- A name that has a value is known, so the tree comes to rest and does not fail.
  have hk : (st.meaning site t.literal).known = true := by
    cases h : st.meaning site t.literal <;> rw [h] at hv <;> first | rfl | cases hv
  rw [calleeOf, run_bind_of_value (run_getThe st)]
  dsimp only
  rw [hf, hk]
  rfl

theorem run_calleeOf_of_unknown (hv : (st.meaning site t.literal).value? = none) :
    (calleeOf site t opener).run st
      = .error (.fault (.runtime ⟨.undefinedFunction t.literal, t.offset⟩)) st := by
  rw [calleeOf, run_bind_of_value (run_getThe st)]
  dsimp only
  cases h : st.meaning site t.literal <;> rw [h] at hv <;> first | rfl | cases hv

end

end Reckoning

theorem State.Meaning.value?_eq_none {m : State.Meaning} : m.value? = none ↔ m.known = false := by
  cases m <;> simp [value?, known]

/-- What the evaluator says where a tree comes to rest at a parenthesis of its tokens: that
the parenthesis is left over, or what an operator to the left of it, which was waiting for
the value of the name, says about that value. -/
def Refusal (ts : List Token) (opener : Token) (f : Fault) : Prop :=
  ∃ before after, ts = before ++ opener :: after ∧ opener.kind = .leftParen ∧
    (f = .runtime ⟨.malformed (.leftover opener.literal), opener.offset⟩ ∨
      ∃ op ∈ before, op.kind.isOperator ∧ ∃ cause : Cause, f = .runtime ⟨cause, op.offset⟩ ∧
        (cause.code = .unsupportedOperation ∨ cause.code = .divisionByZero))

theorem Refusal.mono {f : Fault} (h : Refusal ts opener f) (hsub : ts <:+: us) :
    Refusal us opener f := by
  obtain ⟨before, after, rfl, ho, h⟩ := h
  obtain ⟨s, t, rfl⟩ := hsub
  refine ⟨s ++ before, after ++ t, by simp, ho, ?_⟩
  -- The operator that refused is still to the left of the parenthesis.
  rcases h with h | ⟨op, hop, h⟩
  · exact .inl h
  · exact .inr ⟨op, List.mem_append_right s hop, h⟩

/-- The result of a reader for a tree that came to rest at a parenthesis: it stands in
front of that parenthesis, or an operator has refused. -/
def Blocked (ts : List Token) (opener : Token) (mid : State)
    (got : EStateM.Result Stop State (Value × List Token)) : Prop :=
  (opener.kind = .leftParen ∧ opener ∈ ts ∧ ∃ v tail, got = .ok (v, opener :: tail) mid) ∨
    ∃ f, got = .error (.fault f) mid ∧ Refusal ts opener f

theorem Blocked.mono {mid : State} {got : EStateM.Result Stop State (Value × List Token)}
    (h : Blocked ts opener mid got) (hsub : ts <:+: us) : Blocked us opener mid got := by
  rcases h with ⟨ho, hmem, hgot⟩ | ⟨f, hgot, hf⟩
  · exact .inl ⟨ho, hsub.subset hmem, hgot⟩
  · exact .inr ⟨f, hgot, hf.mono hsub⟩

/-- The result of a run answers that of a tree: it is the same, except that the run
refuses where the tree came to rest. -/
def Answers {α : Type} (ts : List Token) :
    EStateM.Result Stop State (Except Token α) → EStateM.Result Stop State α → Prop
  | .ok (.ok a) mid, got => got = .ok a mid
  | .ok (.error opener) mid, got => ∃ f, got = .error (.fault f) mid ∧ Refusal ts opener f
  | .error stop mid, got => got = .error stop mid

/-- The run does what the tree does, and refuses where the tree comes to rest. -/
def Obeys {α : Type} (ts : List Token) (x : Reckoning α) (y : Eval α) : Prop :=
  ∀ st, Answers ts (x.run st) (y st)

/-- The result of a reader for the result of a tree: after a value it goes on with `k`. -/
def Continues (ts : List Token) (k : Value → Eval (Value × List Token)) :
    EStateM.Result Stop State (Except Token Value) →
    EStateM.Result Stop State (Value × List Token) → Prop
  | .ok (.ok v) mid, got => got = k v mid
  | .ok (.error opener) mid, got => Blocked ts opener mid got
  | .error stop mid, got => got = .error stop mid

/-- The reader does what the tree does and goes on with its value. -/
def Reads (ts : List Token) (x : Reckoning Value) (k : Value → Eval (Value × List Token))
    (y : Eval (Value × List Token)) : Prop :=
  ∀ st, Continues ts k (x.run st) (y st)

namespace Obeys

variable {α β : Type} {ts us : List Token}

theorem mono {x : Reckoning α} {y : Eval α} (h : Obeys ts x y) (hsub : ts <:+: us) :
    Obeys us x y := by
  intro st
  have hst := h st
  cases hx : x.run st with
  | error s mid => rwa [hx] at hst
  | ok r mid =>
    rw [hx] at hst
    cases r with
    | ok a => exact hst
    | error opener =>
      obtain ⟨f, hy, hf⟩ := hst
      exact ⟨f, hy, hf.mono hsub⟩

theorem pure (a : α) : Obeys ts (Pure.pure a) (Pure.pure a) := fun _ => rfl

/-- A lifted run never comes to rest. -/
theorem lift (y : Eval α) : Obeys ts (ExceptT.lift y) y := by
  intro st
  cases hy : y st with
  | ok a mid =>
    rw [Reckoning.run_lift_of_ok hy]
    rfl
  | error s mid =>
    rw [Reckoning.run_lift_of_error hy]
    rfl

theorem bind {x : Reckoning α} {y : Eval α} {f : α → Reckoning β} {g : α → Eval β}
    (h : Obeys ts x y) (hf : ∀ a, Obeys ts (f a) (g a)) : Obeys ts (x >>= f) (y >>= g) := by
  intro st
  have hst := h st
  cases hx : x.run st with
  | error s mid =>
    rw [hx] at hst
    rw [Reckoning.run_bind_of_stop hx]
    exact Eval.bind_of_error hst
  | ok r mid =>
    rw [hx] at hst
    cases r with
    | ok a =>
      rw [Reckoning.run_bind_of_value hx, Eval.bind_of_ok hst]
      exact hf a mid
    | error opener =>
      obtain ⟨f, hy, hf⟩ := hst
      rw [Reckoning.run_bind_of_rest hx]
      exact ⟨f, Eval.bind_of_error hy, hf⟩

/-- A part that is evaluated whole leaves the reader behind it. -/
theorem reads {x : Reckoning Value} {y : Eval Value} (h : Obeys ts x y) (rest : List Token) :
    Reads ts x (fun v => Pure.pure (v, rest)) (y >>= fun v => Pure.pure (v, rest)) := by
  intro st
  have hst := h st
  cases hx : x.run st with
  | error s mid =>
    rw [hx] at hst
    exact Eval.bind_of_error hst
  | ok r mid =>
    rw [hx] at hst
    cases r with
    | ok a => exact Eval.bind_of_ok hst
    | error opener =>
      obtain ⟨f, hy, hf⟩ := hst
      exact .inr ⟨f, Eval.bind_of_error hy, hf⟩

end Obeys

/-! ### Operators -/

/-- An operator gives a value or refuses with a fault of its own, and changes nothing. -/
def Operates (op : Token) (y : Eval Value) : Prop :=
  ∀ st, (∃ u, y st = .ok u st) ∨
    ∃ cause : Cause, y st = .error (.fault (.runtime ⟨cause, op.offset⟩)) st ∧
      (cause.code = .unsupportedOperation ∨ cause.code = .divisionByZero)

theorem Value.code_of_applyUnary {o : Operator} {cause : Cause}
    (h : v.applyUnary o = .error cause) : cause.code = .unsupportedOperation := by
  unfold Value.applyUnary at h
  split at h <;> cases h
  rfl

theorem Value.code_of_apply {o : Operator} {w : Value} {cause : Cause}
    (h : v.apply o w = .error cause) :
    cause.code = .unsupportedOperation ∨ cause.code = .divisionByZero := by
  unfold Value.apply at h
  split at h
  · exact nomatch h
  · exact nomatch h
  · exact .inl (Value.code_of_applyUnary h)
  · split at h
    · unfold Value.applyNumber at h
      split at h <;> split at h <;> (try split at h) <;> cases h <;> simp [Cause.code]
    · unfold Value.applyBool at h
      split at h <;> split at h <;> cases h <;> simp [Cause.code]
    · unfold Value.applyText at h
      split at h <;> split at h <;> cases h <;> simp [Cause.code]
    · cases h
      exact .inl rfl

theorem operates_ofOperator {r : Except Cause Value}
    (h : ∀ cause, r = .error cause →
      cause.code = .unsupportedOperation ∨ cause.code = .divisionByZero) :
    Operates op (Eval.ofOperator op.offset r) := by
  intro st
  cases r with
  | ok u => exact .inl ⟨u, rfl⟩
  | error cause => exact .inr ⟨cause, rfl, h cause rfl⟩

theorem operates_combine (h : op.kind.operator?.isSome) (v w : Value) :
    Operates op (combine op v w) := by
  obtain ⟨o, ho⟩ := Option.isSome_iff_exists.1 h
  unfold combine
  rw [ho]
  exact operates_ofOperator fun _ => Value.code_of_apply

theorem operates_negate (op : Token) (v : Value) : Operates op (negate op v) := by
  intro st
  cases v with
  | number x => exact .inl ⟨_, rfl⟩
  | _ => exact .inr ⟨_, rfl, .inl rfl⟩

theorem operates_not (op : Token) (v : Value) :
    Operates op (Eval.ofOperator op.offset (Value.applyUnary .not v)) :=
  operates_ofOperator fun _ h => .inl (Value.code_of_applyUnary h)

theorem Kind.isOperator_of_operator? {k : Kind} (h : k.operator?.isSome) : k.isOperator := by
  cases k <;> first | rfl | cases h

theorem Tier.operator_of_joins {k : Kind} (h : tier.joins k) : k.operator?.isSome := by
  cases tier <;> cases k <;> first | rfl | exact nomatch h

theorem Kind.operator_of_isRelational {k : Kind} (h : k.isRelational) : k.operator?.isSome := by
  cases k <;> first | rfl | exact nomatch h

/-! ### Readers -/

/-- What goes on behind a value does nothing at a parenthesis. -/
def Inert (K : Value → List Token → Eval (Value × List Token)) : Prop :=
  ∀ v opener tail, opener.kind = .leftParen → K v (opener :: tail) = pure (v, opener :: tail)

theorem inert_pure : Inert fun v ts => pure (v, ts) := fun _ _ _ _ => rfl

namespace Reads

variable {ts us rest : List Token} {x : Reckoning Value}
  {k : Value → Eval (Value × List Token)} {y : Eval (Value × List Token)}
  {K : Value → List Token → Eval (Value × List Token)}

theorem mono (h : Reads ts x k y) (hsub : ts <:+: us) : Reads us x k y := by
  intro st
  have hst := h st
  cases hx : x.run st with
  | error s mid => rwa [hx] at hst
  | ok r mid =>
    rw [hx] at hst
    cases r with
    | ok v => exact hst
    | error opener => exact Blocked.mono hst hsub

theorem congr {k' : Value → Eval (Value × List Token)} (h : Reads ts x k y)
    (hk : ∀ v, k v = k' v) : Reads ts x k' y := by
  rwa [funext hk] at h

/-- A reader that stops behind the tree, and a loop that goes on from there. -/
theorem andThen (h : Reads ts x (fun v => pure (v, rest)) y) (hK : Inert K) :
    Reads ts x (fun v => K v rest) (y >>= fun p => K p.1 p.2) := by
  intro st
  have hst := h st
  cases hx : x.run st with
  | error s mid =>
    rw [hx] at hst
    exact Eval.bind_of_error hst
  | ok r mid =>
    rw [hx] at hst
    cases r with
    | ok v => exact Eval.bind_of_ok hst
    | error opener =>
      -- The loop does nothing at a parenthesis, so the reader stays where it is.
      rcases hst with ⟨ho, hmem, v, tail, hy⟩ | ⟨f, hy, hf⟩
      · refine .inl ⟨ho, hmem, v, tail, ?_⟩
        rw [Eval.bind_of_ok hy, hK v opener tail ho]
        rfl
      · exact .inr ⟨f, Eval.bind_of_error hy, hf⟩

/-- An operator waits for the value of a tree, and a loop goes on with what it gives. -/
theorem operate {g : Value → Eval Value} (h : Reads ts x (fun w => pure (w, rest)) y)
    (hop : op ∈ us) (hk : op.kind.isOperator) (hg : ∀ w, Operates op (g w)) (hK : Inert K) :
    Reads (us ++ ts) (x >>= fun w => ExceptT.lift (g w)) (fun u => K u rest)
      (y >>= fun p => g p.1 >>= fun u => K u p.2) := by
  intro st
  have hst := h st
  cases hx : x.run st with
  | error s mid =>
    rw [hx] at hst
    rw [Reckoning.run_bind_of_stop hx]
    exact Eval.bind_of_error hst
  | ok r mid =>
    rw [hx] at hst
    cases r with
    | ok w =>
      rw [Reckoning.run_bind_of_value hx, Eval.bind_of_ok hst]
      rcases hg w mid with ⟨u, hu⟩ | ⟨cause, hu, -⟩
      · rw [Reckoning.run_lift_of_ok hu]
        exact Eval.bind_of_ok hu
      · rw [Reckoning.run_lift_of_error hu]
        exact Eval.bind_of_error hu
    | error opener =>
      rw [Reckoning.run_bind_of_rest hx]
      -- The reader stands at the parenthesis with the value of a name. The operator is applied
      -- to that value all the same, and its refusal is one of the two ways to end.
      rcases hst with ⟨ho, hmem, w, tail, hy⟩ | ⟨f, hy, hf⟩
      · rw [Eval.bind_of_ok hy]
        rcases hg w mid with ⟨u, hu⟩ | ⟨cause, hu, hcode⟩
        · refine .inl ⟨ho, List.mem_append_right us hmem, u, tail, ?_⟩
          rw [Eval.bind_of_ok hu, hK u opener tail ho]
          rfl
        · obtain ⟨before, after, rfl⟩ := List.append_of_mem hmem
          refine .inr ⟨_, Eval.bind_of_error hu, us ++ before, after, by simp, ho, ?_⟩
          exact .inr ⟨op, List.mem_append_left before hop, hk, cause, rfl, hcode⟩
      · exact .inr ⟨f, Eval.bind_of_error hy, hf.mono (List.suffix_append us ts).isInfix⟩

/-- A tree whose value is needed before a second one. -/
theorem bind {f : Value → Reckoning Value} (h : Reads ts x k y)
    {k' : Value → Eval (Value × List Token)} (hf : ∀ v, Reads ts (f v) k' (k v)) :
    Reads ts (x >>= f) k' y := by
  intro st
  have hst := h st
  cases hx : x.run st with
  | error s mid =>
    rw [hx] at hst
    rw [Reckoning.run_bind_of_stop hx]
    exact hst
  | ok r mid =>
    rw [hx] at hst
    cases r with
    | ok v =>
      rw [Reckoning.run_bind_of_value hx]
      have hst : y st = k v mid := hst
      rw [hst]
      exact hf v mid
    | error opener =>
      rw [Reckoning.run_bind_of_rest hx]
      exact hst

/-- One turn of a loop: behind the left side stands an operator, and the loop reads the
right side, applies the operator and goes on. -/
theorem link {l r : Reckoning Value} {side front : Eval (Value × List Token)}
    (hl : Reads ts l (fun v => side >>= fun p => combine op v p.1 >>= fun u => K u p.2) front)
    (hr : Reads us r (fun w => pure (w, rest)) side) (hop : op.kind.operator?.isSome)
    (hK : Inert K) :
    Reads (ts ++ op :: us)
      (do let v ← l; let w ← r; ExceptT.lift (combine op v w)) (fun u => K u rest) front := by
  have hop' : op ∈ ts ++ [op] := by simp
  refine (hl.mono (List.prefix_append ts _).isInfix).bind fun v => ?_
  -- The operator stands to the left of all tokens of the right side.
  have hright := hr.operate hop' (Kind.isOperator_of_operator? hop) (operates_combine hop v) hK
  rwa [List.append_assoc, List.singleton_append] at hright

end Reads

/-! ### Loops over arithmetic -/

section

variable (call : Caller) (site : Site) (ends : Int)

/-- A loop that folds in the arithmetic operators that bind tighter than the floor. -/
structure Loop (floor : Nat) (K : Value → List Token → Eval (Value × List Token)) : Prop where
  inert : Inert K
  fold : ∀ (v : Value) (op : Token) (us : List Token), op.kind.isArithmetic →
    floor < op.kind.priority → K v (op :: us) = (do
      let p ← (term call site ends op.kind.priority us).bare
      let u ← combine op v p.1
      K u p.2)

variable {call site ends}

theorem Loop.mono {m : Nat} {K : Value → List Token → Eval (Value × List Token)}
    (h : Loop call site ends m K) (hmn : m ≤ n) : Loop call site ends n K where
  inert := h.inert
  fold v op us ha hp := h.fold v op us ha (Nat.lt_of_le_of_lt hmn hp)

theorem loop_reduce (floor : Nat) :
    Loop call site ends floor fun v ts => (reduce call site ends floor v ts).bare where
  inert v opener tail ho := by
    dsimp only
    rw [bare_reduce_cons, ho]
    rfl
  fold v op us ha hp := by
    rw [bare_reduce_cons, if_pos]
    simp [ha, hp]

theorem loop_binary (compared : Bool) :
    Loop call site ends 0 fun v ts => (binary call site ends compared v ts).bare where
  inert v opener tail ho := by
    dsimp only
    rw [bare_binary_cons, ho]
    rfl
  -- The loop over all operators takes arithmetic first, whatever the flag says.
  fold v op us ha _ := by
    rw [bare_binary_cons, if_pos ha]

/-- The arithmetic loop ends where no operator follows that binds tighter than its floor. -/
theorem reduce_of_stops {floor : Nat}
    (h : ∀ t ∈ rest.head?, (t.kind.isArithmetic && floor < t.kind.priority) = false) (v : Value) :
    (reduce call site ends floor v rest).bare = pure (v, rest) := by
  cases rest with
  | nil => exact bare_reduce_nil call site ends floor v
  | cons t ts =>
    have ht := h t rfl
    rw [bare_reduce_cons, ht]
    rfl

theorem reduce_two (v : Value) (rest : List Token) :
    (reduce call site ends 2 v rest).bare = pure (v, rest) := by
  refine reduce_of_stops (fun t _ => ?_) v
  -- No priority is above that of a product.
  cases t.kind <;> rfl

theorem reduce_one (h : Tier.product.Stops rest) (v : Value) :
    (reduce call site ends 1 v rest).bare = pure (v, rest) := by
  refine reduce_of_stops (fun t ht => ?_) v
  have hstop := h t ht
  revert hstop
  cases t.kind <;> simp [Tier.continues, Tier.joins, Kind.isArithmetic, Kind.priority]

theorem reduce_zero (h : Tier.sum.Stops rest) (v : Value) :
    (reduce call site ends 0 v rest).bare = pure (v, rest) := by
  refine reduce_of_stops (fun t ht => ?_) v
  have hstop := h t ht
  revert hstop
  cases t.kind <;> simp [Tier.continues, Kind.isArithmetic]

/-! ### Operands -/

variable (call site ends) in
/-- Reading an operand stops right behind it. -/
def Phrase.ReadsOperand (x : Phrase .operand) : Prop :=
  ∀ (ends : Int) (rest : List Token), Tier.operand.Stops rest →
    Reads x.render (x.value call site) (fun v => pure (v, rest))
      (operand call site ends (x.render ++ rest)).bare

theorem Phrase.readsOperand_literal (t : Token) (ht : t.kind = .number ∨ t.kind = .string) :
    (Phrase.literal t ht).ReadsOperand call site := by
  intro ends rest _
  rw [Phrase.render, List.singleton_append, bare_operand_literal call site ends rest ht]
  exact fun st => rfl

theorem Phrase.readsOperand_constant (t : Token) (ht : (constant? t).isSome) :
    (Phrase.constant t ht).ReadsOperand call site := by
  intro ends rest _
  rw [Phrase.render, List.singleton_append,
    bare_operand_keyword call site ends rest (keyword_of_constant? ht)]
  obtain ⟨v, hv⟩ := Option.isSome_iff_exists.1 ht
  intro st
  simp only [Phrase.value, hv]
  rfl

theorem opensParen_of_stops (h : Tier.operand.Stops rest) : opensParen rest = false := by
  cases rest with
  | nil => rfl
  | cons t ts => exact Tier.stops_cons.1 h

theorem Phrase.readsOperand_name (t : Token) (ht : t.kind = .ident) :
    (Phrase.name t ht).ReadsOperand call site := by
  intro ends rest hrest st
  rw [Phrase.render, List.singleton_append]
  -- No parenthesis follows, so a function is read as a value too.
  have ho := opensParen_of_stops hrest
  cases hv : (st.meaning site t.literal).value? with
  | some v =>
    rw [Reckoning.run_name_of_value ht hv]
    exact bare_operand_value call site ends _ ht (.inl ho) hv
  | none =>
    rw [Reckoning.run_name_of_unknown ht hv]
    have hy := bare_operand_unknown call site ends rest ht
      (State.Meaning.value?_eq_none.1 hv)
    rwa [ho] at hy

/-- A call comes to rest exactly where its name is read as a value. -/
theorem reads_call {body : FunctionId → Reckoning Value} {k : Value → Eval (Value × List Token)}
    (ht : t.kind = .ident) (ho : opener.kind = .leftParen) (hmem : opener ∈ ts)
    (h : ∀ f, Reads ts (body f) k (application call site f t (opener :: us)).bare) :
    Reads ts (calleeOf site t opener >>= body) k
      (operand call site ends (t :: opener :: us)).bare := by
  intro st
  have hopens : opensParen (opener :: us) := by simp [opensParen, ho]
  cases hf : (st.meaning site t.literal).callee? with
  | some f =>
    rw [Reckoning.run_bind_of_value (Reckoning.run_calleeOf_of_callee hf),
      bare_operand_callee call site ends _ ht hopens hf]
    exact h f st
  | none =>
    -- Not a function: either a value, and the parenthesis stays in front, or nothing.
    cases hv : (st.meaning site t.literal).value? with
    | some v =>
      rw [Reckoning.run_bind_of_rest (Reckoning.run_calleeOf_of_value hf hv)]
      exact .inl ⟨ho, hmem, v, us, bare_operand_value call site ends _ ht (.inr hf) hv⟩
    | none =>
      rw [Reckoning.run_bind_of_stop (Reckoning.run_calleeOf_of_unknown hv)]
      have hy := bare_operand_unknown call site ends (opener :: us) ht
        (State.Meaning.value?_eq_none.1 hv)
      rwa [hopens] at hy

theorem Bracket.enclosed?_parens {closer : Token} (ho : opener.kind = .leftParen)
    (hc : closer.kind = .rightParen) (hts : Bracket.Closed .leftParen .rightParen ts) :
    Bracket.enclosed? (opener :: (ts ++ closer :: rest)) = some (ts, rest) := by
  rw [Bracket.enclosed?_eq_some_iff]
  refine ⟨opener, closer, rfl, ?_, ?_⟩
  · rw [ho, hc]
    rfl
  · rwa [ho, hc]

theorem Phrase.readsOperand_bareCall (t opener closer : Token) (ht : t.kind = .ident)
    (ho : opener.kind = .leftParen) (hc : closer.kind = .rightParen) :
    (Phrase.bareCall t opener closer ht ho hc).ReadsOperand call site := by
  intro ends rest _
  refine reads_call ht ho (by simp [Phrase.render]) fun f => ?_
  have henc : Bracket.enclosed? (opener :: closer :: rest) = some ([], rest) :=
    Bracket.enclosed?_parens ho hc (Bracket.closed_nil _ _)
  show Reads _ _ _ (application call site f t (opener :: closer :: rest)).bare
  rw [bare_application, henc]
  exact (Obeys.lift _).reads rest

/-- Evaluating the tokens of arguments follows the arguments. -/
theorem Phrase.readsOperand_call {args : Arguments}
    (ha : ∀ name, Obeys args.render (args.values call site) (arguments call site name args.render))
    (t opener closer : Token) (ht : t.kind = .ident) (ho : opener.kind = .leftParen)
    (hc : closer.kind = .rightParen) :
    (Phrase.call t opener args closer ht ho hc).ReadsOperand call site := by
  intro ends rest _
  rw [Phrase.render, List.cons_append, List.cons_append, List.append_assoc, List.singleton_append]
  refine reads_call ht ho (by simp) fun f => ?_
  obtain ⟨u, us, hcons, -⟩ := args.render_eq_cons
  have hne : args.render ≠ [] := by simp [hcons]
  rw [bare_application, Bracket.enclosed?_parens ho hc args.selfContained.closed]
  simp only [if_neg hne]
  -- The arguments follow their trees, and the call itself is the same on both sides.
  have hobeys : Obeys args.render
      (do let vs ← args.values call site
          ExceptT.lift (Eval.mapFault (·.placedAt t.offset) (call f vs)))
      (do let vs ← arguments call site t args.render
          Eval.mapFault (·.placedAt t.offset) (call f vs)) :=
    (ha t).bind fun vs => Obeys.lift _
  have hsub : args.render <:+: t :: opener :: (args.render ++ [closer]) :=
    ⟨[t, opener], [closer], rfl⟩
  have hreads := (hobeys.reads rest).mono hsub
  rwa [bind_assoc] at hreads

theorem Phrase.readsOperand_group {inner : Expression}
    (hi : Obeys inner.render (inner.value call site) (evaluate call site inner.render))
    (opener closer : Token) (ho : opener.kind = .leftParen) (hc : closer.kind = .rightParen) :
    (Phrase.group opener inner closer ho hc).ReadsOperand call site := by
  intro ends rest _
  obtain ⟨u, us, hcons, -⟩ := inner.render_eq_cons
  rw [Phrase.render, List.cons_append, List.append_assoc, List.singleton_append,
    bare_operand_leftParen call site ends _ ho,
    Bracket.enclosed?_parens ho hc inner.selfContained.closed]
  have hsub : inner.render <:+: opener :: (inner.render ++ [closer]) := ⟨[opener], [closer], rfl⟩
  have hreads := (hi.reads rest).mono hsub
  -- The reader refuses an empty group, so it has to see that the group is not empty.
  rw [hcons] at hreads ⊢
  exact hreads

theorem Phrase.ReadsOperand.negative {x : Phrase .operand} (hx : x.ReadsOperand call site)
    (sign : Token) (hs : sign.kind = .minus) :
    (Phrase.negative sign x hs).ReadsOperand call site := by
  intro ends rest hrest
  rw [Phrase.render, List.cons_append, bare_operand_minus call site ends _ hs]
  exact (hx ends rest hrest).operate (List.mem_singleton_self sign) (by rw [hs]; rfl)
    (operates_negate sign) inert_pure

theorem Phrase.ReadsOperand.negation {x : Phrase .operand} (hx : x.ReadsOperand call site)
    (sign : Token) (hs : sign.kind = .not) :
    (Phrase.negation sign x hs).ReadsOperand call site := by
  intro ends rest hrest
  rw [Phrase.render, List.cons_append, bare_operand_not call site ends _ hs]
  exact (hx ends rest hrest).operate (List.mem_singleton_self sign) (by rw [hs]; rfl)
    (operates_not sign) inert_pure

/-! ### Chains -/

variable (call site) in
/-- A reader that starts with the operand in front of the tokens and goes on in a loop. -/
def start (ends : Int) (K : Value → List Token → Eval (Value × List Token))
    (ts : List Token) : Eval (Value × List Token) := do
  let p ← (operand call site ends ts).bare
  K p.1 p.2

variable (call site) in
/-- A loop over arithmetic that binds tighter than the floor comes out behind the phrase. -/
def Phrase.ReadsChain {tier : Tier} (x : Phrase tier) (floor : Nat) : Prop :=
  ∀ (ends : Int) (K : Value → List Token → Eval (Value × List Token)) (rest : List Token),
    Loop call site ends floor K → tier.below.Stops rest →
    Reads x.render (x.value call site) (fun v => K v rest)
      (start call site ends K (x.render ++ rest))

variable (call site) in
/-- A term above the floor ends right behind the phrase. -/
def Phrase.ReadsTerm {tier : Tier} (x : Phrase tier) (floor : Nat) : Prop :=
  ∀ (ends : Int) (rest : List Token), tier.Stops rest →
    Reads x.render (x.value call site) (fun v => pure (v, rest))
      (term call site ends floor (x.render ++ rest)).bare

theorem Phrase.ReadsOperand.readsTerm {x : Phrase .operand} (hx : x.ReadsOperand call site) :
    x.ReadsTerm call site 2 := by
  intro ends rest hrest
  rw [bare_term]
  exact ((hx ends rest hrest).andThen (loop_reduce 2).inert).congr fun v => reduce_two v rest

theorem Phrase.ReadsChain.readsTerm_product {x : Phrase .product} (hx : x.ReadsChain call site 1) :
    x.ReadsTerm call site 1 := by
  intro ends rest hrest
  rw [bare_term]
  exact (hx ends _ rest (loop_reduce 1) hrest.below).congr fun v => reduce_one hrest v

theorem Phrase.ReadsChain.readsTerm_sum {x : Phrase .sum} (hx : x.ReadsChain call site 0) :
    x.ReadsTerm call site 0 := by
  intro ends rest hrest
  rw [bare_term]
  exact (hx ends _ rest (loop_reduce 0) hrest.below).congr fun v => reduce_zero hrest v

theorem Phrase.ReadsOperand.lift_product {x : Phrase .operand} (hx : x.ReadsOperand call site)
    (hn : Tier.product ≠ .operand) : (Phrase.lift x hn : Phrase .product).ReadsChain call site 1 :=
  fun ends _ rest hK hrest => (hx ends rest hrest).andThen hK.inert

theorem Phrase.ReadsChain.lift_sum {x : Phrase .product} (hx : x.ReadsChain call site 1)
    (hn : Tier.sum ≠ .operand) : (Phrase.lift x hn : Phrase .sum).ReadsChain call site 0 :=
  fun ends K rest hK hrest => hx ends K rest (hK.mono (Nat.zero_le 1)) hrest.below

/-- A chain with one more link is one more turn of the loop. -/
theorem Phrase.ReadsChain.join {l : Phrase tier} {r : Phrase tier.below} {floor : Nat}
    (hl : l.ReadsChain call site floor) (hr : r.ReadsTerm call site op.kind.priority)
    (hop : tier.joins op.kind) (ha : op.kind.isArithmetic) (hp : floor < op.kind.priority) :
    (Phrase.join l op r hop).ReadsChain call site floor := by
  intro ends K rest hK hrest
  rw [Phrase.render, List.append_assoc, List.cons_append]
  -- The left part is read with the operator in front of the rest, where its own loop stops.
  have hfront := hl ends K (op :: (r.render ++ rest)) hK
    (Tier.stops_cons.2 (Tier.not_continues_below_of_joins hop))
  exact (hfront.congr fun v => hK.fold v op _ ha hp).link (hr ends rest hrest)
    (Tier.operator_of_joins hop) hK.inert

theorem Phrase.ReadsChain.join_product {l : Phrase .product} {r : Phrase .operand}
    (hl : l.ReadsChain call site 1) (hr : r.ReadsOperand call site)
    (hop : Tier.product.joins op.kind) : (Phrase.join l op r hop).ReadsChain call site 1 := by
  have hpr : op.kind.isArithmetic ∧ op.kind.priority = 2 := by simpa [Tier.joins] using hop
  refine hl.join ?_ hop hpr.1 (by omega)
  -- The right side is a term above the priority of a product, which is a single operand.
  rw [hpr.2]
  exact hr.readsTerm

theorem Phrase.ReadsChain.join_sum {l : Phrase .sum} {r : Phrase .product}
    (hl : l.ReadsChain call site 0) (hr : r.ReadsChain call site 1) (hop : Tier.sum.joins op.kind) :
    (Phrase.join l op r hop).ReadsChain call site 0 := by
  have hpr : op.kind.isArithmetic ∧ op.kind.priority = 1 := by simpa [Tier.joins] using hop
  refine hl.join ?_ hop hpr.1 (by omega)
  -- The right side is a term above the priority of a sum, which is a product.
  rw [hpr.2]
  exact hr.readsTerm_product

/-! ### Comparisons and logic -/

variable (call site) in
/-- The right side of a logical operator ends right behind the phrase. -/
def Phrase.ReadsComparison (x : Phrase .comparison) : Prop :=
  ∀ (ends : Int) (rest : List Token), Tier.comparison.Stops rest →
    Reads x.render (x.value call site) (fun v => pure (v, rest))
      (comparison call site ends (x.render ++ rest)).bare

variable (call site) in
/-- The loop over all operators comes out behind the phrase, with a flag that tells
whether the phrase was a comparison or a logical one. -/
def Phrase.ReadsLogic {tier : Tier} (x : Phrase tier) : Prop :=
  ∀ (ends : Int) (rest : List Token), tier.below.Stops rest → ∃ compared,
    Reads x.render (x.value call site) (fun v => (binary call site ends compared v rest).bare)
      (start call site ends (fun v ts => (binary call site ends false v ts).bare)
        (x.render ++ rest))

variable (call site ends) in
theorem inert_compareOnce : Inert (compareOnce call site ends) := by
  intro v opener tail ho
  simp only [compareOnce, ho]
  rfl

theorem compareOnce_of_stops (h : Tier.comparison.Stops rest) (v : Value) :
    compareOnce call site ends v rest = pure (v, rest) := by
  cases rest with
  | nil => rfl
  | cons t ts =>
    have ht : t.kind.isRelational = false := by
      have hstop := Tier.stops_cons.1 h
      simp only [Tier.continues, Bool.or_eq_false_iff] at hstop
      exact hstop.1.1
    simp only [compareOnce, ht]
    rfl

section

variable {x : Phrase .sum} (hx : x.ReadsChain call site 0) (hn : Tier.comparison ≠ .operand)
include hx hn

theorem Phrase.ReadsChain.readsComparison :
    (Phrase.lift x hn : Phrase .comparison).ReadsComparison call site := by
  intro ends rest hrest
  rw [bare_comparison]
  exact ((hx.readsTerm_sum ends rest hrest.below).andThen (inert_compareOnce call site ends)).congr
    fun v => compareOnce_of_stops hrest v

theorem Phrase.ReadsChain.lift_comparison :
    (Phrase.lift x hn : Phrase .comparison).ReadsLogic call site :=
  fun ends rest hrest => ⟨false, hx ends _ rest (loop_binary false) hrest.below⟩

end

section

variable {l r : Phrase .sum} {op : Token}

variable (hl : l.ReadsChain call site 0) (hr : r.ReadsChain call site 0)
  (hop : op.kind.isRelational)
include hl hr hop

theorem Phrase.readsComparison_compare : (Phrase.compare l op r hop).ReadsComparison call site := by
  intro ends rest hrest
  rw [Phrase.render, List.append_assoc, List.cons_append, bare_comparison]
  have hterm := hl.readsTerm_sum ends (op :: (r.render ++ rest))
    (Tier.stops_cons.2 (Tier.not_continues_sum_of_isRelational hop))
  have hfront := hterm.andThen (inert_compareOnce call site ends)
  refine (hfront.congr fun v => ?_).link (hr.readsTerm_sum ends rest hrest.below)
    (Kind.operator_of_isRelational hop) inert_pure
  rw [compareOnce, if_pos hop]

theorem Phrase.readsLogic_compare : (Phrase.compare l op r hop).ReadsLogic call site := by
  intro ends rest hrest
  -- Behind a comparison the flag is set, and no second one can follow.
  refine ⟨true, ?_⟩
  rw [Phrase.render, List.append_assoc, List.cons_append]
  have hstops : Tier.sum.Stops (op :: (r.render ++ rest)) :=
    Tier.stops_cons.2 (Tier.not_continues_sum_of_isRelational hop)
  have hfront := hl ends _ (op :: (r.render ++ rest)) (loop_binary false) hstops.below
  have ha : op.kind.isArithmetic = false := by
    revert hop
    cases op.kind <;> simp [Kind.isArithmetic, Kind.isRelational]
  refine (hfront.congr fun v => ?_).link (hr.readsTerm_sum ends rest hrest)
    (Kind.operator_of_isRelational hop) (loop_binary true).inert
  rw [bare_binary_cons, ha, hop]
  rfl

end

theorem Phrase.ReadsLogic.lift_logic {x : Phrase .comparison} (hx : x.ReadsLogic call site)
    (hn : Tier.logic ≠ .operand) : (Phrase.lift x hn : Phrase .logic).ReadsLogic call site :=
  fun ends rest hrest => hx ends rest hrest.below

theorem Phrase.ReadsLogic.join {l : Phrase .logic} {r : Phrase Tier.logic.below}
    (hl : l.ReadsLogic call site) (hr : Phrase.ReadsComparison call site r)
    (hop : Tier.logic.joins op.kind) : (Phrase.join l op r hop).ReadsLogic call site := by
  intro ends rest hrest
  refine ⟨true, ?_⟩
  rw [Phrase.render, List.append_assoc, List.cons_append]
  -- The flag that the left part leaves does not matter to a logical operator.
  obtain ⟨compared, hfront⟩ := hl ends (op :: (r.render ++ rest))
    (Tier.stops_cons.2 (Tier.not_continues_below_of_joins hop))
  have hk : op.kind.isArithmetic = false ∧ op.kind.isRelational = false ∧ op.kind.isLogical := by
    revert hop
    cases op.kind <;>
      simp [Tier.joins, Kind.isArithmetic, Kind.isRelational, Kind.isLogical]
  refine (hfront.congr fun v => ?_).link (hr ends rest hrest)
    (Tier.operator_of_joins hop) (loop_binary true).inert
  rw [bare_binary_cons, hk.1, hk.2.1, hk.2.2]
  rfl

/-! ### Whole expressions -/

theorem Phrase.ReadsLogic.obeys {x : Expression} (hx : x.ReadsLogic call site) :
    Obeys x.render (x.value call site) (evaluate call site x.render) := by
  intro st
  obtain ⟨compared, hreads⟩ := hx (Token.endOffset x.render) [] (Tier.stops_nil _)
  rw [List.append_nil] at hreads
  have hst := hreads st
  rw [evaluate_eq, ← bind_assoc]
  cases hv : (x.value call site).run st with
  | error s mid =>
    rw [hv] at hst
    exact Eval.bind_of_error hst
  | ok r mid =>
    rw [hv] at hst
    cases r with
    | ok v =>
      -- No token is left, so the loop hands the value back.
      have hst : _ = (binary call site _ compared v []).bare mid := hst
      rw [bare_binary_nil] at hst
      exact Eval.bind_of_ok hst
    | error opener =>
      rcases hst with ⟨ho, hmem, v, tail, hst⟩ | ⟨f, hst, hf⟩
      · -- All operators have been applied, and the parenthesis is left over.
        obtain ⟨before, after, htokens⟩ := List.append_of_mem hmem
        exact ⟨_, Eval.bind_of_ok hst, before, after, htokens, ho, .inl rfl⟩
      · exact ⟨f, Eval.bind_of_error hst, hf⟩

section

variable {x : Expression} (hx : Obeys x.render (x.value call site) (evaluate call site x.render))
include hx

theorem Arguments.obeys_last (name : Token) :
    Obeys (Arguments.last x).render ((Arguments.last x).values call site)
      (arguments call site name (Arguments.last x).render) := by
  have hcut := Bracket.cutArgument_self x.selfContained.uncut
  obtain ⟨u, us, hcons, -⟩ := x.render_eq_cons
  have hobeys : Obeys x.render ((Arguments.last x).values call site)
      (do let v ← evaluate call site x.render; pure [v]) := hx.bind fun v => Obeys.pure [v]
  rw [Arguments.render, arguments_eq, hcut]
  rw [hcons] at hobeys ⊢
  exact hobeys

theorem Arguments.obeys_more {rest : Arguments}
    (hrest : ∀ name, Obeys rest.render (rest.values call site)
      (arguments call site name rest.render)) (comma : Token) (hc : comma.kind = .comma)
    (name : Token) :
    Obeys (Arguments.more x comma rest hc).render
      ((Arguments.more x comma rest hc).values call site)
      (arguments call site name (Arguments.more x comma rest hc).render) := by
  -- The first comma outside parentheses is the one behind the first argument.
  have hcut : Bracket.cutArgument (x.render ++ comma :: rest.render)
      = (x.render, some rest.render) := Bracket.cutArgument_of_uncut x.selfContained.uncut hc
  obtain ⟨u, us, hcons, -⟩ := x.render_eq_cons
  have hobeys : Obeys (x.render ++ comma :: rest.render)
      ((Arguments.more x comma rest hc).values call site)
      (do let v ← evaluate call site x.render
          let vs ← arguments call site name rest.render
          pure (v :: vs)) := by
    refine (hx.mono (List.prefix_append _ _).isInfix).bind fun v => ?_
    refine ((hrest name).mono ?_).bind fun vs => Obeys.pure (v :: vs)
    exact ((List.suffix_cons comma _).trans (List.suffix_append x.render _)).isInfix
  rw [Arguments.render, arguments_eq, hcut]
  rw [hcons] at hobeys ⊢
  exact hobeys

end

variable (call site) in
/-- What the readers do on the tokens of a phrase of a tier. -/
def Phrase.Readable : {tier : Tier} → Phrase tier → Prop
  | .operand, x => x.ReadsOperand call site
  | .product, x => x.ReadsChain call site 1
  | .sum, x => x.ReadsChain call site 0
  | .comparison, x => x.ReadsComparison call site ∧ x.ReadsLogic call site
  | .logic, x => x.ReadsLogic call site

end

mutual

theorem Phrase.readable (call : Caller) (site : Site) :
    {tier : Tier} → (x : Phrase tier) → x.Readable call site
  | _, .literal t ht => Phrase.readsOperand_literal t ht
  | _, .constant t ht => Phrase.readsOperand_constant t ht
  | _, .name t ht => Phrase.readsOperand_name t ht
  | _, .bareCall t opener closer ht ho hc => Phrase.readsOperand_bareCall t opener closer ht ho hc
  | _, .call t opener args closer ht ho hc =>
    Phrase.readsOperand_call (args.obeys call site) t opener closer ht ho hc
  | _, .group opener inner closer ho hc =>
    Phrase.readsOperand_group (Phrase.ReadsLogic.obeys (inner.readable call site))
      opener closer ho hc
  | _, .negative sign x hs => Phrase.ReadsOperand.negative (x.readable call site) sign hs
  | _, .negation sign x hs => Phrase.ReadsOperand.negation (x.readable call site) sign hs
  -- A comparison is read in two places: as the first term of a logical chain, and by itself
  -- on the right side of a logical operator.
  | .logic, .lift x hn => Phrase.ReadsLogic.lift_logic (x.readable call site).2 hn
  | .comparison, .lift x hn =>
    ⟨Phrase.ReadsChain.readsComparison (x.readable call site) hn,
      Phrase.ReadsChain.lift_comparison (x.readable call site) hn⟩
  | .sum, .lift x hn => Phrase.ReadsChain.lift_sum (x.readable call site) hn
  | .product, .lift x hn => Phrase.ReadsOperand.lift_product (x.readable call site) hn
  | .operand, .lift _ hn => absurd rfl hn
  | .logic, .join l _ r hop =>
    Phrase.ReadsLogic.join (l.readable call site) (r.readable call site).1 hop
  | .sum, .join l _ r hop =>
    Phrase.ReadsChain.join_sum (l.readable call site) (r.readable call site) hop
  | .product, .join l _ r hop =>
    Phrase.ReadsChain.join_product (l.readable call site) (r.readable call site) hop
  | _, .compare l _ r hop =>
    ⟨Phrase.readsComparison_compare (l.readable call site) (r.readable call site) hop,
      Phrase.readsLogic_compare (l.readable call site) (r.readable call site) hop⟩

theorem Arguments.obeys (call : Caller) (site : Site) : (args : Arguments) → (name : Token) →
    Obeys args.render (args.values call site) (arguments call site name args.render)
  | .last x, name =>
    Arguments.obeys_last (Phrase.ReadsLogic.obeys (x.readable call site)) name
  | .more x comma rest hc, name =>
    Arguments.obeys_more (Phrase.ReadsLogic.obeys (x.readable call site))
      (rest.obeys call site) comma hc name

end

/-- **The evaluator follows the tree**: on the tokens of an expression it ends as the
tree does, except that it refuses where the tree comes to rest. -/
theorem evaluate_render (call : Caller) (site : Site) (x : Expression) :
    Obeys x.render (x.value call site) (evaluate call site x.render) :=
  Phrase.ReadsLogic.obeys (x.readable call site)

end Quartz
