import Quartz.Proofs.Expression.Reader
import Quartz.Proofs.Expression.Unambiguous
import Quartz.Proofs.Token.Bracket

/-!
# `Quartz.Proofs.Expression.Lookahead`: how far the readers of expressions look

A reader of expressions takes tokens off the front and hands back the rest. It looks at one
token behind what it takes and no further: that token tells it where to stop, and whatever
stands behind that token makes no difference. A reader that came to the end of its tokens stops
there too if a token follows that does not go on with an expression (`Reader.Meets`).
`Reader.Local` says both of a reader.

The notion is kept when one reader goes on where another one stopped (`Local.andThen`) and
when a token is taken first (`Local.behind`). The readers are put together in these two ways,
so `local_operand`, `local_term` and `local_binary` follow by induction on the number of
tokens.

A token list can therefore be cut behind any token that a reader did not take, and the tokens
in front of the cut are read as before.
-/

set_option autoImplicit false

namespace Quartz

variable {ts rest : List Token} {v : Value} {m : State.Meaning} {st st' : State} {t : Token}

/-- A reader of tokens, with the offset at which it points if there are too few. -/
abbrev Reader := Int → List Token → Eval (Value × List Token)

namespace Reader

/-- A token at which a reader stops that has left `rest`: the first token that it left, or, if
it left none, a token that does not go on with an expression. -/
inductive Meets : List Token → Token → Prop
  | first {t : Token} {tail : List Token} : Meets (t :: tail) t
  | none {t : Token} (ht : Tier.logic.continues t.kind = false) : Meets [] t

/-- A token that does not go on with an expression is no operator between two values, and opens
no parenthesis. -/
theorem plain_of_continues {k : Kind} (h : Tier.logic.continues k = false) :
    k.isArithmetic = false ∧ k.isRelational = false ∧ k.isLogical = false ∧ k ≠ .leftParen := by
  simp only [Tier.continues, Bool.or_eq_false_iff, decide_eq_false_iff_not] at h
  exact ⟨h.1.2, h.1.1.2, h.1.1.1, h.2⟩

/-- A reader takes the tokens in front of `rest` again, in front of any token at which it stops
and whatever follows that token. -/
def Again (read : Reader) (ts rest : List Token) (v : Value) (st st' : State) : Prop :=
  ∃ used, ts = used ++ rest ∧
    ∀ t, Meets rest t → ∀ (ends' : Int) (more : List Token),
      read ends' (used ++ t :: more) st = .ok (v, t :: more) st'

/-- What a reader takes off at most `n` tokens does not depend on what follows the token at
which it stops, nor on the offset that it would point at. -/
def Local (n : Nat) (read : Reader) : Prop :=
  ∀ (ends : Int) (ts : List Token) (st : State) (v : Value) (rest : List Token) (st' : State),
    ts.length ≤ n → read ends ts st = .ok (v, rest) st' → read.Again ts rest v st st'

namespace Local

variable {n : Nat} {read : Reader}

/-- A reader that takes nothing. -/
theorem pure (n : Nat) (v : Value) : Local n fun _ ts => Pure.pure (v, ts) := by
  intro ends ts st u rest st' _ h
  cases h
  exact ⟨[], rfl, fun t _ ends' more => rfl⟩

/-- A reader goes on where another one stopped. -/
theorem andThen {next : Value → Reader} (hread : Local n read) (hnext : ∀ v, Local n (next v)) :
    Local n fun ends ts => read ends ts >>= fun p => next p.1 ends p.2 := by
  intro ends ts st v rest st' hlen h
  obtain ⟨⟨u, middle⟩, mid, hfirst, hsecond⟩ := Eval.bind_eq_ok.1 h
  obtain ⟨used, hts, hagain⟩ := hread ends ts st u middle mid hlen hfirst
  have hmiddle : middle.length ≤ n := by
    rw [hts, List.length_append] at hlen
    omega
  obtain ⟨used', hused', hagain'⟩ := hnext u ends middle mid v rest st' hmiddle hsecond
  refine ⟨used ++ used', by rw [hts, hused', List.append_assoc], ?_⟩
  intro t ht ends' more
  subst hused'
  -- The first reader stopped at the first token that the second one took, or at `t` itself.
  have hstart : read ends' (used ++ (used' ++ t :: more)) st = .ok (u, used' ++ t :: more) mid := by
    cases used' with
    | nil => exact hagain t ht ends' more
    | cons w used' => exact hagain w .first ends' (used' ++ t :: more)
  rw [List.append_assoc]
  exact (Eval.bind_of_ok hstart).trans (hagain' t ht ends' more)

/-- A step without tokens in front of a reader. -/
theorem afterStep {α : Type} {x : Eval α} {next : α → Reader} (hnext : ∀ a, Local n (next a)) :
    Local n fun ends ts => x >>= fun a => next a ends ts := by
  intro ends ts st v rest st' hlen h
  obtain ⟨a, mid, hx, hread⟩ := Eval.bind_eq_ok.1 h
  obtain ⟨used, hts, hagain⟩ := hnext a ends ts mid v rest st' hlen hread
  refine ⟨used, hts, ?_⟩
  intro t ht ends' more
  exact (Eval.bind_of_ok hx).trans (hagain t ht ends' more)

/-- A step without tokens behind a reader. -/
theorem thenStep {g : Value → Eval Value} (hread : Local n read) :
    Local n fun ends ts => read ends ts >>= fun p => g p.1 >>= fun v => Pure.pure (v, p.2) :=
  hread.andThen fun u => afterStep (x := g u) fun v => pure n v

/-- A reader that takes a token and goes on with the others. -/
theorem behind (read : Reader) {ends : Int} {o : Token} {tailRead : Reader}
    (htail : Local n tailRead) (hread : ∀ ends' ts', read ends' (o :: ts') = tailRead ends' ts')
    (hlen : ts.length ≤ n) (h : read ends (o :: ts) st = .ok (v, rest) st') :
    read.Again (o :: ts) rest v st st' := by
  rw [hread] at h
  obtain ⟨used, hts, hagain⟩ := htail ends ts st v rest st' hlen h
  refine ⟨o :: used, by rw [hts, List.cons_append], ?_⟩
  intro t ht ends' more
  rw [List.cons_append, hread]
  exact hagain t ht ends' more

/-- A reader that stops at the first of the tokens takes none of them. It stops at every token
that does not go on with an expression. -/
theorem stopped (read : Reader) (stops : Token → Prop) (st : State)
    (hread : ∀ (ends : Int) (t : Token) (more : List Token), stops t →
      read ends (t :: more) = Pure.pure (v, t :: more))
    (hends : ∀ t : Token, Tier.logic.continues t.kind = false → stops t)
    (hts : ∀ t ∈ ts.head?, stops t) : read.Again ts ts v st st := by
  refine ⟨[], rfl, fun t ht ends' more => ?_⟩
  have hstops : stops t := by
    cases ht with
    | first => exact hts t rfl
    | none hkind => exact hends t hkind
  rw [List.nil_append, hread ends' t more hstops]
  rfl

end Local

end Reader

open Reader

section

variable (call : Caller) (site : Site)

/-! ### Operands -/

/-- A name that is not called is a value by itself, whatever follows. -/
theorem readName_of_value (hnot : opensParen ts = false ∨ m.callee? = none)
    (hv : m.value? = some v) : readName call site t ts m = pure (v, ts) := by
  rcases hnot with hopens | hcallee
  · simp only [readName, hopens, hv]
  · cases hopens : opensParen ts <;> simp only [readName, hopens, hcallee, hv]

/-- A name that means nothing is no operand. -/
theorem readName_ne_ok {p : Value × List Token} (hv : m.value? = none) :
    readName call site t ts m st ≠ .ok p st' := by
  have hm : m = .unknown := by cases m <;> first | rfl | cases hv
  cases hopens : opensParen ts <;>
    simp [readName, hopens, hm, State.Meaning.callee?, State.Meaning.value?]

/-- A call takes the tokens from its opening parenthesis to its closing one. -/
theorem readName_of_callee {f : FunctionId} (hopens : opensParen ts = true)
    (hcallee : m.callee? = some f) (h : readName call site t ts m st = .ok (v, rest) st') :
    ∃ used, ts = used ++ rest ∧
      ∀ more, readName call site t (used ++ more) m st = .ok (v, more) st' := by
  simp only [readName, hopens, hcallee, bare_application] at h
  cases hcut : Bracket.enclosed? ts with
  | none =>
    rw [hcut] at h
    cases h
  | some cut =>
    obtain ⟨inner, after⟩ := cut
    simp only [hcut] at h
    obtain ⟨args, mid, hargs, h⟩ := Eval.bind_eq_ok.1 h
    obtain ⟨value, mid', hcall, h⟩ := Eval.bind_eq_ok.1 h
    cases h
    obtain ⟨used, hused, hagain⟩ := Bracket.enclosed?_append hcut
    refine ⟨used, hused, ?_⟩
    intro more
    have hopens' : opensParen (used ++ more) = true := by
      cases used with
      | nil =>
        have hlen := Bracket.length_of_enclosed? hcut
        rw [hused, List.nil_append] at hlen
        omega
      | cons o used =>
        rw [hused, List.cons_append] at hopens
        exact hopens
    simp only [readName, hopens', hcallee, bare_application, hagain more]
    rw [Eval.bind_of_ok hargs, Eval.bind_of_ok hcall]
    rfl

/-- A name takes the arguments behind it, or nothing. -/
theorem local_readName (h : readName call site t ts m st = .ok (v, rest) st') :
    ∃ used, ts = used ++ rest ∧ ∀ u, Meets rest u → ∀ more,
      readName call site t (used ++ u :: more) m st = .ok (v, u :: more) st' := by
  -- The token behind a name is only asked whether it opens a call.
  have hplain : (opensParen ts = false ∨ m.callee? = none) →
      ∃ used, ts = used ++ rest ∧ ∀ u, Meets rest u → ∀ more,
        readName call site t (used ++ u :: more) m st = .ok (v, u :: more) st' := by
    intro hnot
    cases hvalue : m.value? with
    | none => exact absurd h (readName_ne_ok call site hvalue)
    | some value =>
      rw [readName_of_value call site hnot hvalue] at h
      cases h
      refine ⟨[], rfl, ?_⟩
      intro u hu more
      have hnot' : opensParen (u :: more) = false ∨ m.callee? = none := by
        cases hu with
        | first => exact hnot
        | none hends => exact .inl (decide_eq_false (plain_of_continues hends).2.2.2)
      rw [List.nil_append, readName_of_value call site hnot' hvalue]
      rfl
  cases hopens : opensParen ts with
  | false => exact hplain (.inl hopens)
  | true =>
    cases hcallee : m.callee? with
    | none => exact hplain (.inr hcallee)
    | some f =>
      obtain ⟨used, hused, hagain⟩ := readName_of_callee call site hopens hcallee h
      exact ⟨used, hused, fun u _ more => hagain (u :: more)⟩

theorem local_operand (n : Nat) :
    Local n fun ends ts => (operand call site ends ts).bare := by
  induction n with
  | zero =>
    intro ends ts st v rest st' hlen h
    dsimp only at h ⊢
    rw [List.eq_nil_of_length_eq_zero (Nat.le_zero.1 hlen), bare_operand_nil] at h
    cases h
  | succ n ih =>
    intro ends ts st v rest st' hlen h
    dsimp only at h ⊢
    cases ts with
    | nil =>
      rw [bare_operand_nil] at h
      cases h
    | cons o ts =>
      have hts : ts.length ≤ n := by simpa using hlen
      -- A token that is a value by itself.
      have hsingle : ∀ u, (∀ ends' ts', (operand call site ends' (o :: ts')).bare =
          (Pure.pure (u, ts') : Eval (Value × List Token))) →
          Again (fun ends ts => (operand call site ends ts).bare) (o :: ts) rest v st st' :=
        fun u hread => Local.behind (fun ends ts => (operand call site ends ts).bare)
          (Local.pure n u) hread hts h
      cases hkind : o.kind with
      | number => exact hsingle _ fun _ ts' => bare_operand_literal _ _ _ ts' (.inl hkind)
      | string => exact hsingle _ fun _ ts' => bare_operand_literal _ _ _ ts' (.inr hkind)
      | keyword =>
        cases hconstant : constant? o with
        | some u =>
          apply hsingle u
          intro ends' ts'
          rw [bare_operand_keyword _ _ _ ts' hkind, hconstant]
        | none =>
          rw [bare_operand_keyword _ _ _ ts hkind, hconstant] at h
          cases h
      | ident =>
        simp only [bare_operand_cons, hkind, Eval.get_bind_apply] at h
        obtain ⟨used, hused, hagain⟩ := local_readName call site h
        refine ⟨o :: used, by rw [hused, List.cons_append], ?_⟩
        intro t ht ends' more
        simp only [List.cons_append, bare_operand_cons, hkind, Eval.get_bind_apply]
        exact hagain t ht more
      | leftParen =>
        rw [bare_operand_leftParen _ _ _ ts hkind] at h
        split at h
        · cases h
        · cases h
        · next inner after hne hcut =>
            obtain ⟨u, mid, hinner, h⟩ := Eval.bind_eq_ok.1 h
            cases h
            obtain ⟨used, hused, hagain⟩ := Bracket.enclosed?_append hcut
            refine ⟨used, hused, ?_⟩
            intro t _ ends' more
            have hcut' := hagain (t :: more)
            -- The group starts with the parenthesis, so it still does.
            cases used with
            | nil =>
              have hlen' := Bracket.length_of_enclosed? hcut
              rw [hused, List.nil_append] at hlen'
              omega
            | cons w used =>
              rw [List.cons_append] at hused hcut' ⊢
              cases hused
              simp only [bare_operand_leftParen _ _ _ _ hkind, hcut']
              rw [Eval.bind_of_ok hinner]
              rfl
      | minus =>
        exact Local.behind (fun ends ts => (operand call site ends ts).bare)
          (ih.thenStep (g := negate o))
          (fun ends' ts' => bare_operand_minus _ _ ends' ts' hkind) hts h
      | not =>
        exact Local.behind (fun ends ts => (operand call site ends ts).bare)
          (ih.thenStep (g := fun u => Eval.ofOperator o.offset (u.applyUnary .not)))
          (fun ends' ts' => bare_operand_not _ _ ends' ts' hkind) hts h
      | _ =>
        simp only [bare_operand_cons, hkind] at h
        cases h

/-! ### Operators -/

/-- An operator that takes a right side, is applied, and hands on to what follows. -/
theorem Reader.Local.turn {n : Nat} {read : Reader} {next : Value → Reader} (op : Token)
    (left : Value) (hread : Local n read) (hnext : ∀ v, Local n (next v)) :
    Local n fun ends ts => read ends ts >>= fun p =>
      combine op left p.1 >>= fun v => next v ends p.2 :=
  hread.andThen fun u => .afterStep (x := combine op left u) hnext

/-- A token that is not folded in ends the loop of arithmetic operators. -/
theorem again_reduce (floor : Nat) (left : Value) (st : State)
    (hts : ∀ t ∈ ts.head?, ¬ (t.kind.isArithmetic && decide (floor < t.kind.priority)) = true) :
    Again (fun ends ts => (reduce call site ends floor left ts).bare) ts ts left st st := by
  apply Local.stopped _
    (fun t => ¬ (t.kind.isArithmetic && decide (floor < t.kind.priority)) = true) st _ _ hts
  · intro ends t more ht
    rw [bare_reduce_cons, if_neg ht]
  · intro t ht
    simp [(plain_of_continues ht).1]

theorem local_reduce (n floor : Nat) (left : Value) :
    Local n fun ends ts => (reduce call site ends floor left ts).bare := by
  induction n generalizing floor left with
  | zero =>
    intro ends ts st v rest st' hlen h
    cases List.eq_nil_of_length_eq_zero (Nat.le_zero.1 hlen)
    dsimp only at h
    rw [bare_reduce_nil] at h
    cases h
    exact again_reduce call site floor left st (by simp)
  | succ n ih =>
    intro ends ts st v rest st' hlen h
    dsimp only at h
    cases ts with
    | nil =>
      rw [bare_reduce_nil] at h
      cases h
      exact again_reduce call site floor left st (by simp)
    | cons op ts =>
      have hts : ts.length ≤ n := by simpa using hlen
      by_cases hop : (op.kind.isArithmetic && decide (floor < op.kind.priority)) = true
      · -- The right side is a term, which is the loop again above another floor.
        have hterm : Local n fun ends ts => (term call site ends op.kind.priority ts).bare := by
          simp only [bare_term]
          exact (local_operand call site n).andThen fun u => ih op.kind.priority u
        apply Local.behind (fun ends ts => (reduce call site ends floor left ts).bare)
          (hterm.turn op left fun u => ih floor u) _ hts h
        intro ends' ts'
        show (reduce call site ends' floor left (op :: ts')).bare = _
        rw [bare_reduce_cons, if_pos hop]
      · rw [bare_reduce_cons, if_neg hop] at h
        cases h
        exact again_reduce call site floor left st (by simpa using hop)

theorem local_term (n floor : Nat) :
    Local n fun ends ts => (term call site ends floor ts).bare := by
  simp only [bare_term]
  exact (local_operand call site n).andThen fun u => local_reduce call site n floor u

/-- A token that is no comparison is not compared. -/
theorem again_compareOnce (u : Value) (st : State)
    (hts : ∀ t ∈ ts.head?, ¬ t.kind.isRelational = true) :
    Again (fun ends ts => compareOnce call site ends u ts) ts ts u st st := by
  apply Local.stopped _ (fun t => ¬ t.kind.isRelational = true) st _ _ hts
  · intro ends t more ht
    rw [compareOnce, if_neg ht]
  · intro t ht
    simp [(plain_of_continues ht).2.1]

theorem local_comparison (n : Nat) :
    Local n fun ends ts => (comparison call site ends ts).bare := by
  simp only [bare_comparison]
  suffices hcompare : ∀ u, Local n fun ends ts => compareOnce call site ends u ts from
    (local_term call site n 0).andThen hcompare
  intro u ends ts st v rest st' hlen h
  dsimp only at h
  cases ts with
  | nil =>
    cases h
    exact again_compareOnce call site u st (by simp)
  | cons op ts =>
    have hts : ts.length ≤ n := by
      rw [List.length_cons] at hlen
      omega
    by_cases hop : op.kind.isRelational = true
    · apply Local.behind (fun ends ts => compareOnce call site ends u ts)
        ((local_term call site n 0).turn op u fun w => .pure n w) _ hts h
      intro ends' ts'
      show compareOnce call site ends' u (op :: ts') = _
      rw [compareOnce, if_pos hop]
    · rw [compareOnce, if_neg hop] at h
      cases h
      exact again_compareOnce call site u st (by simpa using hop)

/-- A token that is no operator between two values ends an expression, and is looked at for
nothing else. -/
theorem again_binary (compared : Bool) (left : Value) (st : State)
    (hts : ∀ t ∈ ts.head?, ¬ t.kind.isArithmetic = true ∧ ¬ t.kind.isRelational = true ∧
      ¬ t.kind.isLogical = true) :
    Again (fun ends ts => (binary call site ends compared left ts).bare) ts ts left st st := by
  apply Local.stopped _ (fun t => ¬ t.kind.isArithmetic = true ∧ ¬ t.kind.isRelational = true ∧
    ¬ t.kind.isLogical = true) st _ _ hts
  · rintro ends t more ⟨harith, hrel, hlog⟩
    rw [bare_binary_cons, if_neg harith, if_neg hrel, if_neg hlog]
  · intro t ht
    obtain ⟨harith, hrel, hlog, -⟩ := plain_of_continues ht
    simp [harith, hrel, hlog]

theorem local_binary (n : Nat) (compared : Bool) (left : Value) :
    Local n fun ends ts => (binary call site ends compared left ts).bare := by
  induction n generalizing compared left with
  | zero =>
    intro ends ts st v rest st' hlen h
    cases List.eq_nil_of_length_eq_zero (Nat.le_zero.1 hlen)
    dsimp only at h
    rw [bare_binary_nil] at h
    cases h
    exact again_binary call site compared left st (by simp)
  | succ n ih =>
    intro ends ts st v rest st' hlen h
    dsimp only at h
    cases ts with
    | nil =>
      rw [bare_binary_nil] at h
      cases h
      exact again_binary call site compared left st (by simp)
    | cons op ts =>
      have hts : ts.length ≤ n := by simpa using hlen
      by_cases harith : op.kind.isArithmetic = true
      · apply Local.behind (fun ends ts => (binary call site ends compared left ts).bare)
          ((local_term call site n op.kind.priority).turn op left fun u => ih compared u)
          _ hts h
        intro ends' ts'
        show (binary call site ends' compared left (op :: ts')).bare = _
        rw [bare_binary_cons, if_pos harith]
      by_cases hrel : op.kind.isRelational = true
      · cases compared with
        | true =>
          rw [bare_binary_cons, if_neg harith, if_pos hrel, if_pos rfl] at h
          cases h
        | false =>
          apply Local.behind (fun ends ts => (binary call site ends false left ts).bare)
            ((local_term call site n 0).turn op left fun u => ih true u) _ hts h
          intro ends' ts'
          show (binary call site ends' false left (op :: ts')).bare = _
          rw [bare_binary_cons, if_neg harith, if_pos hrel, if_neg (by simp)]
      by_cases hlog : op.kind.isLogical = true
      · apply Local.behind (fun ends ts => (binary call site ends compared left ts).bare)
          ((local_comparison call site n).turn op left fun u => ih true u) _ hts h
        intro ends' ts'
        show (binary call site ends' compared left (op :: ts')).bare = _
        rw [bare_binary_cons, if_neg harith, if_neg hrel, if_pos hlog]
      rw [bare_binary_cons, if_neg harith, if_neg hrel, if_neg hlog] at h
      cases h
      exact again_binary call site compared left st (by simp [harith, hrel, hlog])

/-- The operand at the front and the operators behind it. -/
def phrase (ends : Int) (ts : List Token) : Eval (Value × List Token) := do
  let p ← (operand call site ends ts).bare
  (binary call site ends false p.1 p.2).bare

theorem local_phrase (n : Nat) : Local n (phrase call site) :=
  (local_operand call site n).andThen fun u => local_binary call site n false u

end

end Quartz
