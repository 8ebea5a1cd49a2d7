import Quartz.Proofs.Declaration
import Quartz.Proofs.Eval.Statement
import Quartz.Proofs.Expression.Lookahead

/-!
# `Quartz.Proofs.Eval.Sequence`: statements in a row

A run that comes to the end of its tokens goes on with the tokens that follow, from where it was.
A run that has returned, or has met the token that ends a source, does not look at them any more.
`Resumed` has these two cases, and `resumed_run` says that there are no others.

Two things could join the halves: tokens that go on with an expression or make an assignment of it,
and an `else` behind the body of an `if`. `Flow.Precedes` rules them out: an `else` altogether, and
the others where the first half leaves a value pending. Where it leaves none, it has read whole
statements, and all tokens but an `else` may follow (`run_append`).

Inside a statement the readers look ahead: for a semicolon, for a closing bracket, for an
operator. What they found in the first half they find again, since nothing that they looked at
has changed. `Reader.Local` says so for expressions and `Declaration.Reads` for declarations.
-/

set_option autoImplicit false

namespace Quartz

variable {st st' : State} {ts more : List Token} {m : State.Meaning} {v : Value}

/-- Two runs that have come to the same point go on alike. -/
theorem Eval.bind_congr_from {α β : Type} {x y : Eval α} {f : α → Eval β} (h : x st = y st') :
    (x >>= f) st = (y >>= f) st' := by
  show EStateM.bind x f st = EStateM.bind y f st'
  simp only [EStateM.bind, h]

/-- What a reader leaves is shorter than its bound. -/
theorem Eval.length_of_bare {n : Nat} {x : Eval (Reading n)} {rest : List Token}
    (h : x.bare st = .ok (v, rest) st') : rest.length < n := by
  unfold Eval.bare at h
  rw [map_eq_pure_bind] at h
  obtain ⟨r, mid, _, hr⟩ := Eval.bind_eq_ok.1 h
  cases hr
  exact r.shorter

theorem length_of_phrase {call : Caller} {site : Site} {ends : Int} {rest : List Token}
    (h : phrase call site ends ts st = .ok (v, rest) st') : rest.length < ts.length := by
  obtain ⟨⟨u, middle⟩, mid, hoperand, hbinary⟩ := Eval.bind_eq_ok.1 h
  have hfirst := Eval.length_of_bare hoperand
  have hsecond := Eval.length_of_bare hbinary
  dsimp only at hsecond
  omega

/-- An expression as a statement, read in one go. -/
theorem expression_eq_phrase (call : Caller) (site : Site) (shadow : Bool) (ends : Int)
    (p : Progress) (t : Token) (rest : List Token) :
    expression call site shadow ends p t rest = (do
      p.require (.before t.literal) t.offset
      let r ← phrase call site ends (t :: rest)
      run call site shadow ends { p with pending := some r.1 } r.2) := by
  rw [expression_eq]
  simp only [phrase, bind_assoc]

/-- The value that is pending where statements end. A `return` leaves none. -/
def Flow.pending? : Flow → Option Value
  | .finished p => p.pending
  | .returned _ _ => none

/-- Tokens that may follow a run with this end, and have no part in it. They do not start with an
`else`, which would belong to the last `if`. Where a value is pending, they start with a token that
neither goes on with its expression nor assigns to it. -/
structure Flow.Precedes (flow : Flow) (more : List Token) : Prop where
  noElse : opensAlternative more = false
  separate : flow.pending?.isSome = true →
    ∃ t tail, more = t :: tail ∧ Tier.logic.continues t.kind = false ∧ t.kind ≠ .assign

section

variable {call : Caller} {site : Site} {shadow : Bool} {ends : Int} {n : Nat}

variable (call site shadow) in
/-- What becomes of a run of `ts` from its end on, if other tokens follow. It is over, because it
returned or met the token that ends a source, or it goes on with these tokens. -/
inductive Resumed (ts : List Token) (st' : State) :
    Flow → (Int → List Token → EStateM.Result Stop State Flow) → Prop
  | ended {flow : Flow} {x : Int → List Token → EStateM.Result Stop State Flow}
      (hend : (∃ v offset, flow = .returned v offset) ∨ ∃ t ∈ ts, t.kind = .eof)
      (hx : ∀ ends' more, flow.Precedes more → x ends' more = .ok flow st') :
      Resumed ts st' flow x
  | onward {q : Progress} {x : Int → List Token → EStateM.Result Stop State Flow}
      (hx : ∀ ends' more, (Flow.finished q).Precedes more →
        x ends' more = run call site shadow ends' q more st') :
      Resumed ts st' (.finished q) x

variable (call site shadow ends) in
/-- Runs of at most `n` tokens are resumed or over if other tokens follow. -/
def Resumes (n : Nat) : Prop :=
  ∀ (p : Progress) (ts : List Token) (flow : Flow) (st st' : State), ts.length ≤ n →
    run call site shadow ends p ts st = .ok flow st' →
    Resumed call site shadow ts st' flow fun ends' more =>
      run call site shadow ends' p (ts ++ more) st

namespace Resumed

variable {ts ts' : List Token} {st' : State} {flow : Flow}
  {x y : Int → List Token → EStateM.Result Stop State Flow}

/-- A run that comes to where another one starts ends as that one does. -/
theorem congr (h : Resumed call site shadow ts st' flow x) (hts : ts ⊆ ts')
    (hxy : ∀ ends' more, flow.Precedes more → y ends' more = x ends' more) :
    Resumed call site shadow ts' st' flow y := by
  cases h with
  | ended hend hx =>
    refine .ended (hend.imp_right ?_) fun ends' more hmore => ?_
    · rintro ⟨t, ht, heof⟩
      exact ⟨t, hts ht, heof⟩
    · rw [hxy ends' more hmore, hx ends' more hmore]
  | onward hx =>
    refine .onward fun ends' more hmore => ?_
    rw [hxy ends' more hmore, hx ends' more hmore]

end Resumed

/-- Behind a pending value stands a token of the first half, or a token that does not go on with
the expression. -/
theorem Flow.Precedes.meets {flow : Flow} (hmore : flow.Precedes more) {p : Progress}
    {after : List Token}
    (h : run call site shadow ends { p with pending := some v } after st = .ok flow st') :
    ∃ t tail, after ++ more = t :: tail ∧ Reader.Meets after t := by
  cases after with
  | cons t tail => exact ⟨t, tail ++ more, rfl, .first⟩
  | nil =>
    rw [run_nil] at h
    cases h
    obtain ⟨t, tail, hmore, ht, -⟩ := hmore.separate rfl
    exact ⟨t, tail, hmore, .none ht⟩

namespace Resumes

variable {p : Progress} {flow : Flow} {t : Token} {rest : List Token} {st st' : State}

theorem expression (hn : Resumes call site shadow ends n) (hlen : rest.length ≤ n)
    (h : expression call site shadow ends p t rest st = .ok flow st') :
    Resumed call site shadow (t :: rest) st' flow fun ends' more =>
      Quartz.expression call site shadow ends' p t (rest ++ more) st := by
  rw [expression_eq_phrase] at h
  obtain ⟨_, mid, hreq, h⟩ := Eval.bind_eq_ok.1 h
  obtain ⟨⟨v, after⟩, mid', hphrase, h⟩ := Eval.bind_eq_ok.1 h
  have hshort := length_of_phrase hphrase
  rw [List.length_cons] at hshort
  obtain ⟨used, hused, hagain⟩ := local_phrase call site (t :: rest).length ends (t :: rest) mid v
    after mid' (Nat.le_refl _) hphrase
  have hsub : after ⊆ t :: rest := hused ▸ List.subset_append_right used after
  refine (hn _ after flow mid' st' (by omega) h).congr hsub fun ends' more hmore => ?_
  -- The expression ends where it ended before.
  obtain ⟨u, tail, hafter, hmeets⟩ := hmore.meets h
  have hphrase' := hagain u hmeets ends' tail
  rw [← hafter, ← List.append_assoc, ← hused] at hphrase'
  rw [expression_eq_phrase, Eval.bind_of_ok hreq]
  exact Eval.bind_of_ok hphrase'

theorem assignment (hn : Resumes call site shadow ends n) (hlen : rest.length ≤ n)
    (hsign : opensAssignment rest = true)
    (h : assignment call site shadow ends p t rest st = .ok flow st') :
    Resumed call site shadow rest st' flow fun ends' more =>
      Quartz.assignment call site shadow ends' p t (rest ++ more) st := by
  cases rest with
  | nil => cases hsign
  | cons sign tail =>
    unfold Quartz.assignment at h
    dsimp only at h
    obtain ⟨_, mid, hreq, h⟩ := Eval.bind_eq_ok.1 h
    cases hcut : Bracket.terminated? tail with
    | none =>
      rw [hcut] at h
      cases h
    | some cut =>
      obtain ⟨right, after⟩ := cut
      have hlen' := Bracket.length_of_terminated? hcut
      obtain ⟨semicolon, hkind, htail, hfree⟩ := Bracket.terminated?_eq_some_iff.1 hcut
      rw [hcut] at h
      cases right with
      | nil => cases h
      | cons w right =>
        obtain ⟨v, mid', hright, h⟩ := Eval.bind_eq_ok.1 h
        obtain ⟨_, mid'', hstore, h⟩ := Eval.bind_eq_ok.1 h
        rw [List.length_cons] at hlen
        have hsub : after ⊆ sign :: tail :=
          List.subset_cons_of_subset sign (Bracket.subset_of_terminated? hcut).2
        refine (hn _ after flow mid'' st' (by omega) h).congr hsub fun ends' more _ => ?_
        -- The semicolon is found again, so the right side is the same.
        have hcut' : Bracket.terminated? (tail ++ more) = some (w :: right, after ++ more) :=
          Bracket.terminated?_eq_some_iff.2 ⟨semicolon, hkind, by simp [htail], hfree⟩
        simp only [Quartz.assignment, List.cons_append]
        rw [Eval.bind_of_ok hreq, hcut']
        dsimp only
        rw [Eval.bind_of_ok hright, Eval.bind_of_ok hstore]

/-- A name at the very end of the tokens is pending still. -/
theorem mention_nil (h : Quartz.mention call site shadow ends p t [] m st = .ok flow st') :
    flow.pending?.isSome = true := by
  -- Nothing is left behind the name, or behind the expression that it is.
  have hend : ∀ {v : Value} {after : List Token} {mid : State}, after.length < 1 →
      run call site shadow ends { p with pending := some v } after mid = .ok flow st' →
      flow.pending?.isSome = true := by
    intro v after mid hafter h
    rw [List.eq_nil_of_length_eq_zero (Nat.lt_one_iff.1 hafter), run_nil] at h
    cases h
    rfl
  unfold Quartz.mention at h
  split at h
  · rw [expression_eq_phrase] at h
    obtain ⟨_, mid, _, h⟩ := Eval.bind_eq_ok.1 h
    obtain ⟨⟨v, after⟩, mid', hphrase, h⟩ := Eval.bind_eq_ok.1 h
    exact hend (length_of_phrase hphrase) h
  · obtain ⟨_, mid, _, h⟩ := Eval.bind_eq_ok.1 h
    obtain ⟨_, mid', _, h⟩ := Eval.bind_eq_ok.1 h
    obtain ⟨⟨v, after⟩, mid'', hbinary, h⟩ := Eval.bind_eq_ok.1 h
    exact hend (Eval.length_of_bare hbinary) h

/-- Behind a name stands what stood there before, or a token that makes no call and no assignment
of it. -/
theorem mention_front (hmore : flow.Precedes more)
    (h : Quartz.mention call site shadow ends p t rest m st = .ok flow st') :
    opensParen (rest ++ more) = opensParen rest ∧
      opensAssignment (rest ++ more) = opensAssignment rest := by
  cases rest with
  | cons u tail => exact ⟨rfl, rfl⟩
  | nil =>
    obtain ⟨u, tail, rfl, hends, hassign⟩ := hmore.separate (mention_nil h)
    exact ⟨decide_eq_false (Reader.plain_of_continues hends).2.2.2, decide_eq_false hassign⟩

section

variable (hn : Resumes call site shadow ends n)
include hn

theorem mention (hlen : rest.length ≤ n)
    (h : mention call site shadow ends p t rest m st = .ok flow st') :
    Resumed call site shadow (t :: rest) st' flow fun ends' more =>
      Quartz.mention call site shadow ends' p t (rest ++ more) m st := by
  have hfront := fun more (hmore : flow.Precedes more) => (mention_front hmore h).1
  unfold Quartz.mention at h
  by_cases hknown : (m.known || opensParen rest) = true
  · rw [if_pos hknown] at h
    refine (hn.expression hlen h).congr (List.Subset.refl _) fun ends' more hmore => ?_
    rw [Quartz.mention, hfront more hmore, if_pos hknown]
  · rw [if_neg hknown] at h
    obtain ⟨_, mid, hreq, h⟩ := Eval.bind_eq_ok.1 h
    obtain ⟨_, mid', hdeclare, h⟩ := Eval.bind_eq_ok.1 h
    obtain ⟨⟨v, after⟩, mid'', hbinary, h⟩ := Eval.bind_eq_ok.1 h
    have hshort := Eval.length_of_bare hbinary
    obtain ⟨used, hused, hagain⟩ := local_binary call site rest.length false .null ends rest mid' v
      after mid'' (Nat.le_refl _) hbinary
    have hsub : after ⊆ t :: rest :=
      List.subset_cons_of_subset t (hused ▸ List.subset_append_right used after)
    refine (hn _ after flow mid'' st' (by omega) h).congr hsub fun ends' more hmore => ?_
    obtain ⟨u, tail, hafter, hmeets⟩ := hmore.meets h
    have hbinary' := hagain u hmeets ends' tail
    rw [← hafter, ← List.append_assoc, ← hused] at hbinary'
    rw [Quartz.mention, hfront more hmore, if_neg hknown, Eval.bind_of_ok hreq,
      Eval.bind_of_ok hdeclare]
    exact Eval.bind_of_ok hbinary'

/-! ### Chains of `if` and `else` -/

theorem final {last : Option Value} {taken : Bool} (hlen : ts.length ≤ n)
    (h : final call site shadow ends last taken ts st = .ok flow st') :
    Resumed call site shadow ts st' flow fun ends' more =>
      Quartz.final call site shadow ends' last taken (ts ++ more) st := by
  rw [final_eq] at h
  cases hcut : Declaration.bracketed .leftBrace .expectedBrace .unbalancedBrace ends ts with
  | error e =>
    rw [hcut] at h
    cases h
  | ok cut =>
    obtain ⟨body, after⟩ := cut
    have hshort := Declaration.length_of_bracketed hcut
    obtain ⟨used, rfl, hreads⟩ := Declaration.reads_of_bracketed hcut
    rw [hcut] at h
    obtain ⟨bodyFlow, mid, hbody, h⟩ := Eval.bind_eq_ok.1 h
    cases bodyFlow with
    | returned v o =>
      cases h
      refine .ended (.inl ⟨v, o, rfl⟩) fun ends' more _ => ?_
      rw [final_eq, List.append_assoc, hreads ends' (after ++ more)]
      exact (Eval.bind_of_ok hbody).trans rfl
    | finished r =>
      refine (hn _ after flow mid st' (by omega) h).congr (List.subset_append_right used after)
        fun ends' more _ => ?_
      rw [final_eq, List.append_assoc, hreads ends' (after ++ more)]
      exact (Eval.bind_of_ok hbody).trans rfl

theorem conditional {last : Option Value} {taken : Bool} {offset : Int} (hlen : ts.length ≤ n)
    (h : conditional call site shadow ends last taken offset ts st = .ok flow st') :
    Resumed call site shadow ts st' flow fun ends' more =>
      Quartz.conditional call site shadow ends' last taken offset (ts ++ more) st := by
  -- An `else if` goes on with a conditional of fewer tokens.
  induction hk : ts.length using Nat.strongRecOn generalizing ts st last taken offset with
  | _ k ih =>
    rcases conditional_cases call site shadow ends ts with
      ⟨_, _, _, heq⟩ | ⟨test, middle, body, after, htest, hbody, heq⟩
    · rw [heq] at h
      cases h
    · rw [heq] at h
      have hlen₁ := Declaration.length_of_bracketed htest
      have hlen₂ := Declaration.length_of_bracketed hbody
      obtain ⟨used₁, rfl, hreads₁⟩ := Declaration.reads_of_bracketed htest
      obtain ⟨used₂, rfl, hreads₂⟩ := Declaration.reads_of_bracketed hbody
      obtain ⟨holds, mid, hholds, h⟩ := Eval.bind_eq_ok.1 h
      obtain ⟨bodyFlow, mid', hflow, h⟩ := Eval.bind_eq_ok.1 h
      have hsub : after ⊆ used₁ ++ (used₂ ++ after) := by simp
      simp only [List.length_append] at hlen₁ hlen₂ hk hlen
      cases bodyFlow with
      | returned v o =>
        cases h
        refine .ended (.inl ⟨v, o, rfl⟩) fun ends' more _ => ?_
        simp only [conditional_eq, List.append_assoc,
          hreads₁ ends' (used₂ ++ (after ++ more)), hreads₂ ends' (after ++ more)]
        exact (Eval.bind_of_ok hholds).trans ((Eval.bind_of_ok hflow).trans rfl)
      | finished r =>
        suffices halt : Resumed call site shadow after st' flow fun ends' more =>
            Quartz.alternative call site shadow ends' (r.value <|> last) (taken || holds)
              (after ++ more) mid' by
          refine halt.congr hsub fun ends' more _ => ?_
          simp only [conditional_eq, List.append_assoc,
            hreads₁ ends' (used₂ ++ (after ++ more)), hreads₂ ends' (after ++ more)]
          exact (Eval.bind_of_ok hholds).trans ((Eval.bind_of_ok hflow).trans rfl)
        obtain ⟨f, hf, heq'⟩ := exists_proceeds call site shadow ends after
        dsimp only at h
        rw [heq'] at h
        cases hf with
        | next hopens =>
          -- Behind the next statements, or behind nothing, stands the second half.
          refine (hn _ after flow mid' st' (by omega) h).congr (List.Subset.refl _)
            fun ends' more hmore => congrFun (alternative_of_not_opens ?_ _ _) _
          cases after with
          | nil => exact hmore.noElse
          | cons w tail => exact hopens
        | elseIf hw hx =>
          simp only [List.length_cons] at hlen₁ hlen₂ hk hlen
          refine (ih _ (by omega) (by omega) h rfl).congr (by simp) fun ends' more _ => ?_
          simp only [List.cons_append, alternative_cons, if_pos hw, if_pos hx]
        | @otherwise w tail hw hx =>
          rw [List.length_cons] at hlen₁ hlen₂ hk hlen
          refine (hn.final (by omega) h).congr (by simp) fun ends' more _ => ?_
          cases tail with
          | nil =>
            -- An `else` at the very end has no body.
            dsimp only at h
            rw [final_eq] at h
            cases h
          | cons x tail =>
            simp only [List.cons_append, alternative_cons, if_pos hw, hx x tail rfl,
              Bool.false_eq_true, if_false]

/-! ### All statements -/

theorem succ : Resumes call site shadow ends (n + 1) := by
  intro p ts flow st st' hlen h
  cases ts with
  | nil =>
    rw [run_nil] at h
    cases h
    exact .onward fun ends' more _ => rfl
  | cons t rest =>
    have hlen' : rest.length ≤ n := by simpa using hlen
    have hrest : rest ⊆ t :: rest := List.subset_cons_self t rest
    obtain ⟨f, hf, hrun⟩ := exists_opens call site shadow t
    rw [hrun] at h
    simp only [List.cons_append, hrun]
    cases hf with
    | eof ht =>
      cases h
      exact .ended (.inr ⟨t, List.mem_cons_self, ht⟩) fun ends' more _ => rfl
    | refused form => cases h
    | semicolon ht => exact (hn _ rest flow st st' hlen' h).congr hrest fun _ _ _ => rfl
    | idle ht => exact (hn p rest flow st st' hlen' h).congr hrest fun _ _ _ => rfl
    | name ht =>
      dsimp only at h ⊢
      by_cases hsign : opensAssignment rest = true
      · rw [if_pos hsign] at h
        refine (hn.assignment hlen' hsign h).congr hrest fun ends' more _ => ?_
        cases rest with
        | nil => cases hsign
        | cons u tail => exact congrFun (if_pos hsign) st
      · rw [if_neg hsign, Eval.get_bind_apply] at h
        refine (hn.mention hlen' h).congr (List.Subset.refl _) fun ends' more hmore => ?_
        rw [(mention_front hmore h).2, if_neg hsign, Eval.get_bind_apply]
    | ret =>
      -- A `return` does not look behind its semicolon.
      obtain ⟨_, mid, hreq, h⟩ := Eval.bind_eq_ok.1 h
      cases hcut : Bracket.terminated? rest with
      | none =>
        rw [hcut] at h
        cases h
      | some cut =>
        obtain ⟨right, after⟩ := cut
        obtain ⟨semicolon, hkind, htokens, hfree⟩ := Bracket.terminated?_eq_some_iff.1 hcut
        have hcut' : ∀ more, Bracket.terminated? (rest ++ more) = some (right, after ++ more) :=
          fun more => Bracket.terminated?_eq_some_iff.2
            ⟨semicolon, hkind, by simp [htokens], hfree⟩
        rw [hcut] at h
        simp only [Eval.bind_of_ok hreq, hcut']
        cases right with
        | nil =>
          cases h
          exact .ended (.inl ⟨_, _, rfl⟩) fun ends' more _ => rfl
        | cons w right =>
          obtain ⟨v, mid', hright, h⟩ := Eval.bind_eq_ok.1 h
          cases h
          exact .ended (.inl ⟨_, _, rfl⟩) fun ends' more _ => Eval.bind_of_ok hright
    | cond ht =>
      obtain ⟨_, mid, hreq, h⟩ := Eval.bind_eq_ok.1 h
      exact (hn.conditional hlen' h).congr hrest fun ends' more _ => Eval.bind_of_ok hreq
    | function ht =>
      cases hread : FunctionDecl.read ends (t :: rest) with
      | error e =>
        simp only [hread] at h
        cases h
      | ok cut =>
        obtain ⟨d, after⟩ := cut
        have hshort := FunctionDecl.length_of_read hread
        rw [List.length_cons] at hshort
        have hsub := (FunctionDecl.subset_of_read hread).2
        obtain ⟨w, used, htokens, _, hreads⟩ := FunctionDecl.reads_of_read hread
        simp only [hread] at h
        obtain ⟨_, mid, hdefine, h⟩ := Eval.bind_eq_ok.1 h
        refine (hn p after flow mid st' (by omega) h).congr hsub fun ends' more _ => ?_
        have hread' := hreads ends' (after ++ more)
        rw [← List.append_assoc, ← htokens, List.cons_append] at hread'
        simp only [hread']
        exact Eval.bind_of_ok hdefine
    | crystal ht =>
      cases hread : ClassDecl.read ends (t :: rest) with
      | error e =>
        simp only [hread] at h
        cases h
      | ok cut =>
        obtain ⟨d, after⟩ := cut
        have hshort := ClassDecl.length_of_read hread
        rw [List.length_cons] at hshort
        have hsub := (ClassDecl.subset_of_read hread).2
        obtain ⟨w, used, htokens, _, hreads⟩ := ClassDecl.reads_of_read hread
        simp only [hread, Eval.get_bind_apply, declareClass] at h
        obtain ⟨c, mid, hbuilt, h⟩ := Eval.bind_eq_ok.1 h
        obtain ⟨_, mid', hdeclare, h⟩ := Eval.bind_eq_ok.1 h
        refine (hn p after flow mid' st' (by omega) h).congr hsub fun ends' more _ => ?_
        have hread' := hreads ends' (after ++ more)
        rw [← List.append_assoc, ← htokens, List.cons_append] at hread'
        simp only [hread', Eval.get_bind_apply, declareClass]
        rw [Eval.bind_of_ok hbuilt]
        exact Eval.bind_of_ok hdeclare
    | expression ht => exact hn.expression hlen' h

end

theorem all (n : Nat) : Resumes call site shadow ends n := by
  induction n with
  | zero =>
    intro p ts flow st st' hlen h
    rw [List.eq_nil_of_length_eq_zero (Nat.le_zero.1 hlen)] at h ⊢
    rw [run_nil] at h
    cases h
    exact .onward fun ends' more _ => rfl
  | succ n ih => exact ih.succ

end Resumes

variable {p : Progress} {ts : List Token} {st st' : State}

/-- A run that came to its end goes on with the tokens that follow, or is over. -/
theorem resumed_run {flow : Flow} (h : run call site shadow ends p ts st = .ok flow st') :
    Resumed call site shadow ts st' flow fun ends' more =>
      run call site shadow ends' p (ts ++ more) st :=
  Resumes.all ts.length p ts flow st st' (Nat.le_refl _) h

/-- Statements that leave nothing pending run the same in front of more tokens, which then
follow. -/
theorem run_append {ends' : Int} {q : Progress} (hmore : opensAlternative more = false)
    (heof : ∀ t ∈ ts, t.kind ≠ .eof)
    (h : run call site shadow ends p ts st = .ok (.finished q) st') (hq : q.pending = none) :
    run call site shadow ends' p (ts ++ more) st = run call site shadow ends' q more st' := by
  have hprecedes : (Flow.finished q).Precedes more := ⟨hmore, by simp [Flow.pending?, hq]⟩
  generalize hflow : Flow.finished q = flow at h hprecedes
  cases resumed_run h with
  | onward hx =>
    cases hflow
    exact hx ends' more hprecedes
  | ended hend hx =>
    -- It did not return, and met no token that ends a source.
    rcases hend with ⟨v, offset, rfl⟩ | ⟨t, ht, hkind⟩
    · cases hflow
    · exact absurd hkind (heof t ht)

end

end Quartz
