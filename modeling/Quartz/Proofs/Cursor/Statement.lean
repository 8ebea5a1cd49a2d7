import Quartz.Proofs.Cursor.Expression

/-!
# `Quartz.Proofs.Cursor.Statement`: statements over a cursor

A cursor at an index runs the statements that stand from there on. As with expressions, all kinds
of statements are compared at once, on the number of tokens that are left (`FollowsRun`). Bodies,
blocks and classes are runs of their own over fewer tokens, and a class runs at the root of a scope
that was handed out for it. The outcome is `simulates_run`.
-/

set_option autoImplicit false

namespace Quartz

variable {i : Nat} {ts rest : List Token} {p : Progress} {t : Token} {last : Option Value}

theorem opensAssignment_eq_any (ts : List Token) :
    opensAssignment ts = ts.head?.any (·.kind = .assign) := by
  cases ts <;> rfl

namespace Cursor

section

variable {call : Quartz.Caller} {call' : Caller} {site : Site} {built : List Instance} {st : State}

/-! ### Conditions and blocks -/

theorem simulates_conditionIn (hcall : call.Keeping) (hsim : call'.Simulates call)
    (hst : Standing built st site) (taken : Bool) (offset : Int) {test : List Token} {j : Nat}
    (hslice : slice ts i j = pure test) :
    Simulates Eq st (conditionIn call' site taken offset ts i j)
      (if taken then pure false else Quartz.condition call site offset test) := by
  unfold conditionIn
  cases taken with
  | true => exact .pure rfl
  | false =>
    rw [if_neg Bool.false_ne_true, if_neg Bool.false_ne_true, hslice, pure_bind]
    unfold condition Quartz.condition
    cases test with
    | nil => exact .fail _ _
    | cons t rest =>
      have hpos : (t :: rest).length ≠ 0 := Nat.succ_ne_zero _
      rw [if_neg hpos, if_neg (List.cons_ne_nil t rest)]
      apply hst.bind hcall (stepwise_evaluate call false site (World.reads _ _))
        (simulates_evaluate hcall hsim hst _)
      rintro v _ built' st' _ _ _ rfl
      exact .ofEval _

theorem stepwise_conditionUnless {w : World} (taken : Bool) (offset : Int) (test : List Token) :
    Stepwise call true w site (fun _ _ => True)
      (if taken then pure false else Quartz.condition call site offset test) := by
  split
  · exact .pure trivial
  · exact stepwise_condition site (w.points offset) (w.reads test)

theorem readsAs_blockAt (ts : List Token) (i : Nat) :
    ReadsAs (At ts) (blockAt ts i) (Declaration.bracketed .leftBrace .expectedBrace
      .unbalancedBrace (Token.endOffset ts) (ts.drop i)) := by
  unfold blockAt
  rw [← bind_pure (Declaration.bracketed _ _ _ _ _)]
  apply (readsAs_bracketAt ts _ _ _ i).bind
  rintro close ⟨body, after⟩ hclose
  apply ReadsAs.ofPure hclose.slice_eq
  exact .pure ⟨rfl, hclose.close_lt, hclose.drop_eq⟩

end

/-! ### Statements -/

section

variable {call : Quartz.Caller} {call' : Caller} {n : Nat}

variable (call call') in
/-- With at most `n` tokens left, the statements at a cursor run as those at their front do, at
every site. -/
def FollowsRun (n : Nat) : Prop :=
  ∀ ⦃built : List Instance⦄ ⦃st : State⦄ ⦃site : Site⦄ (shadow : Bool) (ts : List Token)
    (p : Progress) (i : Nat), Standing built st site → p.Within (st.world built) →
    i ≤ ts.length → ts.length - i ≤ n →
    Simulates Eq st (run call' site shadow ts p i)
      (Quartz.run call site shadow (Token.endOffset ts) p (ts.drop i))

namespace FollowsRun

variable {built : List Instance} {st : State} {site : Site} {shadow : Bool} {γ δ : Type}
  {R : γ → δ → Prop}

variable (hn : FollowsRun call call' n) (hcall : call.Keeping)
include hn hcall

theorem expression (hsim : call'.Simulates call) (hleft : ts.drop i = t :: rest)
    (hst : Standing built st site) (hp : p.Within (st.world built)) (hlen : ts.length - i ≤ n + 1) :
    Simulates Eq st (Cursor.expression call' site shadow ts p i)
      (Quartz.expression call site shadow (Token.endOffset ts) p t rest) := by
  have hlt := lt_of_drop hleft
  have hfollows := followsOperand hcall hsim site ts.length
  rw [Cursor.expression, tokenAt_eq hleft, pure_bind, expression_eq, ← hleft]
  apply hst.bindEval hcall (.require p _ (World.points _ _))
  intro _ built₁ st₁ hst₁ hle₁ _
  apply bindAt hst₁ hcall (stepwise_operandAt call site _ ts i)
    (hfollows ts i hst₁ (Nat.le_of_lt hlt) (by omega))
  intro v j built₂ st₂ hst₂ hle₂ hv hj hshort
  apply bindAt hst₂ hcall (stepwise_binaryAt call site _ ts j false hv)
    (hfollows.binary hcall ts false v j hst₂ hv hj (by omega))
  intro u j' built₃ st₃ hst₃ hle₃ hu hj' hshort'
  have hle := World.realm_mono (World.le_trans hle₁ (World.le_trans hle₂ hle₃))
  apply Simulates.ofPure (ahead_eq (by omega))
  exact hn shadow ts _ j' hst₃ (.ofPending (hp.mono hle) hu) hj' (by omega)

theorem assignment (hsim : call'.Simulates call) {sign : Token}
    (hleft : ts.drop i = t :: sign :: rest) (hst : Standing built st site)
    (hlen : ts.length - i ≤ n + 1) :
    Simulates Eq st (Cursor.assignment call' site shadow ts p t i)
      (Quartz.assignment call site shadow (Token.endOffset ts) p t (sign :: rest)) := by
  have hsign := drop_succ hleft
  have hrest : ts.drop (i + 2) = rest := drop_succ hsign
  have hlt := lt_of_drop hsign
  rw [Cursor.assignment, Quartz.assignment, terminator_eq, hrest]
  apply hst.bindEval hcall (.require p _ (World.points _ _))
  intro _ built₁ st₁ hst₁ _ _
  rw [pure_bind]
  cases hcut : Bracket.terminated? rest with
  | none => exact .fail _ _
  | some cut =>
    obtain ⟨right, after⟩ := cut
    have hbound := Bracket.length_of_terminated? hcut
    have hshort := congrArg List.length hrest
    rw [List.length_drop] at hshort
    rw [← hrest] at hcut
    obtain ⟨hslice, hafter⟩ := slice_of_terminated? hlt hcut
    dsimp only [Option.map_some]
    cases right with
    | nil =>
      have hend : i + 2 + ([] : List Token).length = i + 2 := rfl
      rw [if_pos hend, tokenAt_eq hsign, pure_bind]
      exact .fail _ _
    | cons u us =>
      have hend : i + 2 + (u :: us).length ≠ i + 2 := by
        rw [List.length_cons]
        omega
      rw [if_neg hend, hslice, pure_bind]
      apply hst₁.bind hcall (stepwise_evaluate call false site (World.reads _ _))
        (simulates_evaluate hcall hsim hst₁ _)
      rintro v _ built₂ st₂ hst₂ _ hv rfl
      apply hst₂.bind hcall (stepwise_store site shadow t.literal hv)
        (simulates_store hst₂.sound.grounded hst₂.tidy hst₂.shallow shadow t.literal v)
      intro _ _ built₃ st₃ hst₃ hle₃ _ _
      have hlast : Progress.Within (st₃.world built₃) ⟨none, some v⟩ := by
        apply Progress.Within.ofLast
        rintro u ⟨⟩
        exact hv.mono (World.realm_mono hle₃)
      rw [← hafter]
      apply Simulates.ofPure (ahead_eq (by omega))
      exact hn shadow ts _ _ hst₃ hlast (by omega) (by omega)

/-- A name that nothing stands for yet, as a statement. -/
theorem newName (hsim : call'.Simulates call) (hleft : ts.drop i = t :: rest)
    (hst : Standing built st site) (hp : p.Within (st.world built)) (hlen : ts.length - i ≤ n + 1) :
    Simulates Eq st
      (do
        p.require (.before t.literal) t.offset
        declare site t.literal .null
        let r ← Cursor.binary call' site ts false .null (i + 1)
        let _ ← ahead ts i r.2
        Cursor.run call' site shadow ts { p with pending := some r.1 } r.2)
      (do
        p.require (.before t.literal) t.offset
        modify (·.declare site t.literal .null)
        let r ← (Quartz.binary call site (Token.endOffset ts) false .null rest).bare
        Quartz.run call site shadow (Token.endOffset ts) { p with pending := some r.1 } r.2) := by
  have hlt := lt_of_drop hleft
  have hfollows := followsOperand hcall hsim site ts.length
  rw [← drop_succ hleft]
  apply hst.bindEval hcall (.require p _ (World.points _ _))
  intro _ built₁ st₁ hst₁ hle₁ _
  have hdeclare : Stepwise call true (st₁.world built₁) site (fun _ _ => True)
      (modify (·.declare site t.literal .null)) := .declare rfl t.literal trivial
  apply hst₁.bind hcall hdeclare (simulates_declare hst₁.shallow.live t.literal .null)
  intro _ _ built₂ st₂ hst₂ hle₂ _ _
  have hnull : Value.null.Within (st₂.world built₂) := trivial
  apply bindAt hst₂ hcall (stepwise_binaryAt call site _ ts (i + 1) false hnull)
    (hfollows.binary hcall ts false .null (i + 1) hst₂ hnull hlt (by omega))
  intro u j built₃ st₃ hst₃ hle₃ hu hj hshort
  have hle := World.realm_mono (World.le_trans hle₁ (World.le_trans hle₂ hle₃))
  apply Simulates.ofPure (ahead_eq (by omega))
  exact hn shadow ts _ j hst₃ (.ofPending (hp.mono hle) hu) hj (by omega)

/-! ### Chains of conditions -/

/-- A body of a chain, and what follows it. -/
theorem bodyThen (runs : Bool) {body : List Token} (hst : Standing built st site)
    (hlen : body.length ≤ n) {f : Flow → Guarded γ} {g : Flow → Eval δ}
    (hf : ∀ flow built' st', Standing built' st' site → st.world built ≤ st'.world built' →
      flow.Within (st'.world built') → Simulates R st' (f flow) (g flow)) :
    Simulates R st (Cursor.bodyIf call' runs site shadow body >>= f)
      ((if runs then Quartz.run call site shadow (Token.endOffset body) {} body
        else pure (.finished {})) >>= g) := by
  rw [Cursor.bodyIf]
  cases runs with
  | false => exact hf (.finished {}) built st hst (World.le_refl _) (.empty _)
  | true =>
    apply hst.bind hcall (stepwise_run call site shadow (World.points _ _) (.empty _)
        (World.reads _ body))
      (hn shadow body {} 0 hst (.empty _) (Nat.zero_le _) hlen)
    rintro flow _ built' st' hst' hle hflow rfl
    exact hf flow built' st' hst' hle hflow

section

variable (ts : List Token) (taken : Bool) (i : Nat) (hst : Standing built st site)
  (hlast : ∀ v, last = some v → v.Within (st.world built))
include hst hlast

theorem final (hlen : ts.length - i ≤ n) :
    Simulates Eq st (Cursor.final call' site shadow ts last taken i)
      (Quartz.final call site shadow (Token.endOffset ts) last taken (ts.drop i)) := by
  rw [Cursor.final, final_eq]
  apply Simulates.reading (readsAs_blockAt ts i)
  · intro e he
    rw [he]
  · rintro ⟨body, j⟩ ⟨_, _⟩ hcut ⟨rfl, hj, rfl⟩
    have hbound := Declaration.length_of_bracketed hcut
    simp only [List.length_drop] at hbound
    have hturn : (if taken then pure (.finished {})
          else Quartz.run call site shadow (Token.endOffset body) {} body) =
        (if !taken then Quartz.run call site shadow (Token.endOffset body) {} body
          else pure (.finished {})) := by
      cases taken <;> rfl
    rw [hcut]
    dsimp only
    rw [hturn]
    apply Simulates.ofPure (Guarded.ensure_eq (by omega))
    apply hn.bodyThen hcall (!taken) hst (by omega)
    intro flow built₁ st₁ hst₁ hle hflow
    cases flow with
    | returned v o => exact .pure rfl
    | finished q =>
      have hvalue := within_orElse (fun v hv => hflow.value hv)
        fun v hv => (hlast v hv).mono (World.realm_mono hle)
      apply Simulates.ofPure (ahead_eq (by omega))
      exact hn shadow ts _ j hst₁ (.ofLast hvalue) hj (by omega)

/-- Behind a body, where an `else if` is known to go on alike. -/
theorem alternative (hi : i ≤ ts.length) (hlen : ts.length - i ≤ n)
    (again : ∀ {t : Token} {rest : List Token}, ts.drop (i + 1) = t :: rest →
      Simulates Eq st (Cursor.conditional call' site shadow ts last taken (i + 1))
        (Quartz.conditional call site shadow (Token.endOffset ts) last taken t.offset rest)) :
    Simulates Eq st (Cursor.alternative call' site shadow ts last taken i)
      (Quartz.alternative call site shadow (Token.endOffset ts) last taken (ts.drop i)) := by
  have hafter := hn shadow ts ⟨none, last⟩ i hst (.ofLast hlast) hi hlen
  have hfinal : Simulates Eq st (Cursor.final call' site shadow ts last taken (i + 1))
      (Quartz.final call site shadow (Token.endOffset ts) last taken (ts.drop (i + 1))) :=
    hn.final hcall ts taken (i + 1) hst hlast (by omega)
  rw [Cursor.alternative, holdsAt_eq, pure_bind]
  cases hleft : ts.drop i with
  | nil =>
    rw [hleft] at hafter
    rw [alternative_of_not_opens rfl]
    exact hafter
  | cons t rest =>
    rw [hleft] at hafter
    rw [drop_succ hleft] at hfinal
    rw [alternative_cons, List.head?_cons, Option.any_some]
    split
    · rw [holdsAt_eq, pure_bind, drop_succ hleft]
      cases rest with
      | nil => exact hfinal
      | cons u more =>
        rw [List.head?_cons, Option.any_some]
        dsimp only
        split
        · exact again (drop_succ hleft)
        · exact hfinal
    · exact hafter

end

theorem conditional (hsim : call'.Simulates call) (hleft : ts.drop i = t :: rest) (taken : Bool)
    (hst : Standing built st site) (hlast : ∀ v, last = some v → v.Within (st.world built))
    (hlen : ts.length - i ≤ n + 1) :
    Simulates Eq st (Cursor.conditional call' site shadow ts last taken i)
      (Quartz.conditional call site shadow (Token.endOffset ts) last taken t.offset rest) := by
  -- An `else if` goes on with a conditional of fewer tokens.
  induction hk : ts.length - i using Nat.strongRecOn
    generalizing i t rest last taken built st with
  | _ k ih =>
    have hlt := lt_of_drop hleft
    have htest := readsAs_bracketAt ts .leftParen .expectedConditionParen .unbalancedCondition
      (i + 1)
    rw [drop_succ hleft] at htest
    rw [Cursor.conditional, tokenAt_eq hleft, pure_bind, conditional_eq]
    apply Simulates.reading htest
    · intro e he
      rw [he]
    rintro close ⟨test, _⟩ hcut hclose
    have hopen := hclose.lt
    have hblock := readsAs_blockAt ts (close + 1)
    rw [hcut]
    dsimp only
    rw [hclose.drop_eq] at hblock
    apply Simulates.reading hblock
    · intro e he
      rw [he]
    rintro ⟨body, j⟩ ⟨_, _⟩ hcut' ⟨rfl, hj, rfl⟩
    have hbound := Declaration.length_of_bracketed hcut'
    rw [← hclose.drop_eq] at hbound
    simp only [List.length_drop] at hbound
    rw [hcut']
    dsimp only
    apply hst.bind hcall (stepwise_conditionUnless taken t.offset test)
      (simulates_conditionIn hcall hsim hst taken t.offset hclose.slice_eq)
    rintro holds _ built₁ st₁ hst₁ hle₁ _ rfl
    apply Simulates.ofPure (Guarded.ensure_eq (by omega))
    apply hn.bodyThen hcall holds hst₁ (by omega)
    intro flow built₂ st₂ hst₂ hle₂ hflow
    cases flow with
    | returned v o => exact .pure rfl
    | finished q =>
      have hle := World.realm_mono (World.le_trans hle₁ hle₂)
      have hvalue := within_orElse (fun v hv => hflow.value hv)
        fun v hv => (hlast v hv).mono hle
      apply Simulates.ofPure (ahead_eq (by omega))
      apply hn.alternative hcall ts (taken || holds) j hst₂ hvalue hj (by omega)
      intro u more hmore
      exact ih _ (by omega) hmore _ hst₂ hvalue (by omega) rfl

/-! ### Classes -/

theorem setUp (name : Bytes) {scope : ScopeId} {most : Nat} {block : Option (List Token)}
    (hst : Standing built st ⟨scope, 0⟩) (hmost : most ≤ n)
    (hblock : ∀ ts, block = some ts → ts.length < most) :
    Simulates Eq st (Cursor.setUp call' name scope most block)
      (Quartz.setUp call name scope block) := by
  cases block with
  | none =>
    rw [Cursor.setUp]
    exact .pure rfl
  | some ts =>
    rw [Cursor.setUp]
    have hlen := hblock ts rfl
    have hrun := hn true ts {} 0 hst (.empty _) (Nat.zero_le _) (by omega)
    have hr := (st.world built).reads ts
    have hsteps := stepwise_run call ⟨scope, 0⟩ true hr.last (.empty _) hr
    apply Simulates.ofPure (Guarded.ensure_eq hlen)
    apply hst.bind hcall (.mapFault (fun _ _ _ hf => hf.labelled _) hsteps) (hrun.mapFault _)
    rintro flow _ built' st' _ _ _ rfl
    cases flow with
    | returned v offset => exact .malformed _ _
    | finished p => exact .pure rfl

theorem construct {outer : ScopeId} (name : Bytes) (body : List Token)
    (hst : Standing built st site) (ho : outer < st.scopes.size) (hlen : body.length ≤ n) :
    Simulates Eq st (Cursor.construct call' outer name body)
      (Quartz.instantiate call (some outer) name body) := by
  have hscan := readsAs_scan body
  have hallot : Stepwise call true (st.world built) site (fun w c => w.started c)
      (Quartz.allot (some outer) name body) := .allot rfl ho name body
  rw [Cursor.construct, instantiate_eq]
  apply hst.bind hcall hallot (simulates_allot ho name body)
  rintro c _ built₁ st₁ hst₁ _ hc rfl
  unfold furnish
  cases hread : Members.scan body with
  | error e =>
    rw [hread] at hscan
    rw [hscan.eq_stop, Guarded.mapFault_stop, Guarded.stop_bind]
    exact .stop _
  | ok _ =>
    rw [hread] at hscan
    obtain ⟨members, rfl, hpure⟩ := hscan
    rw [hpure, Guarded.mapFault_pure, pure_bind]
    -- The members are put into the root frame of the scope that was handed out.
    have hscope := hst₁.sound.counted.scope_lt c hc
    have howner : (st₁.world built₁).realm.Owner ⟨c.scope, 0⟩ c.id := .inr ⟨c, hc, rfl, rfl⟩
    have hmembers : Stepwise call true (st₁.world built₁) site (fun _ _ => True)
        (Quartz.defineAll ⟨c.scope, 0⟩ c.id members.functions) :=
      .inside rfl hc (stepwise_defineAll ⟨c.scope, 0⟩ howner fun d _ => World.reads _ d.body)
    apply hst₁.bind hcall hmembers (simulates_defineAll hcall _ (hst₁.atRoot hscope) howner)
    intro _ _ built₂ st₂ hst₂ hle₂ _ _
    have hc₂ := (World.realm_mono hle₂).started c hc
    have hscope₂ := hst₂.sound.counted.scope_lt c hc₂
    have hblock : ∀ ts, members.block = some ts → ts.length < body.length := by
      intro ts hts
      have := Members.length_of_scan hread hts
      omega
    have hsetUp : Stepwise call true (st₂.world built₂) site (fun _ _ => True)
        (Quartz.setUp call name c.scope members.block) :=
      .inside rfl hc₂ ((stepwiseRun call n).setUp name c.scope fun ts hts =>
        ⟨Nat.le_trans (Nat.le_of_lt (hblock ts hts)) hlen, World.reads _ ts⟩)
    apply hst₂.bind hcall hsetUp (hn.setUp hcall name (hst₂.atRoot hscope₂) hlen hblock)
    intro _ _ built₃ st₃ hst₃ hle₃ _ _
    have hscope₃ := hst₃.sound.counted.scope_lt c ((World.realm_mono hle₃).started c hc₂)
    apply Simulates.ofOk (frameAt_eq (hst₃.atRoot hscope₃).shallow.live)
    exact ⟨c, rfl, rfl⟩

/-- A class that was read off, and the statements behind it. -/
theorem declaredClass (ts : List Token) (d : ClassDecl) {j : Nat} (hst : Standing built st site)
    (hp : p.Within (st.world built)) (hj : j ≤ ts.length) (hbody : d.body.length < ts.length - i)
    (hshort : ts.length - j < ts.length - i) (hlen : ts.length - i ≤ n + 1) :
    Simulates Eq st
      (do
        let outer ← globals site.scope
        let _ ← Guarded.ensure (d.body.length < ts.length - i)
        let c ← Cursor.construct call' outer d.name d.body
        declare site d.name (.object c)
        let _ ← ahead ts i j
        Cursor.run call' site shadow ts p j)
      (do
        let st ← get
        declareClass call site shadow (Token.endOffset ts) p d (ts.drop j)
          (st.outermost site.scope)) := by
  have hscope := hst.shallow.live.1
  have ho : st.outermost site.scope < st.scopes.size :=
    Nat.lt_of_le_of_lt (st.outermost_le _) hscope
  apply Simulates.ofOk (globals_eq hst.tidy hscope)
  apply Simulates.get
  unfold declareClass
  apply Simulates.ofPure (Guarded.ensure_eq hbody)
  apply hst.bind hcall (stepwise_instantiate call site ho d.name (World.reads _ d.body))
    (hn.construct hcall d.name d.body hst ho (by omega))
  rintro c _ built₁ st₁ hst₁ hle₁ hc rfl
  have hdeclare : Stepwise call true (st₁.world built₁) site (fun _ _ => True)
      (modify (·.declare site d.name (.object c))) :=
    .declare rfl d.name ((st₁.world built₁).realm.started_object c hc)
  apply hst₁.bind hcall hdeclare (simulates_declare hst₁.shallow.live d.name _)
  intro _ _ built₂ st₂ hst₂ hle₂ _ _
  have hle := World.realm_mono (World.le_trans hle₁ hle₂)
  apply Simulates.ofPure (ahead_eq hshort)
  exact hn shadow ts p j hst₂ (hp.mono hle) hj (by omega)

/-! ### Statements by their first token -/

/-- The statement whose keyword stands at a cursor. -/
theorem keyword (hsim : call'.Simulates call) (hleft : ts.drop i = t :: rest)
    (hst : Standing built st site) (hp : p.Within (st.world built)) (hlen : ts.length - i ≤ n + 1) :
    Simulates Eq st (Cursor.keyword call' site shadow ts p t i)
      (keywordStatement call site shadow (Token.endOffset ts) p t rest) := by
  have hlt := lt_of_drop hleft
  have hrest := drop_succ hleft
  have hnext : Simulates Eq st
      (ahead ts i (i + 1) >>= fun _ => Cursor.run call' site shadow ts p (i + 1))
      (Quartz.run call site shadow (Token.endOffset ts) p rest) := by
    apply Simulates.ofPure (ahead_eq (by omega))
    rw [← hrest]
    exact hn shadow ts p (i + 1) hst hp hlt (by omega)
  have hexpression : Simulates Eq st (Cursor.expression call' site shadow ts p i)
      (Quartz.expression call site shadow (Token.endOffset ts) p t rest) :=
    hn.expression hcall hsim hleft hst hp hlen
  rw [Cursor.keyword, keywordStatement]
  cases t.keyword? with
  | none => exact hexpression
  | some k =>
    cases k with
    | ret =>
      dsimp only
      apply hst.bindEval hcall (.require p _ (World.points _ _))
      intro _ built₁ st₁ hst₁ _ _
      rw [terminator_eq, pure_bind, hrest]
      cases hcut : Bracket.terminated? rest with
      | none => exact .fail _ _
      | some cut =>
        obtain ⟨right, after⟩ := cut
        rw [← hrest] at hcut
        obtain ⟨hslice, _⟩ := slice_of_terminated? hlt hcut
        dsimp only [Option.map_some]
        cases right with
        | nil =>
          rw [if_neg (by simp)]
          exact .pure rfl
        | cons u us =>
          rw [if_pos (by simp), hslice, pure_bind]
          apply hst₁.bind hcall (stepwise_evaluate call false site (World.reads _ _))
            (simulates_evaluate hcall hsim hst₁ _)
          rintro v _ built₂ st₂ _ _ _ rfl
          exact .pure rfl
    | cond =>
      dsimp only
      apply hst.bindEval hcall (.require p _ (World.points _ _))
      intro _ built₁ st₁ hst₁ hle₁ _
      have hlast : ∀ v, p.last = some v → v.Within (st₁.world built₁) :=
        fun v hv => (hp v (.inr hv)).mono (World.realm_mono hle₁)
      exact hn.conditional hcall hsim hleft false hst₁ hlast hlen
    | alternative => exact .malformed _ _
    | function =>
      have hread := readsAs_parseFunction ts i
      rw [hleft] at hread
      apply Simulates.reading hread
      · intro e he
        rw [he]
      rintro ⟨d, j⟩ ⟨_, _⟩ hcut ⟨rfl, hj, rfl⟩
      have hbound := FunctionDecl.length_of_read hcut
      rw [← hleft] at hbound
      simp only [List.length_drop] at hbound
      rw [hcut]
      apply hst.bind hcall (stepwise_defineAll site (.inl rfl) fun d _ => World.reads _ d.body)
        (simulates_defineAll hcall [d] hst (.inl rfl))
      intro _ _ built₁ st₁ hst₁ hle₁ _ _
      apply Simulates.ofPure (ahead_eq (by omega))
      exact hn shadow ts p j hst₁ (hp.mono (World.realm_mono hle₁)) hj (by omega)
    | crystal =>
      have hread := readsAs_parseClass ts i
      rw [hleft] at hread
      apply Simulates.reading hread
      · intro e he
        rw [he]
      rintro ⟨d, j⟩ ⟨_, _⟩ hcut ⟨rfl, hj, rfl⟩
      have hbound := ClassDecl.length_of_read hcut
      rw [← hleft] at hbound
      simp only [List.length_drop] at hbound
      rw [hcut]
      exact hn.declaredClass hcall ts d hst hp hj (by omega) (by omega) hlen
    | number => exact hnext
    | string => exact hnext
    | bool => exact hnext
    | null => exact hexpression
    | yes => exact hexpression
    | no => exact hexpression
    -- A block of variables outside a class.
    | _ => exact .malformed _ _

/-- With at most one token more, statements still run alike. -/
theorem succ (hsim : call'.Simulates call) : FollowsRun call call' (n + 1) := by
  intro built st site shadow ts p i hst hp hi hlen
  rw [Cursor.run]
  cases hleft : ts.drop i with
  | nil =>
    rw [if_neg (not_lt_of_drop hleft), run_nil]
    exact .pure rfl
  | cons t rest =>
    have hlt := lt_of_drop hleft
    have hrest := drop_succ hleft
    have hnext : ∀ q : Progress, q.Within (st.world built) →
        Simulates Eq st (Cursor.run call' site shadow ts q (i + 1))
          (Quartz.run call site shadow (Token.endOffset ts) q rest) := by
      intro q hq
      rw [← hrest]
      exact hn shadow ts q (i + 1) hst hq hlt (by omega)
    rw [if_pos hlt, tokenAt_eq hleft, pure_bind, run_cons]
    cases t.kind with
    | eof =>
      dsimp only
      rw [Cursor.run, if_neg (Nat.lt_irrefl _)]
      exact .pure rfl
    | error => exact .malformed _ _
    | semicolon => exact hnext _ hp.committed
    | leftBrace => exact hnext p hp
    | rightBrace => exact hnext p hp
    | rightParen => exact hnext p hp
    | comma => exact hnext p hp
    | assign => exact .malformed _ _
    | ident =>
      dsimp only
      rw [holdsAt_eq, pure_bind, hrest, ← opensAssignment_eq_any]
      split
      · next hassigns =>
          obtain ⟨sign, tail, rfl⟩ : ∃ sign tail, rest = sign :: tail := by
            cases rest with
            | nil => cases hassigns
            | cons sign tail => exact ⟨sign, tail, rfl⟩
          exact hn.assignment hcall hsim hleft hst hlen
      · have hmeaning := meaning_eq hst.sound.grounded hst.tidy hst.shallow t.literal
        apply Simulates.ofOk hmeaning
        apply Simulates.get
        rw [holdsAt_eq, pure_bind, hrest, ← opensParen_eq_any]
        unfold mention
        split
        · exact hn.expression hcall hsim hleft hst hp hlen
        · exact hn.newName hcall hsim hleft hst hp hlen
    | keyword => exact hn.keyword hcall hsim hleft hst hp hlen
    | _ => exact hn.expression hcall hsim hleft hst hp hlen

end FollowsRun

theorem followsRun (hcall : call.Keeping) (hsim : call'.Simulates call) (n : Nat) :
    FollowsRun call call' n := by
  induction n with
  | zero =>
    intro built st site shadow ts p i hst hp hi hlen
    have hleft : ts.drop i = [] := List.drop_of_length_le (by omega)
    rw [Cursor.run, if_neg (not_lt_of_drop hleft), hleft, run_nil]
    exact .pure rfl
  | succ n ih => exact ih.succ hcall hsim

/-- Running tokens by index is running them. -/
theorem simulates_run (hcall : call.Keeping) (hsim : call'.Simulates call) {built : List Instance}
    {st : State} {site : Site} (hst : Standing built st site) (shadow : Bool) (ts : List Token) :
    Simulates Eq st (run call' site shadow ts {} 0)
      (Quartz.run call site shadow (Token.endOffset ts) {} ts) :=
  followsRun hcall hsim ts.length shadow ts {} 0 hst (.empty _) (Nat.zero_le _) (Nat.le_refl _)

end

end Cursor

end Quartz
