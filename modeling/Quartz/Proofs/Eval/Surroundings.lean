import Quartz.Proofs.Declaration.Written
import Quartz.Proofs.Eval.Sequence
import Quartz.Proofs.Eval.Stepwise
import Quartz.Proofs.Expression.CallFree
import Quartz.Proofs.State.Basic
import Quartz.Token.Lexer

/-!
# `Quartz.Proofs.Eval.Surroundings`: building an instance leaves its surroundings alone

An instance is built by running its variables block in a scope of its own, with a flag that
makes every assignment bind in the frame at hand. The flag is handed on to the bodies of
conditionals, and the body of a class in the block gets a scope and a flag of its own. So
whatever is assigned, the scopes that were there before are not touched.

`State.AgreeBelow base` relates the state before and after: all that lies below scope `base`,
all functions and all that was printed stay as they were, and what is added goes with new ids.
`Eval.Spares base` says that a run ends in such a state, however it ends. It is kept by putting
runs together, and it holds

* of evaluations without calls, which change nothing;
* of a variable or a function bound at a site in a scope from `base` on;
* of the statements of a block, by induction on their number of tokens (`sparesRun`);
* of the building of an instance (`SparesRun.instantiate`), whose scope is the next new one.

A call could do anything, so the block is taken to be free of them.
-/

set_option autoImplicit false

namespace Quartz

variable {ts rest body : List Token} {t : Token}

/-! ### States that agree below a scope -/

namespace State

/-- Nothing below scope `base` has changed from the first state to the second, no function has
changed, and nothing was printed. Scopes are added together with ids, and only the creation of
instances is reported. -/
structure AgreeBelow (base : Nat) (st st' : State) : Prop where
  scope : ∀ s, s < base → st'.scope s = st.scope s
  scopes_size : st.scopes.size ≤ st'.scopes.size
  ids : st'.lastId + st.scopes.size = st.lastId + st'.scopes.size
  function : ∀ f, f < st.functions.size → st'.function f = st.function f
  functions_size : st.functions.size ≤ st'.functions.size
  printed : st'.printed = st.printed
  mute : st'.mute = st.mute
  threshold : st'.journal.threshold = st.journal.threshold
  entries : ∃ created, st'.journal.entries.toList = st.journal.entries.toList ++ created ∧
    ∀ e ∈ created, ∃ name id functions, e = .event (.classCreated name id functions)

namespace AgreeBelow

variable {base : Nat} {st st' st'' : State}

theorem refl (base : Nat) (st : State) : st.AgreeBelow base st where
  scope _ _ := rfl
  scopes_size := Nat.le_refl _
  ids := rfl
  function _ _ := rfl
  functions_size := Nat.le_refl _
  printed := rfl
  mute := rfl
  threshold := rfl
  entries := ⟨[], by simp, by simp⟩

theorem trans (h : st.AgreeBelow base st') (h' : st'.AgreeBelow base st'') :
    st.AgreeBelow base st'' where
  scope s hs := (h'.scope s hs).trans (h.scope s hs)
  scopes_size := Nat.le_trans h.scopes_size h'.scopes_size
  ids := by
    have hids := h.ids
    have hids' := h'.ids
    omega
  function f hf :=
    (h'.function f (Nat.lt_of_lt_of_le hf h.functions_size)).trans (h.function f hf)
  functions_size := Nat.le_trans h.functions_size h'.functions_size
  printed := h'.printed.trans h.printed
  mute := h'.mute.trans h.mute
  threshold := h'.threshold.trans h.threshold
  entries := by
    obtain ⟨l, hl, hcreated⟩ := h.entries
    obtain ⟨l', hl', hcreated'⟩ := h'.entries
    refine ⟨l ++ l', by rw [hl', hl, List.append_assoc], ?_⟩
    intro e he
    rcases List.mem_append.1 he with he | he
    · exact hcreated e he
    · exact hcreated' e he

end AgreeBelow

section

variable {base : Nat} (st : State)

/-- A change of a scope from `base` on. -/
theorem agreeBelow_modifyScope {s : ScopeId} (hs : base ≤ s) (f : Scope → Scope) :
    st.AgreeBelow base (st.modifyScope s f) where
  scope t ht := by
    rw [scope_modifyScope, if_neg]
    rintro ⟨rfl, _⟩
    omega
  scopes_size := by simp
  ids := by simp [modifyScope]
  function _ _ := rfl
  functions_size := Nat.le_refl _
  printed := rfl
  mute := rfl
  threshold := rfl
  entries := ⟨[], by simp [modifyScope], by simp⟩

theorem agreeBelow_declare {site : Site} (hs : base ≤ site.scope) (name : Bytes) (v : Value) :
    st.AgreeBelow base (st.declare site name v) :=
  st.agreeBelow_modifyScope hs _

/-- A function is added and registered at a site. It is the new function that is settled. -/
theorem agreeBelow_register {site : Site} (hs : base ≤ site.scope) (fn : Function) :
    st.AgreeBelow base (st.register site fn) := by
  have hadded : st.AgreeBelow base ((st.addFunction fn).2.settle st.functions.size site.scope) := by
    refine { AgreeBelow.refl base st with
      function := ?_
      functions_size := ?_ }
    · intro f hf
      have hne : f ≠ st.functions.size := Nat.ne_of_lt hf
      rw [function_settle, if_neg (fun h => hne h.1), function_addFunction, if_neg hne]
    · simp [addFunction, settle]
  exact hadded.trans (agreeBelow_modifyScope _ hs _)

theorem agreeBelow_report (name : Bytes) (id functions : Nat) :
    st.AgreeBelow base (st.report (.classCreated name id functions)) := by
  refine { AgreeBelow.refl base st with
    threshold := ?_
    entries := ?_ }
  · simp only [report, Log.Journal.report]
    split
    · rfl
    · split <;> rfl
  · simp only [report, Log.Journal.report]
    split
    · exact ⟨[], by simp, by simp⟩
    · split
      · exact ⟨[.event (.classCreated name id functions)], by simp, by simp⟩
      · exact ⟨[], by simp, by simp⟩

/-- The scope and the id of a new instance are new. -/
theorem agreeBelow_allot (hbase : base ≤ st.scopes.size) (outer : Option ScopeId) :
    st.AgreeBelow base (st.nextId.2.newScope outer).2 := by
  refine { AgreeBelow.refl base st with
    scope := ?_
    scopes_size := ?_
    ids := ?_ }
  · intro s hs
    have hne : s ≠ st.scopes.size := by omega
    exact (scope_addScope st.nextId.2 _ s).trans (if_neg hne)
  · simp [newScope, addScope, nextId]
  · simp only [newScope, addScope, nextId, Array.size_push]
    omega

end

end State

/-! ### Runs that leave their surroundings alone -/

/-- However the run ends, the state agrees below scope `base` with the one before. -/
def Eval.Spares {α : Type} (base : Nat) (x : Eval α) : Prop :=
  ∀ st : State, base ≤ st.scopes.size → st.AgreeBelow base (x.after st)

namespace Eval.Spares

variable {α β : Type} {base : Nat} {x : Eval α} {f : α → Eval β}

theorem of_after (h : ∀ st, x.after st = st) : x.Spares base := by
  intro st _
  rw [h st]
  exact .refl base st

theorem pure (a : α) : (Pure.pure a : Eval α).Spares base := of_after fun _ => rfl

theorem stop (fault : Fault) : (Eval.stop fault : Eval α).Spares base := of_after fun _ => rfl

theorem step {g : State → State} (h : ∀ st : State, st.AgreeBelow base (g st)) :
    (modify g : Eval Unit).Spares base :=
  fun st _ => h st

theorem bind (hx : x.Spares base) (hf : ∀ a st st', x st = .ok a st' → (f a).Spares base) :
    (x >>= f).Spares base := by
  intro st hst
  have hfirst := hx st hst
  unfold Eval.after at hfirst ⊢
  cases hrun : x st with
  | ok a mid =>
    rw [hrun] at hfirst
    rw [Eval.bind_of_ok hrun]
    exact hfirst.trans (hf a st mid hrun mid (Nat.le_trans hst hfirst.scopes_size))
  | error stop mid =>
    rw [hrun] at hfirst
    rw [Eval.bind_of_error hrun]
    exact hfirst

theorem look {k : State → Eval α} (h : ∀ st, (k st).Spares base) : (get >>= k).Spares base :=
  fun st hst => h st st hst

theorem mapFault (hx : x.Spares base) (g : Fault → Fault) : (Eval.mapFault g x).Spares base := by
  intro st hst
  have hfirst := hx st hst
  unfold Eval.after Eval.mapFault at *
  cases hrun : x st with
  | ok a mid =>
    rw [hrun] at hfirst
    exact hfirst
  | error stop mid =>
    rw [hrun] at hfirst
    cases stop <;> exact hfirst

end Eval.Spares

/-! ### Statements without calls -/

section

variable {call : Caller} {site : Site} {base n : Nat} {ends : Int}

theorem CallFree.bracketed {opener closer : Kind} (hk : Bracket.closer? opener = some closer)
    {absent unclosed : Malformation} {inner after : List Token} (h : CallFree ts)
    (hcut : Declaration.bracketed opener absent unclosed ends ts = .ok (inner, after)) :
    CallFree inner ∧ CallFree after := by
  obtain ⟨o, c, rfl, _⟩ := (Declaration.bracketed_eq_ok_iff hk).1 hcut
  exact ⟨h.tail.left, h.tail.right.tail⟩

/-- The variables block in a class body without calls is without calls. -/
theorem CallFree.scanFrom {found m : Members} {block : List Token} (hts : CallFree ts)
    (h : Members.scanFrom ends found ts = .ok m) (hb : m.block = some block) :
    found.block = some block ∨ CallFree block := by
  fun_induction Members.scanFrom ends found ts with
  | case1 found =>
    cases h
    exact .inl hb
  | case2 => cases h
  | case3 found t rest _ d after hread _ ih =>
    obtain ⟨used, hused, _⟩ := FunctionDecl.read_eq_ok_iff.1 hread
    rw [hused] at hts
    exact ih hts.right h
  | case4 => cases h
  | case5 => cases h
  | case6 found t rest _ _ inner after hread _ _ ih =>
    obtain ⟨hinner, hafter⟩ := hts.tail.bracketed rfl hread
    rcases ih hafter h with hfound | hblock
    · cases hfound
      exact .inr hinner
    · exact .inr hblock
  | case7 => cases h
  | case8 found t rest _ _ _ inner after hcut _ ih => exact ih (hts.enclosed hcut).2 h
  | case9 found t rest _ _ _ ih => exact ih hts.tail h

theorem spares_defineAll (site : Site) (hs : base ≤ site.scope) (owner : Nat)
    (ds : List FunctionDecl) : (defineAll site owner ds).Spares base := by
  induction ds with
  | nil => exact .pure ()
  | cons d ds ih =>
    have hfirst : (modify (·.register site { d.function with owner }) : Eval Unit).Spares base :=
      .step fun st => st.agreeBelow_register hs _
    exact hfirst.bind fun _ _ _ _ => ih

theorem spares_condition (hts : CallFree ts) (offset : Int) :
    (condition call site offset ts).Spares base := by
  unfold condition
  split
  · exact .stop _
  · apply Eval.Spares.bind (.of_after fun _ => after_evaluate hts)
    intro v _ _ _
    cases v with
    | bool b => exact .pure b
    | _ => exact .stop _

theorem spares_require (p : Progress) (place : Unterminated) (offset : Int) :
    (p.require place offset).Spares base := by
  unfold Progress.require
  split
  · exact .stop _
  · exact .pure ()

variable (call base) in
/-- At most `n` tokens without calls, run as statements of a block in a scope from `base` on,
leave everything below `base` alone. -/
def SparesRun (n : Nat) : Prop :=
  ∀ (site : Site) (ends : Int) (p : Progress) (ts : List Token), base ≤ site.scope →
    ts.length ≤ n → CallFree ts → (run call site true ends p ts).Spares base

namespace SparesRun

section

variable (hn : SparesRun call base n) (hs : base ≤ site.scope) (hlen : rest.length ≤ n)
include hn hs hlen

theorem expression (hts : CallFree (t :: rest)) (p : Progress) :
    (expression call site true ends p t rest).Spares base := by
  rw [expression_eq_phrase]
  apply Eval.Spares.bind (spares_require p _ _)
  intro _ _ _ _
  apply Eval.Spares.bind (.of_after fun _ => after_phrase hts ends)
  rintro ⟨v, after⟩ st st' hrun
  have hshort := length_of_phrase hrun
  rw [List.length_cons] at hshort
  obtain ⟨used, hused, _⟩ := local_phrase call site _ ends _ st v after st' (Nat.le_refl _) hrun
  rw [hused] at hts
  exact hn site ends _ after hs (by omega) hts.right

theorem assignment (hts : CallFree rest) (p : Progress) :
    (assignment call site true ends p t rest).Spares base := by
  unfold Quartz.assignment
  split
  · exact .pure _
  · next sign tail =>
      rw [List.length_cons] at hlen
      apply Eval.Spares.bind (spares_require p _ _)
      intro _ _ _ _
      split
      · exact .stop _
      · exact .stop _
      · next right after _ hcut =>
          have hcutLen := Bracket.length_of_terminated? hcut
          obtain ⟨hright, hafter⟩ := hts.tail.terminated hcut
          apply Eval.Spares.bind (.of_after fun _ => after_evaluate hright)
          intro v _ _ _
          -- The flag keeps the assignment in the frame at hand.
          have hstore : (store site true t.literal v).Spares base :=
            .step fun st => st.agreeBelow_declare hs _ _
          exact hstore.bind fun _ _ _ _ => hn site ends _ after hs (by omega) hafter

theorem mention (hts : CallFree (t :: rest)) (p : Progress) (m : State.Meaning) :
    (mention call site true ends p t rest m).Spares base := by
  unfold Quartz.mention
  split
  · exact hn.expression hs hlen hts p
  · apply Eval.Spares.bind (spares_require p _ _)
    intro _ _ _ _
    have hdeclare : (modify (·.declare site t.literal .null) : Eval Unit).Spares base :=
      .step fun st => st.agreeBelow_declare hs _ _
    apply hdeclare.bind
    intro _ _ _ _
    apply Eval.Spares.bind (.of_after fun _ => after_binary hts.tail ends false .null)
    rintro ⟨v, after⟩ st st' hrun
    have hshort := Eval.length_of_bare hrun
    obtain ⟨used, hused, _⟩ :=
      local_binary call site _ false .null ends _ st v after st' (Nat.le_refl _) hrun
    have hafter := hts.tail
    rw [hused] at hafter
    exact hn site ends _ after hs (by omega) hafter.right

end

/-- What follows a body: the value it returned, or the statements behind it. -/
theorem afterBody {k : Option Value → Eval Flow} (hk : ∀ value, (k value).Spares base)
    (last : Option Value) (flow : Flow) :
    (match flow with
      | .returned v o => pure (.returned v o)
      | .finished p => k (p.value <|> last) : Eval Flow).Spares base := by
  cases flow with
  | returned v o => exact .pure _
  | finished p => exact hk _

variable (hn : SparesRun call base n)
include hn

section

variable (hs : base ≤ site.scope) (hlen : ts.length ≤ n) (hts : CallFree ts) (last : Option Value)
  (taken : Bool)
include hs hlen hts

theorem final : (final call site true ends last taken ts).Spares base := by
  rw [final_eq]
  split
  · exact .stop _
  · next body after hcut =>
      have hcutLen := Declaration.length_of_bracketed hcut
      obtain ⟨hbody, hafter⟩ := hts.bracketed rfl hcut
      apply Eval.Spares.bind
      · split
        · exact .pure _
        · exact hn site _ {} body hs (by omega) hbody
      · intro flow _ _ _
        exact afterBody (k := fun value => run call site true ends ⟨none, value⟩ after)
          (fun _ => hn site ends _ after hs (by omega) hafter) last flow

theorem conditional (offset : Int) :
    (conditional call site true ends last taken offset ts).Spares base := by
  -- An `else if` goes on with a conditional of fewer tokens.
  induction hk : ts.length using Nat.strongRecOn generalizing ts last taken offset with
  | _ k ih =>
    rcases conditional_cases call site true ends ts with
      ⟨_, _, _, heq⟩ | ⟨test, middle, body, after, htest, hbody, heq⟩
    · rw [heq]
      exact .stop _
    · rw [heq, arm]
      have htestLen := Declaration.length_of_bracketed htest
      obtain ⟨htestFree, hrest⟩ := hts.bracketed rfl htest
      have hbodyLen := Declaration.length_of_bracketed hbody
      obtain ⟨hbodyFree, hafter⟩ := hrest.bracketed rfl hbody
      apply Eval.Spares.bind
      · split
        · exact .pure false
        · exact spares_condition htestFree offset
      intro holds _ _ _
      apply Eval.Spares.bind
      · split
        · exact hn site _ {} body hs (by omega) hbodyFree
        · exact .pure _
      intro flow _ _ _
      refine afterBody (k := fun value =>
        alternative call site true ends value (taken || holds) after) (fun value => ?_) last
        flow
      obtain ⟨f, hf, heq'⟩ := exists_proceeds call site true ends after
      rw [heq']
      cases hf with
      | elseIf =>
        simp only [List.length_cons] at hbodyLen
        exact ih _ (by omega) (by omega) hafter.tail.tail _ _ _ rfl
      | otherwise =>
        rw [List.length_cons] at hbodyLen
        exact hn.final hs (by omega) hafter.tail _ _
      | next => exact hn site ends _ after hs (by omega) hafter

end

/-- The variables block runs in the scope of the instance. -/
theorem setUp {scope : ScopeId} (hs : base ≤ scope) (name : Bytes) {block : Option (List Token)}
    (hblock : ∀ ts, block = some ts → ts.length ≤ n ∧ CallFree ts) :
    (setUp call name scope block).Spares base := by
  cases block with
  | none => exact .pure ()
  | some ts =>
    obtain ⟨hlen, hts⟩ := hblock ts rfl
    apply Eval.Spares.bind ((hn ⟨scope, 0⟩ _ {} ts hs hlen hts).mapFault _)
    intro flow _ _ _
    cases flow with
    | returned v offset => exact .stop _
    | finished p => exact .pure ()

theorem furnish {c : Instance} (hs : base ≤ c.scope) (name : Bytes)
    (hblock : ∀ m block, Members.scan body = .ok m → m.block = some block →
      block.length ≤ n ∧ CallFree block) : (furnish call name body c).Spares base := by
  unfold Quartz.furnish
  split
  · exact .stop _
  · next members hscan =>
      apply Eval.Spares.bind (spares_defineAll ⟨c.scope, 0⟩ hs c.id members.functions)
      intro _ _ _ _
      apply Eval.Spares.bind (hn.setUp hs name fun ts hts => hblock members ts hscan hts)
      intro _ _ _ _
      apply Eval.Spares.look
      intro st
      have hreport : (Eval.report (.classCreated name c.id
          (st.scope c.scope).root.funcs.size)).Spares base :=
        .step fun st' => st'.agreeBelow_report _ _ _
      exact hreport.bind fun _ _ _ _ => .pure c

theorem instantiate (outer : Option ScopeId) (name : Bytes)
    (hblock : ∀ m block, Members.scan body = .ok m → m.block = some block →
      block.length ≤ n ∧ CallFree block) : (instantiate call outer name body).Spares base := by
  rw [instantiate_eq]
  intro st hst
  -- The instance gets the next scope, which is not below `base`.
  have hagree := st.agreeBelow_allot hst outer
  have hfurnish := hn.furnish (c := st.nextInstance name body) hst name hblock
  exact hagree.trans (hfurnish _ (Nat.le_trans hst hagree.scopes_size))

/-- A class among the statements is built like any other, and then bound at the site. -/
theorem declareClass (hs : base ≤ site.scope) {d : ClassDecl} (hbody : CallFree d.body)
    (hlen : d.body.length ≤ n) {after : List Token} (hafterLen : after.length ≤ n)
    (hafter : CallFree after) (p : Progress) (globals : ScopeId) :
    (declareClass call site true ends p d after globals).Spares base := by
  unfold Quartz.declareClass
  apply Eval.Spares.bind
  · apply hn.instantiate
    intro m block hscan hb
    have hblockLen := Members.length_of_scan hscan hb
    exact ⟨by omega, (hbody.scanFrom hscan hb).resolve_left (by simp)⟩
  intro c _ _ _
  have hdeclare : (modify (·.declare site d.name (.object c)) : Eval Unit).Spares base :=
    .step fun st => st.agreeBelow_declare hs _ _
  exact hdeclare.bind fun _ _ _ _ => hn site ends p after hs hafterLen hafter

theorem succ : SparesRun call base (n + 1) := by
  intro site ends p ts hs hlen hts
  cases ts with
  | nil =>
    rw [run_nil]
    exact .pure _
  | cons t rest =>
    have hrest : rest.length ≤ n := by simpa using hlen
    obtain ⟨f, hf, hrun⟩ := exists_opens call site true t
    rw [hrun]
    cases hf with
    | eof ht => exact .pure _
    | refused form => exact .stop _
    | semicolon ht => exact hn site ends _ rest hs hrest hts.tail
    | idle ht => exact hn site ends p rest hs hrest hts.tail
    | name ht =>
      dsimp only
      split
      · exact hn.assignment hs hrest hts.tail p
      · exact Eval.Spares.look fun st => hn.mention hs hrest hts p _
    | ret =>
      apply Eval.Spares.bind (spares_require p _ _)
      intro _ _ _ _
      split
      · exact .stop _
      · exact .pure _
      · next right after _ hcut =>
          apply Eval.Spares.bind (.of_after fun _ => after_evaluate (hts.tail.terminated hcut).1)
          exact fun _ _ _ _ => .pure _
    | cond ht =>
      apply Eval.Spares.bind (spares_require p _ _)
      exact fun _ _ _ _ => hn.conditional hs hrest hts.tail p.last false t.offset
    | function ht =>
      dsimp only
      split
      · exact .stop _
      · next d after hread =>
          have hreadLen := FunctionDecl.length_of_read hread
          obtain ⟨used, hused, _⟩ := FunctionDecl.read_eq_ok_iff.1 hread
          rw [hused] at hts
          rw [List.length_cons] at hreadLen
          apply Eval.Spares.bind (spares_defineAll site hs 0 [d])
          exact fun _ _ _ _ => hn site ends p after hs (by omega) hts.right
    | crystal ht =>
      dsimp only
      split
      · exact .stop _
      · next d after hread =>
          have hreadLen := ClassDecl.length_of_read hread
          obtain ⟨used, hused, hwritten⟩ := ClassDecl.read_eq_ok_iff.1 hread
          rw [hused] at hts
          rw [List.length_cons] at hreadLen
          have hbody : CallFree d.body := by
            cases hwritten
            exact hts.left.tail.tail.tail.left
          apply Eval.Spares.look
          exact fun st => hn.declareClass hs hbody (by omega) (by omega) hts.right p _
    | expression ht => exact hn.expression hs hrest hts p

end SparesRun

theorem sparesRun (call : Caller) (base n : Nat) : SparesRun call base n := by
  induction n with
  | zero =>
    intro site ends p ts _ hlen _
    rw [List.eq_nil_of_length_eq_zero (Nat.le_zero.1 hlen), run_nil]
    exact .pure _
  | succ n ih => exact ih.succ

/-- A new instance has the next id and the next scope, and is then given its members. -/
theorem newInstance_apply (name : Bytes) (body : List Token) (globals : Option ScopeId)
    (st : State) : newInstance name body globals st =
      furnish (callFrom st (globals.getD 0)) name body
        (st.nextInstance name body) (st.nextId.2.newScope globals).2 := by
  rw [newInstance, Eval.get_bind_apply, instantiate_eq]
  rfl

/-- An instance that was given its members is the one that it was. It got the functions of its
class first, and then the variables. -/
theorem exists_of_furnish {name : Bytes} {c c' : Instance} {st st' : State}
    (h : furnish call name body c st = .ok c' st') :
    c' = c ∧ ∃ m defined prepared, Members.scan body = .ok m ∧
      defineAll ⟨c.scope, 0⟩ c.id m.functions st = .ok () defined ∧
      setUp call name c.scope m.block defined = .ok () prepared ∧ st'.scopes = prepared.scopes := by
  unfold furnish at h
  cases hscan : Members.scan body with
  | error e =>
    rw [hscan] at h
    cases h
  | ok m =>
    rw [hscan] at h
    obtain ⟨_, defined, hdefine, h⟩ := Eval.bind_eq_ok.1 h
    obtain ⟨_, prepared, hsetUp, h⟩ := Eval.bind_eq_ok.1 h
    cases h
    exact ⟨rfl, m, defined, prepared, rfl, hdefine, hsetUp, rfl⟩

/-- **Building an instance leaves its surroundings alone.** Whatever the globals, the class name
and the body are, if the variables block has no call in it, then the building of an instance,
whether it succeeds or fails, leaves every scope that was there before with all its frames as it
was, and every function and the output too. It adds scopes, one for each id that it hands out,
and reports nothing but the creation of instances. The instance has the first new id and the
first new scope. -/
theorem newInstance_agrees_below (name : Bytes) {body : List Token} (globals : Option ScopeId)
    (hblock : ∀ m block, Members.scan body = .ok m → m.block = some block → CallFree block)
    (st : State) :
    st.AgreeBelow st.scopes.size ((newInstance name body globals).after st) ∧
      st.scopes.size < ((newInstance name body globals).after st).scopes.size ∧
      ∀ c st', newInstance name body globals st = .ok c st' →
        c = st.nextInstance name body := by
  have hnew := newInstance_apply name body globals st
  have hafter : (newInstance name body globals).after st =
      (furnish (callFrom st (globals.getD 0)) name body
        (st.nextInstance name body)).after (st.nextId.2.newScope globals).2 := by
    unfold Eval.after
    rw [hnew]
  have hallot := st.agreeBelow_allot (Nat.le_refl _) globals
  have hsize : st.scopes.size < (st.nextId.2.newScope globals).2.scopes.size := by
    simp [State.newScope, State.addScope, State.nextId]
  have hrun := sparesRun (callFrom st (globals.getD 0)) st.scopes.size body.length
  have hfurnish := hrun.furnish (c := st.nextInstance name body)
    (Nat.le_refl _) name fun m block hscan hb =>
      ⟨by have := Members.length_of_scan hscan hb; omega, hblock m block hscan hb⟩
  have hrest := hfurnish _ hallot.scopes_size
  rw [← hafter] at hrest
  refine ⟨hallot.trans hrest, Nat.lt_of_lt_of_le hsize hrest.scopes_size, ?_⟩
  intro c st' hok
  rw [hnew] at hok
  exact (exists_of_furnish hok).1

/-- The block assigns to names of globals, in the body of a conditional and in a class inside it
too, and succeeds. -/
theorem newInstance_agrees_below_shadowing :
    let body := (Lexer.tokenize (utf8 ("variables \x7b k = false; if (k) \x7b \x7d else \x7b " ++
      "k = true; \x7d crystal B \x7b variables \x7b k = null; \x7d \x7d \x7d"))).filter
        (·.kind ≠ .eof)
    let block := (body.drop 2).dropLast
    let st := (({} : State).newScope none (some 4)).2.declare ⟨0, 0⟩ (utf8 "k") .null
    Members.scan body = .ok ⟨[], some block⟩ ∧ CallFree block ∧
      (result? (newInstance (utf8 "A") body (some 0) st)).isSome = true ∧
      st.AgreeBelow st.scopes.size ((newInstance (utf8 "A") body (some 0)).after st) := by
  intro body block st
  have hscan : Members.scan body = .ok ⟨[], some block⟩ := by decide +kernel
  have hfree : CallFree block := by decide +kernel
  have hok : (result? (newInstance (utf8 "A") body (some 0) st)).isSome = true := by
    decide +kernel
  refine ⟨hscan, hfree, hok, (newInstance_agrees_below (utf8 "A") (some 0) ?_ st).1⟩
  intro m ts hm hts
  rw [hscan] at hm
  cases hm
  cases hts
  exact hfree

end

end Quartz
