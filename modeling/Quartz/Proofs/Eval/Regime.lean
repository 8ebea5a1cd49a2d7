import Quartz.Program.Run
import Quartz.Proofs.Eval.Course

/-!
# `Quartz.Proofs.Eval.Regime`: properties that no script can break

A `Regime` is a property of states, together with the realm of what scripts may refer to in such a
state. It is lawful if none of the few ways in which a script touches the state breaks the property
or leads out of the realm (`Regime.Lawful`). There is one law for each of these ways.

Everything that runs under a lawful regime keeps it, however the run ends. What the run gives is
within the realm then, and a fault that stops it points at a token of the realm or nowhere
(`Regime.Runs`). This is proved here once: for the steps of a script (`Stepwise.runs`), for calls
by induction on their level (`under_callAt`), and for what hosts start: tokens that are executed,
members that are called, instances that are built and whole programs.
-/

set_option autoImplicit false

namespace Quartz

/-- A property of states, and what scripts may refer to in them. What is known of a state besides
itself goes along as an index. -/
structure Regime (κ : Type) where
  holds : κ → State → Prop
  realm : κ → State → Realm

namespace Regime

variable {κ : Type}

/-- The property holds in the state after a change, and nothing has left the realm. -/
structure Onward (R : Regime κ) (k : κ) (st : State) (k' : κ) (st' : State) : Prop where
  holds : R.holds k' st'
  realm_le : R.realm k st ≤ R.realm k' st'

namespace Onward

variable {R : Regime κ} {k k' k'' : κ} {st st' st'' : State}

theorem refl (h : R.holds k st) : R.Onward k st k st := ⟨h, Realm.le_refl _⟩

theorem trans (h : R.Onward k st k' st') (h' : R.Onward k' st' k'' st'') :
    R.Onward k st k'' st'' := ⟨h'.holds, Realm.le_trans h.realm_le h'.realm_le⟩

end Onward

/-- No step of a script breaks the property, or meets anything outside the realm. -/
structure Lawful (R : Regime κ) : Prop where
  meaning {k : κ} {st : State} (h : R.holds k st) {site : Site}
    (hs : (R.realm k st).scope site.scope) (name : Bytes) :
    (st.meaning site name).Within (R.realm k st)
  declare {k : κ} {st : State} (h : R.holds k st) {site : Site}
    (hs : (R.realm k st).scope site.scope) (name : Bytes) {v : Value}
    (hv : v.Within (R.realm k st)) : ∃ k', R.Onward k st k' (st.declare site name v)
  assign {k : κ} {st : State} (h : R.holds k st) {site : Site}
    (hs : (R.realm k st).scope site.scope) (name : Bytes) {v : Value}
    (hv : v.Within (R.realm k st)) : ∃ k', R.Onward k st k' (st.assign site name v)
  register {k : κ} {st : State} (h : R.holds k st) {site : Site}
    (hs : (R.realm k st).scope site.scope) {fn : Function} (hh : fn.home = none)
    (hn : fn.native = none) (hb : (R.realm k st).Reads fn.body)
    (ho : (R.realm k st).Owner site fn.owner) : ∃ k', R.Onward k st k' (st.register site fn)
  outermost {k : κ} {st : State} (h : R.holds k st) {s : ScopeId} (hs : (R.realm k st).scope s) :
    (R.realm k st).scope (st.outermost s)
  allot {k : κ} {st : State} (h : R.holds k st) {outer : Option ScopeId}
    (ho : ∀ o, outer = some o → (R.realm k st).scope o) (name : Bytes) (body : List Token) :
    ∃ k', R.Onward k st k' (st.nextId.2.newScope outer).2 ∧
      (R.realm k' (st.nextId.2.newScope outer).2).started
        (st.nextInstance name body)
  started {k : κ} {st : State} (h : R.holds k st) {c : Instance}
    (hc : (R.realm k st).started c) : (R.realm k st).scope c.scope
  /-- Printing and reporting do not matter. -/
  aside {k : κ} {st st' : State} (h : R.holds k st) (hs : st'.scopes = st.scopes)
    (hf : st'.functions = st.functions) (hi : st'.lastId = st.lastId) :
    ∃ k', R.Onward k st k' st'
  copy {k : κ} {st : State} (h : R.holds k st) {c : Instance} (hc : (R.realm k st).object c) :
    ∃ k', R.Onward k st k' (st.copy c).2 ∧ (R.realm k' (st.copy c).2).object (st.copy c).1
  member {k : κ} {st : State} (h : R.holds k st) {c : Instance}
    (hc : (R.realm k st).scope c.table) {name : Bytes} {f : FunctionId}
    (hf : (st.functionsOf c).get? name = some f) : (R.realm k st).function f
  native {k : κ} {st : State} (h : R.holds k st) {f : FunctionId}
    (hf : (R.realm k st).function f) {v : Value}
    (hv : (st.function f).native = some (.constant v)) : v.Within (R.realm k st)
  body {k : κ} {st : State} (h : R.holds k st) {f : FunctionId}
    (hf : (R.realm k st).function f) : (R.realm k st).Reads (st.function f).body
  home {k : κ} {st : State} (h : R.holds k st) {f : FunctionId}
    (hf : (R.realm k st).function f) {s : ScopeId} (hs : (st.function f).home = some s) :
    (R.realm k st).scope s
  shelter {k : κ} {st : State} (h : R.holds k st) {f : FunctionId}
    (hf : (R.realm k st).function f) (hh : (st.function f).home = none) :
    ∃ k', R.Onward k st k' (st.shelter f) ∧ (R.realm k' (st.shelter f)).scope st.scopes.size
  push {k : κ} {st : State} (h : R.holds k st) {s : ScopeId} (hs : (R.realm k st).scope s) :
    ∃ k', R.Onward k st k' (st.push s 0)
  release {k : κ} {st : State} (h : R.holds k st) {s : ScopeId} (hs : (R.realm k st).scope s)
    (i : Nat) : ∃ k', R.Onward k st k' (st.release s i)

/-! ### Runs -/

/-- A run keeps the property, however it ends, and its results are within the realm. A fault that
stops it points at a token of the realm or nowhere. -/
def Runs (R : Regime κ) (k : κ) (st : State) {α : Type} (Q : Realm → α → Prop) (x : Eval α) :
    Prop :=
  x.Ends st (R.Onward k st) (fun k' st' f => f.Within (R.realm k' st')) fun k' st' =>
    Q (R.realm k' st')

namespace Runs

variable {R : Regime κ} {k : κ} {st : State} {α β : Type} {P Q : Realm → α → Prop}
  {S : Realm → β → Prop} {x : Eval α}

theorem pure (hst : R.holds k st) {a : α} (h : Q (R.realm k st) a) :
    R.Runs k st Q (Pure.pure a : Eval α) := ⟨k, .refl hst, h⟩

theorem ofFault (hst : R.holds k st) {f : Fault} (h : x st = .error (.fault f) st)
    (hf : f.Within (R.realm k st)) : R.Runs k st Q x := by
  refine .ofError h (.refl hst) fun f' hf' => ?_
  cases hf'
  exact hf

theorem fail (hst : R.holds k st) (cause : Cause) {offset : Int}
    (h : (R.realm k st).Points offset) : R.Runs k st Q (Eval.fail cause offset : Eval α) :=
  .ofFault hst (Eval.fail_apply cause offset st) (.runtime h)

theorem bind {f : α → Eval β} (hx : R.Runs k st P x)
    (hf : ∀ a k' st', R.Onward k st k' st' → P (R.realm k' st') a → R.Runs k' st' S (f a)) :
    R.Runs k st S (x >>= f) :=
  Eval.Ends.andThen Onward.trans hx hf

theorem mapFault {g : Fault → Fault} (hx : R.Runs k st Q x)
    (hg : ∀ w f, R.realm k st ≤ w → f.Within w → (g f).Within w) :
    R.Runs k st Q (Eval.mapFault g x) :=
  Eval.Ends.mapFault hx fun _ _ f hon hf => hg _ f hon.realm_le hf

theorem get {f : State → Eval α} (h : R.Runs k st Q (f st)) : R.Runs k st Q (get >>= f) := h

/-- A check points where it is told to. -/
theorem ofOperator (hst : R.holds k st) {offset : Int} (h : (R.realm k st).Points offset)
    (r : Except Cause α) : R.Runs k st (fun _ _ => True) (Eval.ofOperator offset r) := by
  cases r with
  | ok a => exact .pure hst trivial
  | error cause => exact .fail hst cause h

/-- A change of the state as a run. -/
theorem modify {f : State → State} (h : ∃ k', R.Onward k st k' (f st)) :
    R.Runs k st (fun _ _ => True) (modify f : Eval Unit) := by
  obtain ⟨k', hon⟩ := h
  exact ⟨k', hon, trivial⟩

end Runs

end Regime

/-- Calls of functions in the realm keep the property. -/
def Caller.Under {κ : Type} (R : Regime κ) (call : Caller) : Prop :=
  ∀ (f : FunctionId) (args : List Value) (k : κ) (st : State), R.holds k st →
    (R.realm k st).function f → (∀ v ∈ args, v.Within (R.realm k st)) →
    R.Runs k st (fun w v => v.Within w) (call f args)

section

variable {κ : Type} {R : Regime κ} {k : κ} {st : State}

variable (hR : R.Lawful)
include hR

theorem Regime.Lawful.runs_allot (hst : R.holds k st) {outer : Option ScopeId}
    (ho : ∀ o, outer = some o → (R.realm k st).scope o) (name : Bytes) (body : List Token) :
    R.Runs k st (fun w c => w.started c) (Quartz.allot outer name body) :=
  hR.allot hst ho name body

/-- The steps of a script keep the property. -/
theorem Stepwise.runs {call : Caller} (hcall : call.Under R) {writes : Bool} {w : Realm}
    {site : Site} {α : Type} {Q : Realm → α → Prop} {x : Eval α}
    (hx : Stepwise call writes w site Q x) (k : κ) (st : State) (hw : w = R.realm k st)
    (hst : R.holds k st) (hsite : w.scope site.scope) : R.Runs k st Q x := by
  induction hx generalizing k st with
  | pure h => exact .pure hst (hw ▸ h)
  | stop hf => exact .ofFault hst (Eval.stop_apply _ st) (hw ▸ hf)
  | bind _ _ ihx ihf =>
    refine .bind (ihx k st hw hst hsite) fun a k' st' hon ha => ?_
    have hle := hon.realm_le
    rw [← hw] at hle
    exact ihf _ a hle ha k' st' rfl hon.holds (hle.scope _ hsite)
  | mapFault hg _ ih =>
    subst hw
    exact (ih k st rfl hst hsite).mapFault hg
  | @meaning w site _ _ name f _ ih =>
    subst hw
    exact ih _ _ (Realm.le_refl _) (hR.meaning hst hsite name) k st rfl hst hsite
  | call hf hargs =>
    subst hw
    exact hcall _ _ k st hst hf hargs
  | declare _ name hv =>
    subst hw
    exact .modify (hR.declare hst hsite name hv)
  | assign _ name hv =>
    subst hw
    exact .modify (hR.assign hst hsite name hv)
  | register _ hh hn hb ho =>
    subst hw
    exact .modify (hR.register hst hsite hh hn hb ho)
  | outermost _ _ _ _ ih =>
    subst hw
    exact ih _ _ (Realm.le_refl _) (hR.outermost hst hsite) k st rfl hst hsite
  | allot _ ho name body =>
    subst hw
    exact hR.runs_allot hst (fun o heq => Option.some.inj heq ▸ ho) name body
  | inside _ hc _ ih =>
    subst hw
    exact ih k st rfl hst (hR.started hst hc)
  | created => exact .get (.modify (hR.aside hst rfl rfl rfl))

/-! ### Calls -/

theorem Regime.Lawful.runs_perform (native : Native) {args : List Value} (hst : R.holds k st)
    (hn : ∀ v, native = .constant v → v.Within (R.realm k st))
    (hargs : ∀ v ∈ args, v.Within (R.realm k st)) :
    R.Runs k st (fun w v => v.Within w) (native.perform args) := by
  cases native with
  | print =>
    refine .get ?_
    split
    -- A fault that is no error of a script points nowhere.
    · refine .ofFault hst (Eval.stop_apply _ st) fun e he => ?_
      cases he
    · exact .bind (.modify (hR.aside hst rfl rfl rfl)) fun _ _ _ hon _ => .pure hon.holds trivial
  | typeOf => exact .pure hst trivial
  | create =>
    have hhead := within_headD hargs
    unfold Native.perform
    dsimp only
    split
    · next c hc =>
        rw [hc] at hhead
        obtain ⟨k', hon, hobject⟩ := hR.copy hst hhead
        exact ⟨k', hon, hobject⟩
    · exact .fail hst _ (Realm.points_none _)
  | fails message =>
    refine .ofFault hst (Eval.stop_apply _ st) fun e he => ?_
    cases he
  | argument index => exact .pure hst (within_getD hargs index)
  | constant v => exact .pure hst (hn v rfl)

theorem Regime.Lawful.runs_homeOf {f : FunctionId} (hst : R.holds k st)
    (hf : (R.realm k st).function f) : R.Runs k st (fun w s => w.scope s) (homeOf f) := by
  refine .get ?_
  split
  · next s hs => exact .pure hst (hR.home hst hf hs)
  · next hh => exact hR.shelter hst hf hh

/-- A run in a frame of its own. -/
theorem Regime.Lawful.runs_pushed {s : ScopeId} (hst : R.holds k st) (hs : (R.realm k st).scope s)
    {α : Type} {Q : Realm → α → Prop} (hQ : ∀ {w w' : Realm} {a : α}, w ≤ w' → Q w a → Q w' a)
    {body : Nat → Eval α}
    (hbody : ∀ k' st', R.Onward k st k' st' → R.Runs k' st' Q (body (st.scope s).live)) :
    R.Runs k st Q (do
      let i ← pushFrame s 0
      Eval.thenAlways (·.release s i) (body i)) := by
  cases hfull : (st.scope s).full with
  | true =>
    exact .ofFault hst (Eval.bind_of_error (pushFrame_of_full hfull 0))
      (.runtime (Realm.points_none _))
  | false =>
    obtain ⟨k₁, hpush⟩ := hR.push hst hs
    have hrun := hbody k₁ _ hpush
    unfold Runs Eval.Ends at hrun ⊢
    rw [Eval.bind_of_ok (pushFrame_of_room hfull 0), Eval.thenAlways]
    -- However the body ends, the frame is released in the scope, which is still in the realm.
    have hrelease : ∀ k' st', R.Onward k₁ (st.push s 0) k' st' →
        ∃ k'', R.Onward k' st' k'' (st'.release s (st.scope s).live) := fun k' st' hon =>
      hR.release hon.holds ((hpush.trans hon).realm_le.scope s hs) _
    cases hres : body (st.scope s).live (st.push s 0) with
    | ok a st' =>
      rw [hres] at hrun
      obtain ⟨k', hon, ha⟩ := hrun
      obtain ⟨k'', hon'⟩ := hrelease k' st' hon
      exact ⟨k'', hpush.trans (hon.trans hon'), hQ hon'.realm_le ha⟩
    | error stop st' =>
      rw [hres] at hrun
      obtain ⟨k', hon, hf⟩ := hrun
      obtain ⟨k'', hon'⟩ := hrelease k' st' hon
      exact ⟨k'', hpush.trans (hon.trans hon'), fun f hstop => (hf f hstop).mono hon'.realm_le⟩

/-- A call works in a frame of its own, on top of a scope of the realm. -/
theorem Regime.Lawful.under_invoke {call : Caller} (hcall : call.Under R) :
    (invoke call).Under R := by
  intro f args k st hst hf hargs
  refine .get (.bind (.ofOperator hst (Realm.points_none _) _) fun _ k₁ st₁ hon₁ _ => ?_)
  have hle₁ := hon₁.realm_le
  split
  · next native hn =>
      refine hR.runs_perform native hon₁.holds (fun v hv => ?_) fun v hv => (hargs v hv).mono hle₁
      exact (hR.native hst hf (hv ▸ hn)).mono hle₁
  · refine .bind (hR.runs_homeOf hon₁.holds (hle₁.function f hf)) fun home k₂ st₂ hon₂ hhome => ?_
    refine hR.runs_pushed hon₂.holds hhome (fun hle hv => hv.mono hle) fun k₃ st₃ hon₃ => .get ?_
    refine .bind (.modify (hR.aside hon₃.holds rfl rfl rfl)) fun _ k₄ st₄ hon₄ _ => ?_
    have hlater := hon₃.trans hon₄
    have hle₄ := Realm.le_trans hle₁ (hon₂.trans hlater).realm_le
    have hargs₄ : ∀ v ∈ args, v.Within (R.realm k₄ st₄) := fun v hv => (hargs v hv).mono hle₄
    have hbody := stepwise_call call ⟨home, (st₂.scope home).live⟩ ((hR.body hst hf).mono hle₄)
      hargs₄
    exact hbody.runs hR hcall k₄ st₄ rfl hon₄.holds (hlater.realm_le.scope _ hhome)

/-- Calls at every level keep the property. -/
theorem Regime.Lawful.under_callAt (n : Nat) : (callAt n).Under R := by
  -- On the level: a call at one level calls at the level below.
  induction n with
  | zero =>
    intro f args k st hst _ _
    refine .ofError rfl (.refl hst) fun f' hf' => ?_
    cases hf'
  | succ n ih =>
    intro f args k st hst hf hargs
    refine .get (.bind (.ofOperator hst (Realm.points_none _) _) fun _ k₁ st₁ hon₁ _ => ?_)
    refine .bind (.ofOperator hon₁.holds (Realm.points_none _) _) fun _ k₂ st₂ hon₂ _ => ?_
    have hle := (hon₁.trans hon₂).realm_le
    exact hR.under_invoke ih f args k₂ st₂ hon₂.holds (hle.function f hf)
      fun v hv => (hargs v hv).mono hle

/-! ### What hosts start -/

variable (hst : R.holds k st)
include hst

/-- A member function of an instance is called. -/
theorem Regime.Lawful.runs_callMember {c : Instance} (hc : (R.realm k st).scope c.table)
    (name : Bytes) {args : List Value} (hargs : ∀ v ∈ args, v.Within (R.realm k st)) :
    R.Runs k st (fun w v => v.Within w) (callMember c name args) := by
  refine .get ?_
  split
  · exact .fail hst _ (Realm.points_none _)
  · next f hf => exact .get (hR.under_callAt _ f args k st hst (hR.member hst hc hf) hargs)

/-- Tokens are executed in a scope. -/
theorem Regime.Lawful.runs_execute {s : ScopeId} (hs : (R.realm k st).scope s) {ts : List Token}
    (hr : (R.realm k st).Reads ts) : R.Runs k st (fun w v => v.Within w) (execute s ts) := by
  have hcall : (callFrom st s).Under R := hR.under_callAt _
  have hrun := (stepwise_run (callFrom st s) ⟨s, 0⟩ false hr.last (.empty _) hr).runs hR hcall k st
    rfl hst hs
  refine .get (.bind hrun fun flow k' st' hon hflow => ?_)
  cases flow with
  | returned v offset => exact .fail hon.holds _ hflow.2
  | finished p =>
    dsimp only
    split
    · exact .fail hon.holds _ (hr.last.mono hon.realm_le)
    · refine .pure hon.holds ?_
      cases hlast : p.last with
      | none => trivial
      | some v => exact hflow v (.inr hlast)

/-- An instance is built inside a scope, or on its own. -/
theorem Regime.Lawful.runs_newInstance {globals : Option ScopeId}
    (hg : ∀ s, globals = some s → (R.realm k st).scope s) (name : Bytes) {body : List Token}
    (hr : (R.realm k st).Reads body) :
    R.Runs k st (fun w c => w.started c) (newInstance name body globals) := by
  have hcall : (callFrom st (globals.getD 0)).Under R := hR.under_callAt _
  refine .get ?_
  rw [instantiate_eq]
  refine .bind (hR.runs_allot hst hg name body) fun c k' st' hon hc => ?_
  have hfurnish : Stepwise _ true (R.realm k' st') ⟨c.scope, 0⟩ (fun w c => w.started c)
      (furnish (callFrom st (globals.getD 0)) name body c) :=
    (stepwiseRun _ body.length).furnish hc name (Nat.le_refl _) (hr.mono hon.realm_le)
  exact hfurnish.runs hR hcall k' st' rfl hon.holds (hR.started hon.holds hc)

/-! ### Programs -/

theorem Regime.Lawful.runs_buildClasses {s : ScopeId} {ds : List ClassDecl}
    (hs : (R.realm k st).scope s) (hr : ∀ d ∈ ds, (R.realm k st).Reads d.body) :
    R.Runs k st (fun _ _ => True) (Program.buildClasses s ds) := by
  induction ds generalizing k st with
  | nil => exact .pure hst trivial
  | cons d ds ih =>
    obtain ⟨hd, hds⟩ := List.forall_mem_cons.1 hr
    refine .bind (hR.runs_newInstance hst (fun _ heq => Option.some.inj heq ▸ hs) d.name hd)
      fun c k₁ st₁ hon₁ hc => ?_
    have hheld : (Value.object c).Within (R.realm k₁ st₁) := (R.realm k₁ st₁).started_object c hc
    have hs₁ := hon₁.realm_le.scope s hs
    have hbound := @hR.declare k₁ st₁ hon₁.holds ⟨s, 0⟩ hs₁ d.name _ hheld
    refine .bind (.modify hbound) fun _ k₂ st₂ hon₂ _ => ?_
    have hle := (hon₁.trans hon₂).realm_le
    exact ih hon₂.holds (hle.scope s hs) fun d' hd' => (hds d' hd').mono hle

/-- A program whose tokens are in the realm runs in a scope. -/
theorem Regime.Lawful.runs_program {p : Program} {s : ScopeId} (hs : (R.realm k st).scope s)
    (hf : ∀ d ∈ p.functions, (R.realm k st).Reads d.body)
    (hc : ∀ d ∈ p.classes, (R.realm k st).Reads d.body) (hm : (R.realm k st).Reads p.main) :
    R.Runs k st (fun w v => v.Within w) (p.perform s) := by
  -- The three parts of a program in turn.
  have hfunctions : Stepwise (callAt 0) true (R.realm k st) ⟨s, 0⟩ (fun _ _ => True)
      (defineAll ⟨s, 0⟩ 0 p.functions) := stepwise_defineAll ⟨s, 0⟩ (.inl rfl) hf
  refine .bind (hfunctions.runs hR (hR.under_callAt 0) k st rfl hst hs) fun _ k₁ st₁ hon₁ _ => ?_
  have hs₁ := hon₁.realm_le.scope s hs
  refine .bind (hR.runs_buildClasses hon₁.holds hs₁ fun d hd => (hc d hd).mono hon₁.realm_le)
    fun _ k₂ st₂ hon₂ _ => ?_
  refine .bind (.modify (hR.aside hon₂.holds rfl rfl rfl)) fun _ k₃ st₃ hon₃ _ => ?_
  have hle := (hon₁.trans (hon₂.trans hon₃)).realm_le
  exact hR.runs_execute hon₃.holds (hle.scope s hs) (hm.mono hle)

end

end Quartz
