import Quartz.Proofs.Eval.Course
import Quartz.Proofs.State.Alone

/-!
# `Quartz.Proofs.Eval.Settle`: scripts without classes come to an end

Readers end because they use up tokens, and calls end because they use up levels. A run that has no
level left is exhausted. In a scope that stands alone every call pushes a frame onto that scope, so
the limit of the scope stops the calls before the levels are used up: no run in it is exhausted
(`settles_callAt`).

`Settles` says this of a run, and that the scope stands alone afterwards if the run gives a value.
Scripts settle by the steps that they take (`Stepwise.settles`). To start an instance they would
have to read the keyword of a class, and no token of the realm is that keyword.
-/

set_option autoImplicit false

namespace Quartz

/-- A run is not exhausted, and what it gives leaves the scope alone. -/
def Settles (s : ScopeId) (first n : Nat) (st : State) {α : Type} (Q : Realm → α → Prop)
    (x : Eval α) : Prop :=
  match x st with
  | .ok a st' => st.Onward s first n st' ∧ Q (enclave first st'.functions.size) a
  | .error stop _ => stop ≠ .exhausted

namespace Settles

variable {s : ScopeId} {first n : Nat} {st st' : State} {α β : Type} {P Q : Realm → α → Prop}
  {R : Realm → β → Prop} {x : Eval α}

theorem ofFault {f : Fault} (hrun : x st = .error (.fault f) st') :
    Settles s first n st Q x := by
  unfold Settles
  rw [hrun]
  simp

theorem pure {a : α} (h : st.Alone s first n) (ha : Q (enclave first st.functions.size) a) :
    Settles s first n st Q (Pure.pure a : Eval α) := ⟨.refl h, ha⟩

theorem stop (f : Fault) : Settles s first n st Q (Eval.stop f : Eval α) := .ofFault rfl

theorem fail (cause : Cause) (offset : Int) :
    Settles s first n st Q (Eval.fail cause offset : Eval α) := .stop _

theorem ofOperator {offset : Int} {r : Except Cause α} (h : st.Alone s first n) :
    Settles s first n st (fun _ a => r = .ok a) (Eval.ofOperator offset r) := by
  cases r with
  | ok a => exact .pure h rfl
  | error cause => exact .fail cause offset

theorem bind {f : α → Eval β} (hx : Settles s first n st P x)
    (hf : ∀ a st', x st = .ok a st' → st.Onward s first n st' →
      P (enclave first st'.functions.size) a → Settles s first n st' R (f a)) :
    Settles s first n st R (x >>= f) := by
  unfold Settles at hx
  cases hrun : x st with
  | error stop mid =>
    rw [hrun] at hx
    unfold Settles
    rw [Eval.bind_of_error hrun]
    exact hx
  | ok a mid =>
    rw [hrun] at hx
    have hnext := hf a mid hrun hx.1 hx.2
    unfold Settles at hnext ⊢
    rw [Eval.bind_of_ok hrun]
    split at hnext
    · exact ⟨hx.1.trans hnext.1, hnext.2⟩
    · exact hnext

/-- A run whose first part is known and changes nothing. -/
theorem bindOk {f : α → Eval β} {a : α} (hrun : x st = .ok a st)
    (hf : Settles s first n st R (f a)) : Settles s first n st R (x >>= f) := by
  unfold Settles at hf ⊢
  rwa [Eval.bind_of_ok hrun]

theorem mapFault (g : Fault → Fault) (hx : Settles s first n st Q x) :
    Settles s first n st Q (Eval.mapFault g x) := by
  unfold Settles Eval.mapFault at *
  cases hrun : x st with
  | ok a mid =>
    rw [hrun] at hx
    exact hx
  | error stop mid =>
    rw [hrun] at hx
    cases stop with
    | fault f => simp
    | exhausted => exact absurd rfl hx

theorem modify {f : State → State} (h : st.Onward s first n (f st)) :
    Settles s first n st (fun _ _ => True) (modify f : Eval Unit) := ⟨h, trivial⟩

theorem get {f : State → Eval α} (h : Settles s first n st Q (f st)) :
    Settles s first n st Q (get >>= f) := h

end Settles

/-- Calls settle wherever a scope stands alone with `n` levels. -/
def Caller.Settles (s : ScopeId) (first n : Nat) (call : Caller) : Prop :=
  ∀ (f : FunctionId) (args : List Value) (st : State), st.Alone s first n →
    (enclave first st.functions.size).function f →
    (∀ v ∈ args, v.Within (enclave first st.functions.size)) →
    Quartz.Settles s first n st (fun w v => v.Within w) (call f args)

section

variable {s : ScopeId} {first n : Nat} {call : Caller}

/-- The steps of a script without classes settle. -/
theorem Stepwise.settles (hcall : call.Settles s first n) {writes : Bool} {w : Realm} {site : Site}
    {α : Type} {Q : Realm → α → Prop} {x : Eval α} (hx : Stepwise call writes w site Q x)
    (hsite : site.scope = s) (st : State) (hst : st.Alone s first n)
    (hw : w = enclave first st.functions.size) : Settles s first n st Q x := by
  induction hx generalizing st with
  | pure h => exact .pure hst (hw ▸ h)
  | stop _ => exact .stop _
  | bind _ _ ihx ihf =>
    refine Settles.bind (ihx hsite st hst hw) fun a st' _ hon ha => ?_
    refine ihf _ a ?_ ha hsite st' hon.alone rfl
    rw [hw]
    exact hon.realm_le
  | mapFault _ _ ih => exact (ih hsite st hst hw).mapFault _
  | @meaning w site _ _ name f _ ih =>
    obtain ⟨t, i⟩ := site
    cases hsite
    have hmeaning := hst.meaning i name
    rw [← hw] at hmeaning
    exact ih w _ (Realm.le_refl w) hmeaning rfl st hst hw
  | call hf hargs =>
    subst hw
    exact hcall _ _ st hst hf hargs
  | @declare w site _ name v hv =>
    obtain ⟨t, i⟩ := site
    cases hsite
    exact .modify (hst.declare i name (hw ▸ hv))
  | @assign w site _ name v hv =>
    obtain ⟨t, i⟩ := site
    cases hsite
    exact .modify (hst.assign i name (hw ▸ hv))
  | @register w site _ fn hh hn hb ho =>
    obtain ⟨t, i⟩ := site
    cases hsite
    subst hw
    refine .modify (hst.register i hh ⟨fun native hnative => ?_, fun _ => rfl, hb⟩)
    rw [show ({ fn with home := some t } : Function).native = none from hn] at hnative
    cases hnative
  -- Nothing that is read declares a class, so no instance is started.
  | @outermost _ _ _ _ _ t ht hk =>
    subst hw
    have hfree : t.isKeyword .crystal = false := ht
    rw [hfree] at hk
    cases hk
  | allot _ ho =>
    subst hw
    exact ho.elim
  | inside _ hc _ _ =>
    subst hw
    exact hc.elim
  | created => exact .get (.modify (hst.onward rfl rfl))

/-! ### Calls -/

section

variable {st : State}

theorem settles_perform (hst : st.Alone s first n) {native : Native}
    (hnative : native = .print ∨ native = .typeOf ∨ native = .create) {args : List Value}
    (hargs : ∀ v ∈ args, v.Within (enclave first st.functions.size)) :
    Settles s first n st (fun w v => v.Within w) (native.perform args) := by
  rcases hnative with rfl | rfl | rfl
  · apply Settles.get
    split
    · exact .stop _
    · apply (Settles.modify (hst.onward rfl rfl)).bind
      intro _ st' _ hon _
      exact .pure hon.alone trivial
  · exact .pure hst trivial
  · -- There is no instance to copy.
    have hhead := within_headD hargs
    unfold Native.perform
    cases hvalue : args.headD .null with
    | object c =>
      rw [hvalue] at hhead
      exact hhead.elim
    | _ => exact .fail _ _

/-- A run in a frame of its own. -/
theorem settles_pushed (hst : st.Alone s first (n + 1)) {α : Type} {Q : Realm → α → Prop}
    {body : Nat → Eval α}
    (hbody : (st.scope s).full = false →
      Settles s first n (st.push s 0) Q (body (st.scope s).live)) :
    Settles s first (n + 1) st Q (do
      let i ← pushFrame s 0
      Eval.thenAlways (·.release s i) (body i)) := by
  cases hfull : (st.scope s).full with
  | true => exact .ofFault (Eval.bind_of_error (pushFrame_of_full hfull 0))
  | false =>
    have hrun := hbody hfull
    unfold Settles at hrun ⊢
    rw [Eval.bind_of_ok (pushFrame_of_room hfull 0), Eval.thenAlways]
    cases hres : body (st.scope s).live (st.push s 0) with
    | ok a st' =>
      rw [hres] at hrun
      refine ⟨hst.release hrun.1, ?_⟩
      rw [State.functions_release]
      exact hrun.2
    | error stop st' =>
      rw [hres] at hrun
      exact hrun

theorem settles_invoke (hcall : call.Settles s first n) :
    (invoke call).Settles s first (n + 1) := by
  intro f args st hst hf hargs
  have hfn := hst.function f hf.1 hf.2
  apply Settles.get
  apply (Settles.ofOperator hst).bind
  intro _ st₁ hrun₁ _ _
  obtain ⟨_, rfl⟩ := Eval.ofOperator_eq_ok hrun₁
  cases hnative : (st₁.function f).native with
  | some native => exact settles_perform hst (hfn.native native hnative) hargs
  | none =>
    have hhome : homeOf f st₁ = .ok s st₁ := by
      rw [homeOf, Eval.get_bind_apply, hfn.home hnative]
      rfl
    apply Settles.bindOk hhome
    apply settles_pushed hst
    intro hfull
    have hpushed := hst.push hfull
    apply Settles.get
    apply (Settles.modify (hpushed.onward rfl rfl)).bind
    intro _ st₂ _ hon₂ _
    have hargs₂ : ∀ v ∈ args, v.Within (enclave first st₂.functions.size) := fun v hv =>
      (hargs v hv).mono hon₂.realm_le
    have hr : (enclave first st₂.functions.size).Reads (st₁.function f).body := hfn.body
    exact (stepwise_call call ⟨s, _⟩ hr hargs₂).settles hcall rfl st₂ hon₂.alone rfl

theorem settles_callAt (s : ScopeId) (first n : Nat) : (callAt n).Settles s first n := by
  induction n with
  | zero =>
    -- Without room the scope cannot hold its frames.
    intro f args st hst _ _
    have hroom := hst.room
    have hlimit := hst.live_le_limit
    omega
  | succ n ih =>
    intro f args st hst hf hargs
    apply Settles.get
    apply (Settles.ofOperator hst).bind
    intro _ st₁ hrun₁ _ _
    obtain ⟨_, rfl⟩ := Eval.ofOperator_eq_ok hrun₁
    apply (Settles.ofOperator hst).bind
    intro _ st₂ hrun₂ _ _
    obtain ⟨_, rfl⟩ := Eval.ofOperator_eq_ok hrun₂
    exact settles_invoke ih f args st₂ hst hf hargs

end

end

end Quartz
