import Quartz.Proofs.Eval.Course
import Quartz.Proofs.State.Alike

/-!
# `Quartz.Proofs.Eval.Respect`: runs from states that they cannot tell apart

Two states are akin if they differ at most in the locals of callers, or at most in their
journals (`State.Akin`). From such states a run gives the same value or the same error, and it
ends in states that are akin again (`Eval.Respects`).

The proof goes along the steps of a script (`Stepwise.respects`) and along calls
(`respects_callAt`), as that in `Quartz.Proofs.Eval.Course` does.
-/

set_option autoImplicit false

namespace Quartz

/-! ### Two runs side by side -/

/-- Two runs end with the same value or the same error, in states that are related. -/
inductive SameEnd (related : State → State → Prop) {α : Type} :
    EStateM.Result Stop State α → EStateM.Result Stop State α → Prop
  | ok {a : α} {st st' : State} (h : related st st') : SameEnd related (.ok a st) (.ok a st')
  | error {stop : Stop} {st st' : State} (h : related st st') :
      SameEnd related (.error stop st) (.error stop st')

theorem SameEnd.mono {related related' : State → State → Prop} {α : Type}
    {r r' : EStateM.Result Stop State α} (h : SameEnd related r r')
    (himp : ∀ st st', related st st' → related' st st') : SameEnd related' r r' := by
  cases h with
  | ok h => exact .ok (himp _ _ h)
  | error h => exact .error (himp _ _ h)

/-- From a state and any that is akin, a run ends in the same way. -/
def Eval.Respects (base : ScopeId → Nat) (logged : Bool) {α : Type} (x : Eval α) (st : State) :
    Prop :=
  ∀ st', st.Akin base logged st' → SameEnd (State.Akin base logged) (x st) (x st')

namespace Eval.Respects

variable {base : ScopeId → Nat} {logged : Bool} {α β : Type} {x : Eval α} {st : State}

theorem pure (a : α) (st : State) : Respects base logged (Pure.pure a : Eval α) st :=
  fun _ h => .ok h

theorem stop (f : Fault) (st : State) : Respects base logged (Eval.stop f : Eval α) st :=
  fun _ h => .error h

theorem ofOperator (offset : Int) (r : Except Cause α) (st : State) :
    Respects base logged (Eval.ofOperator offset r) st := by
  cases r with
  | ok a => exact .pure a st
  | error cause => exact .stop _ st

theorem bind {f : α → Eval β} (hx : x.Respects base logged st)
    (hf : ∀ a mid, x st = .ok a mid → (f a).Respects base logged mid) :
    (x >>= f).Respects base logged st := by
  intro st' h
  have hfirst := hx st' h
  generalize hrun' : x st' = r' at hfirst
  cases hrun : x st with
  | ok a mid =>
    rw [hrun] at hfirst
    cases hfirst with
    | ok hmid =>
      rw [Eval.bind_of_ok hrun, Eval.bind_of_ok hrun']
      exact hf a mid hrun _ hmid
  | error stop mid =>
    rw [hrun] at hfirst
    cases hfirst with
    | error hmid =>
      rw [Eval.bind_of_error hrun, Eval.bind_of_error hrun']
      exact .error hmid

theorem mapFault (g : Fault → Fault) (hx : x.Respects base logged st) :
    (Eval.mapFault g x).Respects base logged st := by
  intro st' h
  have hrun := hx st' h
  unfold Eval.mapFault
  generalize x st = r at hrun ⊢
  generalize x st' = r' at hrun ⊢
  cases hrun with
  | ok h => exact .ok h
  | @error stop _ _ h => cases stop <;> exact .error h

/-- A run with a change at its end. -/
theorem thenAlways {cleanup : State → State} (hx : x.Respects base logged st)
    (hclean : ∀ mid mid' : State, mid.Akin base logged mid' →
      (cleanup mid).Akin base logged (cleanup mid')) :
    (Eval.thenAlways cleanup x).Respects base logged st := by
  intro st' h
  have hrun := hx st' h
  unfold Eval.thenAlways
  generalize x st = r at hrun ⊢
  generalize x st' = r' at hrun ⊢
  cases hrun with
  | ok h => exact .ok (hclean _ _ h)
  | error h => exact .error (hclean _ _ h)

/-- A run that looks at the state. -/
theorem get {f : State → Eval α} (hx : (f st).Respects base logged st)
    (hf : ∀ st', st.Akin base logged st' → f st' = f st) : (get >>= f).Respects base logged st := by
  intro st' h
  rw [Eval.get_bind_apply, Eval.get_bind_apply, hf st' h]
  exact hx st' h

theorem modify {f : State → State}
    (h : ∀ st', st.Akin base logged st' → (f st).Akin base logged (f st')) :
    Respects base logged (modify f : Eval Unit) st := fun st' h' => .ok (h st' h')

end Eval.Respects

/-- Calls of functions that exist end in the same way from states that are akin. -/
def Caller.Respects (base : ScopeId → Nat) (logged : Bool) (call : Caller) : Prop :=
  ∀ (f : FunctionId) (args : List Value) (built : List Instance) (st : State), st.Sound built →
    f < st.functions.size → (∀ v ∈ args, v.Valid (st.world built)) →
    (call f args).Respects base logged st

/-- The steps of a script in a frame in sight. -/
theorem Stepwise.respects {base : ScopeId → Nat} {logged : Bool} {call : Caller}
    (hcall : call.Keeping) (hrespects : call.Respects base logged) {writes : Bool} {w : Realm}
    {site : Site} {α : Type} {Q : Realm → α → Prop} {x : Eval α}
    (hx : Stepwise call writes w site Q x)
    (built : List Instance) (st : State) (hw : w = st.world built) (hst : st.Sound built)
    (hsite : site.Shallow st) (hbase : site.frame = 0 ∨ base site.scope ≤ site.frame) :
    x.Respects base logged st := by
  induction hx generalizing built st with
  | pure h => exact .pure _ st
  | stop _ => exact .stop _ st
  | bind hx _ ihx ihf =>
    apply Eval.Respects.bind (ihx built st hw hst hsite hbase)
    intro a mid hrun
    obtain ⟨built', hreach, ha⟩ :=
      (hx.leads hcall built st hw hst fun _ => hsite).exists_of_ok hrun
    have hle := World.realm_mono hreach.moves.world_le
    rw [← hw] at hle
    exact ihf _ a hle ha built' mid rfl (hreach.moves.sound hst) (hreach.keeps.shallow hsite)
      hbase
  | mapFault _ _ ih => exact (ih built st hw hst hsite hbase).mapFault _
  | @meaning w site _ _ name f _ ih =>
    have hmeaning := hst.grounded.meaning site name
    rw [← hw] at hmeaning
    apply Eval.Respects.get (ih w _ (Realm.le_refl w) hmeaning built st hw hst hsite hbase)
    intro st' h
    rw [h.meaning hst.grounded hsite hbase]
  | call hf hargs =>
    subst hw
    exact hrespects _ _ built st hst hf hargs
  | declare hwrite name hv => exact .modify fun st' h => h.modifyFrame hbase _
  | @assign w site hwrite name v hv =>
    apply Eval.Respects.modify
    intro st' h
    obtain ⟨_, hown⟩ := hst.grounded.holder?_of_shallow hsite name
    show State.Akin base logged (st.declare ((st.holder? site name).getD site) name v)
      (st'.declare ((st'.holder? site name).getD site) name v)
    rw [h.holder? hst.grounded hsite hbase]
    apply h.modifyFrame
    rcases hown with hown | hroot
    · rw [hown]
      exact hbase
    · exact .inl hroot
  | register hwrite hh hn => exact .modify fun st' h => h.register hbase _
  | @outermost w site _ _ hwrite _ _ _ f _ ih =>
    have hlt : w.scope (st.outermost site.scope) := by
      rw [hw]
      exact Nat.lt_of_le_of_lt (st.outermost_le _) hsite.live.1
    apply Eval.Respects.get (ih w _ (Realm.le_refl w) hlt built st hw hst hsite hbase)
    intro st' h
    rw [h.outermost]
  | @allot w site hwrite outer ho name body =>
    intro st' h
    have hid : st.nextId.2.Akin base logged st'.nextId.2 :=
      h.aside (f := fun s => { s with lastId := s.lastId + 1 }) fun _ _ _ => ⟨rfl, rfl, rfl⟩
    show SameEnd (State.Akin base logged)
      (.ok (st.nextInstance name body)
        (st.nextId.2.newScope (some outer)).2)
      (.ok (st'.nextInstance name body)
        (st'.nextId.2.newScope (some outer)).2)
    rw [State.nextInstance, State.nextInstance, h.lastId, h.size]
    exact .ok (hid.newScope _)
  | @inside w site _ _ hwrite c hc x _ ih =>
    subst hw
    exact ih built st rfl hst (hst.shallow_root (hst.counted.scope_lt c hc)) (.inl rfl)
  | created hwrite name id s =>
    have hroot : ∀ st', st.Akin base logged st' → (st'.scope s).root = (st.scope s).root :=
      fun st' h => (h.scope s).frame 0 (.inl rfl) (hst.grounded.live_pos s)
    apply Eval.Respects.get (.modify fun st' h => h.report _)
    intro st' h
    rw [hroot st' h]

/-! ### Calls -/

section

variable {base : ScopeId → Nat} {logged : Bool} {st : State} {built : List Instance}

theorem respects_perform (native : Native) (args : List Value) (hst : st.Sound built) :
    (native.perform args).Respects base logged st := by
  cases native with
  | print =>
    apply Eval.Respects.get
    · split
      · exact .stop _ st
      · apply Eval.Respects.bind
        · exact .modify fun st' h =>
            h.aside (f := fun s => s.print _) fun _ _ _ => ⟨rfl, rfl, rfl⟩
        · intro _ mid _
          exact .pure _ mid
    · intro st' h
      rw [h.display, h.others]
  | typeOf => exact .pure _ st
  | create =>
    unfold Native.perform
    cases args.headD .null with
    | object c =>
      intro st' h
      obtain ⟨hcopy, hstate⟩ := h.copy hst.grounded c
      show SameEnd (State.Akin base logged) (.ok (Value.object (st.copy c).1) (st.copy c).2)
        (.ok (Value.object (st'.copy c).1) (st'.copy c).2)
      rw [hcopy]
      exact .ok hstate
    | _ => exact .stop _ st
  | fails message => exact .stop _ st
  | argument index => exact .pure _ st
  | constant v => exact .pure _ st

theorem respects_homeOf (f : FunctionId) (st : State) : (homeOf f).Respects base logged st := by
  apply Eval.Respects.get
  · split
    · exact .pure _ st
    · intro st' h
      show SameEnd (State.Akin base logged)
        (.ok st.scopes.size ((st.newScope none).2.settle f st.scopes.size))
        (.ok st'.scopes.size ((st'.newScope none).2.settle f st'.scopes.size))
      rw [h.size]
      exact .ok ((h.newScope none).aside (f := fun s => s.settle f st.scopes.size)
        fun _ _ _ => ⟨rfl, rfl, rfl⟩)
  · intro st' h
    rw [h.function]

theorem respects_pushFrame (s : ScopeId) (parent : Int) (st : State) :
    (pushFrame s parent).Respects base logged st := by
  intro st' h
  cases hfull : (st.scope s).full with
  | true =>
    have hfull' := (h.scope s).full.trans hfull
    rw [pushFrame_of_full hfull, pushFrame_of_full hfull', (h.scope s).live, (h.scope s).limit]
    exact .error h
  | false =>
    have hfull' := (h.scope s).full.trans hfull
    rw [pushFrame_of_room hfull, pushFrame_of_room hfull', (h.scope s).live]
    exact .ok (h.push s parent)

/-- A call works in a frame of its own, which is in sight. -/
theorem respects_invoke {call : Caller} (hcall : call.Keeping)
    (hrespects : call.Respects base logged) : (invoke call).Respects base logged := by
  intro f args built st hst hf hargs
  apply Eval.Respects.get _ fun st' h => by rw [h.function]
  apply Eval.Respects.bind (.ofOperator _ _ st)
  intro _ st₁ hrun₁
  obtain ⟨_, rfl⟩ := Eval.ofOperator_eq_ok hrun₁
  split
  · exact respects_perform _ args hst
  · apply Eval.Respects.bind (respects_homeOf f st₁)
    intro home st₂ hrun₂ st₂' h₂
    obtain ⟨built₂, hreach₂, hhome⟩ := (leads_homeOf hf hst).exists_of_ok hrun₂
    have hst₂ := hreach₂.moves.sound hst
    -- The frame is pushed above the base.
    have hbase := (h₂.scope home).base_le
    refine Eval.Respects.bind (respects_pushFrame home 0 st₂) ?_ st₂' h₂
    intro frame st₃ hrun₃
    obtain ⟨hfull, rfl, rfl⟩ := pushFrame_eq_ok hrun₃
    have hmove : Move built₂ st₂ built₂ (st₂.push home 0) := .push hhome hfull 0
    have hle₃ := World.le_trans hreach₂.moves.world_le hmove.world_le
    have hargs₃ : ∀ v ∈ args, v.Within ((st₂.push home 0).world built₂) := fun v hv =>
      Value.within_realm_iff.2 ((hargs v hv).mono hle₃)
    apply Eval.Respects.thenAlways _ fun mid mid' h => h.release hbase
    apply Eval.Respects.get _ fun st' h => by rw [Scope.depth, (h.scope home).live, Scope.depth]
    apply Eval.Respects.bind (.modify fun st' h => h.report _)
    intro _ st₄ hrun₄
    cases hrun₄
    have hbody := stepwise_call call ⟨home, (st₂.scope home).live⟩
      (World.reads _ (st₁.function f).body) hargs₃
    have hreported := (hmove.sound hst₂).report (.invoking (st₁.function f).name args.length
      ((st₂.push home 0).scope home).depth)
    have hsite := hst₂.shallow_push hhome
    exact hbody.respects hcall hrespects built₂ _ rfl hreported ⟨hsite.live, hsite.parent⟩
      (.inr hbase)

/-- Calls at every level end in the same way from states that are akin. -/
theorem respects_callAt (n : Nat) : (callAt n).Respects base logged := by
  -- On the level: a call at one level calls at the level below.
  induction n with
  | zero =>
    intro f args built st _ _ _ st' h
    exact .error h
  | succ n ih =>
    intro f args built st hst hf hargs
    apply Eval.Respects.get _ fun st' h => by rw [h.function]
    apply Eval.Respects.bind (.ofOperator _ _ st)
    intro _ st₁ hrun₁
    obtain ⟨_, rfl⟩ := Eval.ofOperator_eq_ok hrun₁
    apply Eval.Respects.bind (.ofOperator _ _ st₁)
    intro _ st₂ hrun₂
    obtain ⟨_, rfl⟩ := Eval.ofOperator_eq_ok hrun₂
    exact respects_invoke (leads_callAt n) ih f args built st₂ hst hf hargs

end

end Quartz
