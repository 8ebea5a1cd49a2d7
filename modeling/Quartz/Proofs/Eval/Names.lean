import Quartz.Proofs.Eval.Course

/-!
# `Quartz.Proofs.Eval.Names`: calls bring no names into a root frame

A call works in a frame of its own. What it declares is bound there, and what it assigns is
bound where the name is visible already. So however much a call changes, the names that the
root frames of the scopes hold stay the same: only their values may differ.

`State.Retains base` says this of two states, for the scopes below `base`. The steps of a script
keep it if they are taken above a root, or in a scope from `base` on (`Stepwise.retains`). Scopes
below `base` exist already, so an instance that is started meanwhile is not among them. From
this it follows for calls by induction on their level (`retains_callAt`), and for evaluations at
every site (`retains_evaluate`), which write nothing themselves.

What a name means at a root depends on names alone as far as it is known at all: `Retains.known`.
-/

set_option autoImplicit false

namespace Quartz

theorem Bindings.contains_set {α : Type} (b : Bindings α) (name x : Bytes) (a : α) :
    (b.set name a).contains x = (decide (x = name) || b.contains x) := by
  unfold contains
  rw [get?_set]
  by_cases h : x = name <;> simp [h]

/-! ### Root frames -/

/-- A scope whose root frame is live and ends the search for a name. -/
structure Scope.Rooted (sc : Scope) : Prop where
  live_pos : 0 < sc.live
  live_le : sc.live ≤ sc.slots.size
  parent : sc.root.parent < 0

/-- Two scopes inside the same one, whose roots hold the same names. -/
structure Scope.SameNames (sc sc' : Scope) : Prop where
  outer : sc'.outer = sc.outer
  vars : ∀ x, sc'.root.vars.contains x = sc.root.vars.contains x
  funcs : ∀ x, sc'.root.funcs.contains x = sc.root.funcs.contains x

theorem Scope.SameNames.refl (sc : Scope) : sc.SameNames sc := ⟨rfl, fun _ => rfl, fun _ => rfl⟩

theorem Scope.SameNames.trans {a b c : Scope} (h : a.SameNames b) (h' : b.SameNames c) :
    a.SameNames c where
  outer := h'.outer.trans h.outer
  vars x := (h'.vars x).trans (h.vars x)
  funcs x := (h'.funcs x).trans (h.funcs x)

/-- The scopes below `base` exist and are rooted. -/
structure State.Rooted (base : Nat) (st : State) : Prop where
  size : base ≤ st.scopes.size
  scope : ∀ s, s < base → (st.scope s).Rooted

/-- The scopes below `base` are rooted in the second state, with the names from the first. -/
structure State.Retains (base : Nat) (st st' : State) : Prop where
  rooted : st'.Rooted base
  names : ∀ s, s < base → (st.scope s).SameNames (st'.scope s)

namespace State.Retains

variable {base : Nat} {st st' st'' : State}

theorem refl (h : st.Rooted base) : st.Retains base st := ⟨h, fun _ _ => .refl _⟩

theorem trans (h : st.Retains base st') (h' : st'.Retains base st'') : st.Retains base st'' :=
  ⟨h'.rooted, fun s hs => (h.names s hs).trans (h'.names s hs)⟩

variable (h : st.Rooted base)
include h

/-- Nothing changes in the scopes below `base`. -/
theorem ofScopes (hsize : base ≤ st'.scopes.size)
    (hscope : ∀ s, s < base → st'.scope s = st.scope s) : st.Retains base st' := by
  refine ⟨⟨hsize, fun s hs => ?_⟩, fun s hs => ?_⟩
  · rw [hscope s hs]
    exact h.scope s hs
  · rw [hscope s hs]
    exact .refl _

/-- A frame is changed that is no root below `base`, or keeps its names. -/
theorem modifyFrame {site : Site} {f : Frame → Frame} (hparent : ∀ fr, (f fr).parent = fr.parent)
    (hnames : 0 < site.frame ∨ base ≤ site.scope ∨
      ∀ x, (f (st.frameAt site)).vars.contains x = (st.frameAt site).vars.contains x ∧
        (f (st.frameAt site)).funcs.contains x = (st.frameAt site).funcs.contains x) :
    st.Retains base (st.modifyFrame site f) := by
  have hroot : ∀ s, ((st.modifyFrame site f).scope s).root =
      if (⟨s, 0⟩ : Site) = site ∧ site.scope < st.scopes.size ∧
        site.frame < (st.scope site.scope).slots.size then f (st.frameAt site)
      else (st.scope s).root := fun s => st.frameAt_modifyFrame site ⟨s, 0⟩ f
  refine ⟨⟨by simpa [State.modifyFrame] using h.size, fun s hs => ?_⟩, fun s hs => ?_⟩
  · refine ⟨by simpa using (h.scope s hs).live_pos, by simpa using (h.scope s hs).live_le, ?_⟩
    rw [hroot]
    split
    · next hsite =>
        rw [hparent, ← hsite.1]
        exact (h.scope s hs).parent
    · exact (h.scope s hs).parent
  · have hsame : ∀ x, ((st.modifyFrame site f).scope s).root.vars.contains x =
        (st.scope s).root.vars.contains x ∧
        ((st.modifyFrame site f).scope s).root.funcs.contains x =
        (st.scope s).root.funcs.contains x := by
      intro x
      rw [hroot]
      split
      · next hsite =>
          obtain ⟨rfl, _⟩ := hsite
          rcases hnames with hpos | hbase | hnames
          · exact absurd hpos (Nat.lt_irrefl 0)
          · exact absurd hs (Nat.not_lt.2 hbase)
          · exact hnames x
      · exact ⟨rfl, rfl⟩
    exact ⟨by simp, fun x => (hsame x).1, fun x => (hsame x).2⟩

section

variable {site : Site} (hsite : 0 < site.frame ∨ base ≤ site.scope)
include hsite

theorem declare (name : Bytes) (v : Value) : st.Retains base (st.declare site name v) :=
  modifyFrame h (fun _ => rfl) (hsite.imp_right .inl)

/-- An assignment changes a variable that is visible, or binds one in the frame at hand. -/
theorem assign (name : Bytes) (v : Value) : st.Retains base (st.assign site name v) := by
  unfold State.assign
  cases hholder : st.holder? site name with
  | none => exact .declare h hsite name v
  | some holder =>
    have hbound : (st.frameAt holder).vars.contains name = true := (state_seek_has hholder).2
    refine modifyFrame h (fun _ => rfl) (.inr (.inr fun x => ⟨?_, rfl⟩))
    show ((st.frameAt holder).vars.set name v).contains x = _
    rw [Bindings.contains_set]
    by_cases hx : x = name
    · simp [hx, hbound]
    · simp [hx]

theorem register (fn : Function) : st.Retains base (st.register site fn) := by
  have hadded : st.Retains base ((st.addFunction fn).2.settle st.functions.size site.scope) :=
    ofScopes h h.size fun _ _ => rfl
  exact hadded.trans (modifyFrame hadded.rooted (fun _ => rfl) (hsite.imp_right .inl))

end

theorem newScope (outer : Option ScopeId) : st.Retains base (st.newScope outer).2 := by
  have hsize := h.size
  refine ofScopes h (by simp only [State.newScope, State.addScope, Array.size_push]; omega) ?_
  intro s hs
  have hne : s ≠ st.scopes.size := by omega
  exact (st.scope_addScope _ s).trans (if_neg hne)

/-- A frame is pushed above the root, which is live. -/
theorem push (s : ScopeId) (parent : Int) : st.Retains base (st.push s parent) := by
  have hroot : ∀ sc : Scope, sc.Rooted → (sc.pushed parent).root = sc.root := by
    intro sc hsc
    have hpos := hsc.live_pos
    exact (sc.frame_pushed hsc.live_le parent 0).trans (if_neg (by omega))
  have hscope : ∀ t, t < base → ((st.push s parent).scope t).Rooted ∧
      (st.scope t).SameNames ((st.push s parent).scope t) := by
    intro t ht
    have hsc := h.scope t ht
    rw [State.scope_push]
    split
    · next heq =>
        rw [← heq.1]
        refine ⟨⟨Nat.succ_pos _, (st.scope t).size_pushed hsc.live_le parent, ?_⟩, rfl, ?_, ?_⟩
        · rw [hroot _ hsc]
          exact hsc.parent
        · rw [hroot _ hsc]
          exact fun _ => rfl
        · rw [hroot _ hsc]
          exact fun _ => rfl
    · exact ⟨hsc, .refl _⟩
  exact ⟨⟨by simpa using h.size, fun t ht => (hscope t ht).1⟩, fun t ht => (hscope t ht).2⟩

/-- Frames are released above the root, which stays. -/
theorem release (s : ScopeId) (i : Int) : st.Retains base (st.release s i) := by
  have hscope : ∀ t, t < base → ((st.release s i).scope t).Rooted ∧
      (st.scope t).SameNames ((st.release s i).scope t) := by
    intro t ht
    have hsc := h.scope t ht
    have hpos := hsc.live_pos
    have hle := hsc.live_le
    rw [State.scope_release]
    split
    · next heq =>
        rw [← heq.1]
        unfold Scope.release
        split
        · next hr =>
            simp only [Scope.releasable, Bool.and_eq_true, decide_eq_true_eq] at hr
            exact ⟨⟨by dsimp only; omega, by dsimp only; omega, hsc.parent⟩, rfl, fun _ => rfl,
              fun _ => rfl⟩
        · exact ⟨hsc, .refl _⟩
    · exact ⟨hsc, .refl _⟩
  exact ⟨⟨by simpa using h.size, fun t ht => (hscope t ht).1⟩, fun t ht => (hscope t ht).2⟩

theorem copy (c : Instance) : st.Retains base (st.copy c).2 := by
  obtain ⟨hlaid, _, _⟩ := State.copy_laidOut st c
  exact ofScopes h (Nat.le_trans h.size hlaid.scopes) fun s hs =>
    hlaid.scope_old s (Nat.lt_of_lt_of_le hs h.size)

end State.Retains

/-! ### Names that are known -/

/-- A search that starts in the root of a scope finds it there or not in the scope at all. -/
theorem Scope.Rooted.seek {sc : Scope} (h : sc.Rooted) (has : Frame → Bool) :
    sc.seek has sc.live 0 = if has sc.root then some 0 else none := by
  have hpos := h.live_pos
  obtain ⟨steps, hsteps⟩ : ∃ steps, sc.live = steps + 1 := ⟨sc.live - 1, by omega⟩
  rw [hsteps]
  exact Scope.seek_root has hpos h.parent steps

namespace State

/-- Something is known if a variable or a function of that name is found. -/
theorem known_meaning (st : State) (site : Site) (x : Bytes) :
    (st.meaning site x).known =
      ((st.seek (fun f => f.vars.contains x) site.scope site.frame).isSome ||
        (st.seek (fun f => f.funcs.contains x) site.scope site.frame).isSome) := by
  have hvalue : (st.value? site x).isSome =
      (st.seek (fun f => f.vars.contains x) site.scope site.frame).isSome := by
    unfold value? holder?
    cases hseek : st.seek (fun f => f.vars.contains x) site.scope site.frame with
    | none => rfl
    | some holder => exact (state_seek_has hseek).2
  have hfunction : (st.function? site x).isSome =
      (st.seek (fun f => f.funcs.contains x) site.scope site.frame).isSome := by
    unfold function?
    cases hseek : st.seek (fun f => f.funcs.contains x) site.scope site.frame with
    | none => rfl
    | some holder => exact (state_seek_has hseek).2
  rw [← hvalue, ← hfunction]
  unfold meaning
  cases st.value? site x with
  | some v => rfl
  | none => cases st.function? site x <;> rfl

/-- Whether a name is known in the scopes around a scope. -/
def knownOutside (st : State) (s : ScopeId) (x : Bytes) : Bool :=
  match (st.scope s).outer with
  | none => false
  | some o => decide (o < s) && (st.meaning ⟨o, 0⟩ x).known

/-- What is known outside depends on which scope is outside and on what is known in it. -/
theorem knownOutside_congr {st st' : State} {s : ScopeId} {x : Bytes}
    (houter : (st'.scope s).outer = (st.scope s).outer)
    (hknown : ∀ o, o < s → (st'.meaning ⟨o, 0⟩ x).known = (st.meaning ⟨o, 0⟩ x).known) :
    st'.knownOutside s x = st.knownOutside s x := by
  unfold knownOutside
  rw [houter]
  cases (st.scope s).outer with
  | none => rfl
  | some o =>
    by_cases ho : o < s
    · simp [hknown o ho]
    · simp [ho]

/-- What is known in a root is bound there, or known outside. -/
theorem known_root {st : State} {s : ScopeId} (h : (st.scope s).Rooted) (x : Bytes) :
    (st.meaning ⟨s, 0⟩ x).known = ((st.scope s).root.vars.contains x ||
      (st.scope s).root.funcs.contains x || st.knownOutside s x) := by
  have hseek : ∀ has : Frame → Bool, (st.seek has s (0 : Nat)).isSome =
      (has (st.scope s).root || match (st.scope s).outer with
        | none => false
        | some o => decide (o < s) && (st.seek has o (0 : Nat)).isSome) := by
    intro has
    rw [State.seek, Int.natCast_zero, h.seek has]
    cases has (st.scope s).root with
    | true => rfl
    | false =>
      cases (st.scope s).outer with
      | none => rfl
      | some o => by_cases ho : o < s <;> simp [ho]
  rw [known_meaning, hseek, hseek, knownOutside]
  cases (st.scope s).outer with
  | none => simp
  | some o =>
    dsimp only
    rw [known_meaning]
    cases decide (o < s) <;> cases (st.scope s).root.vars.contains x <;>
      cases (st.scope s).root.funcs.contains x <;> simp

namespace Retains

variable {base : Nat} {st st' : State}

/-- States with the same names in their roots know the same names there. -/
theorem known (h : st.Rooted base) (h' : st.Retains base st') {s : ScopeId} (hs : s < base)
    (x : Bytes) : (st'.meaning ⟨s, 0⟩ x).known = (st.meaning ⟨s, 0⟩ x).known := by
  -- On the scope: what is outside is older.
  induction s using Nat.strongRecOn with
  | _ s ih =>
    have hnames := h'.names s hs
    have houtside : st'.knownOutside s x = st.knownOutside s x :=
      knownOutside_congr hnames.outer fun o ho => ih o ho (Nat.lt_trans ho hs)
    rw [known_root (h'.rooted.scope s hs), known_root (h.scope s hs), hnames.vars, hnames.funcs,
      houtside]

end Retains

end State

/-! ### Runs -/

/-- However the run ends, the roots below `base` have the names from before. A value that it
gives has a property. -/
def Eval.Retains {α : Type} (base : Nat) (Q : α → Prop) (x : Eval α) : Prop :=
  ∀ st : State, st.Rooted base →
    x.Ends st (fun (_ : Unit) st' => st.Retains base st') (fun _ _ _ => True) fun _ _ a => Q a

namespace Eval.Retains

variable {α β : Type} {base : Nat} {P Q : α → Prop} {R : β → Prop} {x : Eval α} {f : α → Eval β}

theorem pure {a : α} (h : Q a) : (Pure.pure a : Eval α).Retains base Q :=
  fun _ hst => ⟨(), .refl hst, h⟩

theorem error {stop : Stop} (h : ∀ st, x st = .error stop st) : x.Retains base Q :=
  fun st hst => .ofError (k := ()) (h st) (.refl hst) fun _ _ => trivial

theorem bind (hx : x.Retains base P) (hf : ∀ a, P a → (f a).Retains base R) :
    (x >>= f).Retains base R := by
  intro st hst
  refine (hx st hst).bind fun a _ st' hfirst ha => ?_
  exact (hf a ha st' hfirst.rooted).mono (fun _ _ hsecond => hfirst.trans hsecond)
    (fun _ _ _ _ h => h) fun _ _ _ _ h => h

theorem mono (hx : x.Retains base P) (h : ∀ a, P a → Q a) : x.Retains base Q :=
  fun st hst => (hx st hst).mono (fun _ _ h => h) (fun _ _ _ _ h => h) fun _ _ a _ ha => h a ha

theorem mapFault (hx : x.Retains base Q) (g : Fault → Fault) :
    (Eval.mapFault g x).Retains base Q :=
  fun st hst => (hx st hst).mapFault fun _ _ _ _ _ => trivial

theorem look {k : State → Eval α} (h : ∀ st, (k st).Retains base Q) : (get >>= k).Retains base Q :=
  fun st hst => h st st hst

theorem step {g : State → State} (h : ∀ st : State, st.Rooted base → st.Retains base (g st)) :
    (modify g : Eval Unit).Retains base fun _ => True :=
  fun st hst => ⟨(), h st hst, trivial⟩

theorem ofOperator (offset : Int) (r : Except Cause α) :
    (Eval.ofOperator offset r).Retains base fun _ => True := by
  cases r with
  | ok a => exact .pure trivial
  | error cause => exact .error (Eval.fail_apply cause offset)

end Eval.Retains

/-- A realm in which everything may be referred to, and the instances that may be started have
scopes from `base` on. -/
def Realm.beyond (base : Nat) : Realm where
  function _ := True
  scope _ := True
  object _ := True
  started c := base ≤ c.scope
  token _ := True
  started_object _ _ := trivial

theorem Value.within_beyond (base : Nat) (v : Value) : v.Within (Realm.beyond base) := by
  cases v <;> trivial

/-- Calls keep the names of the roots below `base`. -/
def Caller.Retaining (base : Nat) (call : Caller) : Prop :=
  ∀ f args, (call f args).Retains base fun _ => True

section

variable {base : Nat} {call : Caller}

/-- The steps of a script above a root, or in a scope from `base` on, keep the names of the roots
below `base`. -/
theorem Stepwise.retains (hcall : call.Retaining base) {writes : Bool} {w : Realm} {site : Site}
    {α : Type} {Q : Realm → α → Prop} {x : Eval α} (hx : Stepwise call writes w site Q x)
    (hw : w = Realm.beyond base)
    (hsite : writes = true → 0 < site.frame ∨ base ≤ site.scope) :
    x.Retains base (Q (Realm.beyond base)) := by
  induction hx with
  | pure h =>
    subst hw
    exact .pure h
  | stop _ => exact .error (Eval.stop_apply _)
  | bind _ _ ihx ihf =>
    subst hw
    exact (ihx rfl hsite).bind fun a ha => ihf _ a (Realm.le_refl _) ha rfl hsite
  | mapFault _ _ ih => exact (ih hw hsite).mapFault _
  | meaning name _ ih =>
    subst hw
    refine .look fun st => ih _ _ (Realm.le_refl _) ?_ rfl hsite
    exact fun v _ => v.within_beyond base
  | call _ _ => exact (hcall _ _).mono fun v _ => v.within_beyond base
  | declare hwrite name _ => exact .step fun st hst => .declare hst (hsite hwrite) name _
  | assign hwrite name _ => exact .step fun st hst => .assign hst (hsite hwrite) name _
  | register hwrite _ _ _ _ => exact .step fun st hst => .register hst (hsite hwrite) _
  | outermost _ _ _ _ ih =>
    subst hw
    exact .look fun st => ih _ _ (Realm.le_refl _) trivial rfl hsite
  | @allot _ _ _ outer _ name body =>
    -- The scope of the instance is the next one, which is not below `base`.
    intro st hst
    have hid : st.Retains base st.nextId.2 := .ofScopes hst hst.size fun _ _ => rfl
    exact ⟨(), hid.trans (.newScope hid.rooted (some outer)), hst.size⟩
  | inside _ hc _ ih =>
    subst hw
    exact ih rfl fun _ => .inr hc
  | created _ name id s =>
    exact .look fun st => .step fun st' hst => .ofScopes hst hst.size fun _ _ => rfl

theorem retains_perform (native : Native) (args : List Value) :
    (native.perform args).Retains base fun _ => True := by
  cases native with
  | print =>
    refine .look fun st => ?_
    split
    · exact .error (Eval.stop_apply _)
    · have hprint : (modify (·.print (st.display (args.headD .null))) : Eval Unit).Retains base
          fun _ => True := .step fun st hst => .ofScopes hst hst.size fun _ _ => rfl
      exact hprint.bind fun _ _ => .pure trivial
  | typeOf => exact .pure trivial
  | create =>
    unfold Native.perform
    dsimp only
    split
    · next c _ => exact fun st hst => ⟨(), .copy hst c, trivial⟩
    · exact .error (Eval.fail_apply _ _)
  | fails message => exact .error (Eval.stop_apply _)
  | argument index => exact .pure trivial
  | constant v => exact .pure trivial

theorem retains_homeOf (f : FunctionId) : (homeOf f).Retains base fun _ => True := by
  refine .look fun st => ?_
  split
  · exact .pure trivial
  · have hnew : (modifyGet (·.newScope none) : Eval ScopeId).Retains base fun _ => True :=
      fun _ hst => ⟨(), .newScope hst none, trivial⟩
    refine hnew.bind fun s _ => ?_
    have hsettle : (modify (·.settle f s) : Eval Unit).Retains base fun _ => True :=
      .step fun st hst => .ofScopes hst hst.size fun _ _ => rfl
    exact hsettle.bind fun _ _ => .pure trivial

/-- A run in a frame of its own, which is no root. -/
theorem retains_pushed (s : ScopeId) {body : Nat → Eval Value}
    (hbody : ∀ i, 0 < i ∨ base ≤ s → (body i).Retains base fun _ => True) :
    (do
      let i ← pushFrame s 0
      Eval.thenAlways (·.release s i) (body i)).Retains base fun _ => True := by
  intro st hst
  cases hfull : (st.scope s).full with
  | true =>
    exact .ofError (k := ()) (Eval.bind_of_error (pushFrame_of_full hfull 0)) (.refl hst)
      fun _ _ => trivial
  | false =>
    have hpush := State.Retains.push hst s 0
    have hframe : 0 < (st.scope s).live ∨ base ≤ s := by
      by_cases hs : s < base
      · exact .inl (hst.scope s hs).live_pos
      · exact .inr (Nat.not_lt.1 hs)
    have hrun := hbody _ hframe _ hpush.rooted
    refine .bindOk (pushFrame_of_room hfull 0) (hrun.thenAlways ?_ (fun _ _ _ _ h => h) ?_)
    · intro _ st' hst'
      exact (hpush.trans hst').trans (.release hst'.rooted s _)
    · exact fun _ _ _ _ h => h

theorem retains_invoke (hcall : call.Retaining base) : (invoke call).Retaining base := by
  intro f args
  refine .look fun st => (Eval.Retains.ofOperator _ _).bind fun _ _ => ?_
  split
  · exact retains_perform _ args
  · refine (retains_homeOf f).bind fun home _ => retains_pushed home fun i hi => .look fun st' => ?_
    have hreport : (Eval.report (.invoking (st.function f).name args.length
        (st'.scope home).depth)).Retains base fun _ => True :=
      .step fun st'' hst => .ofScopes hst hst.size fun _ _ => rfl
    refine hreport.bind fun _ _ => ?_
    have hbody : Stepwise call true (Realm.beyond base) ⟨home, i⟩ (fun w v => v.Within w) (do
        bindAll ⟨home, i⟩ (st.function f).params args
        bodyValue call ⟨home, i⟩ (st.function f).body) :=
      stepwise_call call ⟨home, i⟩ (fun _ _ => trivial) fun v _ => v.within_beyond base
    exact (hbody.retains hcall rfl fun _ => hi).mono fun _ _ => trivial

/-- Calls at every level bring no names into the roots below `base`. -/
theorem retains_callAt (base n : Nat) : (callAt n).Retaining base := by
  -- On the level: a call at one level calls at the level below.
  induction n with
  | zero => exact fun f args => .error fun _ => rfl
  | succ n ih =>
    intro f args
    refine .look fun st => (Eval.Retains.ofOperator _ _).bind fun _ _ => ?_
    exact (Eval.Retains.ofOperator _ _).bind fun _ _ => retains_invoke ih f args

/-- An evaluation brings no names into the roots that there are. -/
theorem retains_evaluate (hcall : call.Retaining base) (site : Site) (ts : List Token) :
    (evaluate call site ts).Retains base fun _ => True := by
  have hsteps : Stepwise call false (Realm.beyond base) site (fun w v => v.Within w)
      (evaluate call site ts) := stepwise_evaluate call false site fun _ _ => trivial
  exact (hsteps.retains hcall rfl (by simp)).mono fun _ _ => trivial

end

end Quartz
