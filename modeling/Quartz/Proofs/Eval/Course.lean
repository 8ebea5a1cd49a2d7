import Quartz.Proofs.Eval.Basic
import Quartz.Proofs.State.Lookup

/-!
# `Quartz.Proofs.Eval.Course`: what every run does to the state

Two things hold of a run, however it ends. The state that it ends in comes from the first
one by moves (`Moves`). And the frames that were live stay as they were, apart from the
roots and from the frame in which the run itself works (`Keeps`). `Leads` says both, and that
the result of the run refers to what exists.

`Stepwise.leads` proves it for the steps of a script, given that calls do it. A call pushes
a frame, works in it and releases it (`leads_invoke`). From this `leads_callAt` follows by
induction on the level of the call.
-/

set_option autoImplicit false

namespace Quartz

variable {s : ScopeId} {site : Site} {args : List Value} {w : Realm}

/-! ### Moves in a row -/

/-- Changes that a script makes one after the other. -/
inductive Moves (built : List Instance) (st : State) : List Instance → State → Prop
  | refl : Moves built st built st
  | step {built' built'' : List Instance} {st' st'' : State} (h : Moves built st built' st')
      (hm : Move built' st' built'' st'') : Moves built st built'' st''

namespace Moves

variable {built built' built'' : List Instance} {st st' st'' : State}

theorem single (h : Move built st built' st') : Moves built st built' st' := .step .refl h

variable (h : Moves built st built' st')
include h

theorem trans (h' : Moves built' st' built'' st'') : Moves built st built'' st'' := by
  induction h' with
  | refl => exact h
  | step _ hm ih => exact .step ih hm

theorem world_le : st.world built ≤ st'.world built' := by
  induction h with
  | refl => exact World.le_refl _
  | step _ hm ih => exact World.le_trans ih hm.world_le

theorem sound (hst : st.Sound built) : st'.Sound built' := by
  induction h with
  | refl => exact hst
  | step _ hm ih => exact hm.sound ih

theorem lastId_le : st'.lastId + st.scopes.size ≤ st.lastId + st'.scopes.size := by
  induction h with
  | refl => exact Nat.le_refl _
  | step _ hm ih =>
    have hle := hm.lastId_le
    omega

/-- The count of ids does not overflow before there are `2 ^ 64` scopes. -/
theorem lastId_lt (hst : st.lastId ≤ st.scopes.size) (hsize : st'.scopes.size < Nat.pow 2 64) :
    st'.lastId < Nat.pow 2 64 := by
  have hle := h.lastId_le
  omega

end Moves

/-! ### Frames that stay -/

/-- Scopes stay as deep as they were, and so do their frames above the root, apart from the
one at the given site, which may get other bindings. -/
structure Keeps (own : Option Site) (st st' : State) : Prop where
  scopes : st.scopes.size ≤ st'.scopes.size
  live : ∀ s, s < st.scopes.size → (st'.scope s).live = (st.scope s).live
  outer : ∀ s, s < st.scopes.size → (st'.scope s).outer = (st.scope s).outer
  limit : ∀ s, s < st.scopes.size → (st'.scope s).limit = (st.scope s).limit
  parent : ∀ site : Site, site.Live st → (st'.frameAt site).parent = (st.frameAt site).parent
  frame : ∀ site : Site, site.Live st → 0 < site.frame → own ≠ some site →
    st'.frameAt site = st.frameAt site

namespace Keeps

variable {own : Option Site} {st st' st'' : State}

theorem refl (own : Option Site) (st : State) : Keeps own st st where
  scopes := Nat.le_refl _
  live _ _ := rfl
  outer _ _ := rfl
  limit _ _ := rfl
  parent _ _ := rfl
  frame _ _ _ _ := rfl

theorem live_mono (h : Keeps own st st') (hs : site.Live st) : site.Live st' := by
  refine ⟨Nat.lt_of_lt_of_le hs.1 h.scopes, ?_⟩
  rw [h.live site.scope hs.1]
  exact hs.2

theorem shallow (h : Keeps own st st') (hs : site.Shallow st) : site.Shallow st' := by
  refine ⟨h.live_mono hs.live, ?_⟩
  rw [h.parent site hs.live]
  exact hs.parent

theorem trans (h : Keeps own st st') (h' : Keeps own st' st'') : Keeps own st st'' where
  scopes := Nat.le_trans h.scopes h'.scopes
  live s hs := (h'.live s (Nat.lt_of_lt_of_le hs h.scopes)).trans (h.live s hs)
  outer s hs := (h'.outer s (Nat.lt_of_lt_of_le hs h.scopes)).trans (h.outer s hs)
  limit s hs := (h'.limit s (Nat.lt_of_lt_of_le hs h.scopes)).trans (h.limit s hs)
  parent site hs := (h'.parent site (h.live_mono hs)).trans (h.parent site hs)
  frame site hs hpos hown :=
    (h'.frame site (h.live_mono hs) hpos hown).trans (h.frame site hs hpos hown)

theorem weaken (h : Keeps none st st') (own : Option Site) : Keeps own st st' where
  scopes := h.scopes
  live := h.live
  outer := h.outer
  limit := h.limit
  parent := h.parent
  frame site hs hpos _ := h.frame site hs hpos (by simp)

/-- The root may change anyway. -/
theorem ofRoot (h : Keeps (some ⟨s, 0⟩) st st') : Keeps none st st' where
  scopes := h.scopes
  live := h.live
  outer := h.outer
  limit := h.limit
  parent := h.parent
  frame site hs hpos _ := by
    -- A frame above the root is not the root, so the exception does not apply to it.
    refine h.frame site hs hpos fun heq => ?_
    cases heq
    exact absurd hpos (Nat.lt_irrefl 0)

/-- Nothing changes in the scopes that exist. -/
theorem ofScopes (hsize : st.scopes.size ≤ st'.scopes.size)
    (h : ∀ s, s < st.scopes.size → st'.scope s = st.scope s) : Keeps own st st' where
  scopes := hsize
  live s hs := by rw [h s hs]
  outer s hs := by rw [h s hs]
  limit s hs := by rw [h s hs]
  parent site hs := by rw [State.frameAt, h site.scope hs.1, State.frameAt]
  frame site hs _ _ := by rw [State.frameAt, h site.scope hs.1, State.frameAt]

theorem modifyFrame {t : Site} (ht : own = some t ∨ t.frame = 0) (f : Frame → Frame)
    (hparent : ∀ fr, (f fr).parent = fr.parent) : Keeps own st (st.modifyFrame t f) where
  scopes := by simp [State.modifyFrame]
  live s _ := by simp
  outer s _ := by simp
  limit s _ := by simp
  parent site _ := by
    rw [State.frameAt_modifyFrame]
    split
    · next h => rw [hparent, h.1]
    · rfl
  frame site _ hpos hown := by
    rw [State.frameAt_modifyFrame, if_neg]
    rintro ⟨rfl, -⟩
    rcases ht with ht | ht
    · exact hown ht
    · omega

theorem register {t : Site} (ht : own = some t ∨ t.frame = 0) (fn : Function) :
    Keeps own st (st.register t fn) :=
  have hadded : Keeps own st ((st.addFunction fn).2.settle (st.addFunction fn).1 t.scope) :=
    ofScopes (Nat.le_refl _) fun _ _ => rfl
  hadded.trans (modifyFrame ht _ fun _ => rfl)

theorem newScope (outer : Option ScopeId) (limit : Option Int) :
    Keeps own st (st.newScope outer limit).2 := by
  refine ofScopes (by simp [State.newScope, State.addScope]) fun s hs => ?_
  unfold State.newScope
  rw [State.scope_addScope, if_neg (Nat.ne_of_lt hs)]

/-- A frame is pushed, something works in it, and the frame is released again. -/
theorem pushed (hs : s < st.scopes.size) (hpos : 0 < (st.scope s).live)
    (hle : (st.scope s).live ≤ (st.scope s).slots.size) (parent : Int)
    (h : Keeps (some ⟨s, (st.scope s).live⟩) (st.push s parent) st') :
    Keeps none st (st'.release s (st.scope s).live) := by
  have hsize : st.scopes.size ≤ st'.scopes.size := by simpa using h.scopes
  have hscope : (st.push s parent).scope s = (st.scope s).pushed parent := by
    rw [State.scope_push, if_pos ⟨rfl, hs⟩]
  have hother : ∀ t, t ≠ s → (st.push s parent).scope t = st.scope t := fun t ht => by
    rw [State.scope_push, if_neg fun hc => ht hc.1]
  have hlive : (st'.scope s).live = (st.scope s).live + 1 := by
    rw [h.live s (by simpa using hs), hscope]
    rfl
  -- The frame that was pushed is the topmost one again, so the release takes just it away.
  have hrelease : (st'.scope s).release (st.scope s).live =
      { st'.scope s with live := (st.scope s).live } := by
    rw [Scope.release, if_pos]
    · rfl
    · simp only [Scope.releasable, hlive, Bool.and_eq_true, decide_eq_true_eq]
      omega
  have hafter : ∀ t, (st'.release s (st.scope s).live).scope t =
      if t = s then { st'.scope s with live := (st.scope s).live } else st'.scope t := by
    intro t
    rw [State.scope_release, hrelease]
    by_cases ht : t = s
    · rw [if_pos ht, if_pos ⟨ht, Nat.lt_of_lt_of_le hs hsize⟩]
    · rw [if_neg ht, if_neg fun hc => ht hc.1]
  -- The frames from before were live after the push too, below the new one.
  have hframes : ∀ site : Site, site.Live st → site.Live (st.push s parent) ∧
      (st.push s parent).frameAt site = st.frameAt site ∧
      (st'.release s (st.scope s).live).frameAt site = st'.frameAt site := by
    rintro ⟨t, i⟩ ⟨ht, hi⟩
    dsimp only at ht hi
    simp only [Site.Live, State.frameAt, hafter, State.size_push]
    by_cases hts : t = s
    · subst hts
      rw [hscope, (st.scope t).frame_pushed hle, if_neg (by omega), if_pos rfl]
      refine ⟨⟨ht, ?_⟩, rfl, rfl⟩
      simp only [Scope.pushed]
      omega
    · rw [hother t hts, if_neg hts]
      exact ⟨⟨ht, hi⟩, rfl, rfl⟩
  have hfield : ∀ t, t < st.scopes.size → t ≠ s →
      (st'.scope t).live = (st.scope t).live := by
    intro t ht hts
    rw [h.live t (by simpa using ht), hother t hts]
  constructor
  · simpa using hsize
  · intro t ht
    rw [hafter]
    split
    · next hts => rw [hts]
    · next hts => exact hfield t ht hts
  · intro t ht
    have houter := h.outer t (by simpa using ht)
    rw [hafter]
    split
    · next hts =>
        subst hts
        rw [hscope] at houter
        exact houter
    · next hts => rw [houter, hother t hts]
  · intro t ht
    have hlimit := h.limit t (by simpa using ht)
    rw [hafter]
    split
    · next hts =>
        subst hts
        rw [hscope] at hlimit
        exact hlimit
    · next hts => rw [hlimit, hother t hts]
  · intro site hsite
    obtain ⟨hlv, hpush, hrel⟩ := hframes site hsite
    rw [hrel, h.parent site hlv, hpush]
  · intro site hsite hposi _
    obtain ⟨hlv, hpush, hrel⟩ := hframes site hsite
    rw [hrel, h.frame site hlv hposi, hpush]
    intro heq
    cases heq
    exact absurd hsite.2 (Nat.lt_irrefl _)

end Keeps

/-! ### The course of a run -/

/-- One state leads to another by moves that keep the frames. -/
structure Reaches (own : Option Site) (built : List Instance) (st : State)
    (built' : List Instance) (st' : State) : Prop where
  moves : Moves built st built' st'
  keeps : Keeps own st st'

namespace Reaches

variable {own : Option Site} {built built' built'' : List Instance} {st st' st'' : State}

theorem refl (own : Option Site) (built : List Instance) (st : State) :
    Reaches own built st built st := ⟨.refl, .refl own st⟩

theorem trans (h : Reaches own built st built' st') (h' : Reaches own built' st' built'' st'') :
    Reaches own built st built'' st'' := ⟨h.moves.trans h'.moves, h.keeps.trans h'.keeps⟩

theorem weaken (h : Reaches none built st built' st') (own : Option Site) :
    Reaches own built st built' st' := ⟨h.moves, h.keeps.weaken own⟩

end Reaches

/-- Where a run leads from a state, however it ends, and what its results are. -/
def Leads (own : Option Site) (built : List Instance) (st : State) {α : Type}
    (Q : Realm → α → Prop) (x : Eval α) : Prop :=
  x.Ends st (Reaches own built st) (fun _ _ _ => True) fun built' st' => Q (st'.world built')

namespace Leads

variable {own : Option Site} {built : List Instance} {st : State} {α β : Type}
  {P Q : Realm → α → Prop} {R : Realm → β → Prop} {x : Eval α}

theorem pure {a : α} (h : Q (st.world built) a) :
    Leads own built st Q (Pure.pure a : Eval α) := ⟨built, .refl own built st, h⟩

theorem error {stop : Stop} (h : x st = .error stop st) : Leads own built st Q x :=
  .ofError h (.refl own built st) fun _ _ => trivial

theorem bind {f : α → Eval β} (hx : Leads own built st P x)
    (hf : ∀ a built' st', Reaches own built st built' st' → P (st'.world built') a →
      Leads own built' st' R (f a)) : Leads own built st R (x >>= f) :=
  Eval.Ends.andThen Reaches.trans hx hf

theorem mapFault (g : Fault → Fault) (hx : Leads own built st Q x) :
    Leads own built st Q (Eval.mapFault g x) :=
  Eval.Ends.mapFault hx fun _ _ _ _ _ => trivial

theorem weaken (hx : Leads none built st Q x) (own : Option Site) : Leads own built st Q x :=
  hx.mono (fun _ _ hreach => hreach.weaken own) (fun _ _ _ _ h => h) fun _ _ _ _ ha => ha

/-- A run in a root frame. -/
theorem ofRoot (hx : Leads (some ⟨s, 0⟩) built st Q x) : Leads none built st Q x :=
  hx.mono (fun _ _ hreach => ⟨hreach.moves, hreach.keeps.ofRoot⟩) (fun _ _ _ _ h => h)
    fun _ _ _ _ ha => ha

/-- However a run ends, it leads to its last state. -/
theorem reaches_after (hx : Leads own built st Q x) :
    ∃ built', Reaches own built st built' (x.after st) := hx.exists_after

theorem exists_of_ok (hx : Leads own built st Q x) {st' : State} {a : α}
    (hrun : x st = .ok a st') :
    ∃ built', Reaches own built st built' st' ∧ Q (st'.world built') a :=
  Eval.Ends.exists_of_ok hx hrun

theorem get {f : State → Eval α} (h : Leads own built st Q (f st)) :
    Leads own built st Q (get >>= f) := h

/-- A check in front of a run. -/
theorem ofOperator (offset : Int) (r : Except Cause α) :
    Leads own built st (fun _ _ => True) (Eval.ofOperator offset r) := by
  cases r with
  | ok a => exact .pure trivial
  | error cause => exact .error (Eval.fail_apply cause offset st)

/-- A change of the state as a run. -/
theorem modify {built' : List Instance} {f : State → State} (hm : Move built st built' (f st))
    (hk : Keeps own st (f st)) :
    Leads own built st (fun _ _ => True) (modify f : Eval Unit) :=
  ⟨built', ⟨.single hm, hk⟩, trivial⟩

end Leads

/-- Calls of functions that exist keep all frames above the roots. -/
def Caller.Keeping (call : Caller) : Prop :=
  ∀ (f : FunctionId) (args : List Value) (built : List Instance) (st : State), st.Sound built →
    f < st.functions.size → (∀ v ∈ args, v.Valid (st.world built)) →
    Leads none built st (fun w v => v.Within w) (call f args)

/-- The frame in which a run works: that of its site if it writes there. -/
def Site.own (writes : Bool) (site : Site) : Option Site := if writes then some site else none

theorem Keeps.modifyOwn {st : State} {writes : Bool} (hw : writes = true) (f : Frame → Frame)
    (hparent : ∀ fr, (f fr).parent = fr.parent) :
    Keeps (site.own writes) st (st.modifyFrame site f) :=
  .modifyFrame (.inl (by rw [Site.own, if_pos hw])) f hparent

/-- The steps of a script lead from sound states to sound states. -/
theorem Stepwise.leads {call : Caller} (hcall : call.Keeping) {writes : Bool} {α : Type}
    {Q : Realm → α → Prop} {x : Eval α} (hx : Stepwise call writes w site Q x)
    (built : List Instance) (st : State) (hw : w = st.world built) (hst : st.Sound built)
    (hsite : writes = true → site.Shallow st) : Leads (site.own writes) built st Q x := by
  induction hx generalizing built st with
  | pure h => exact .pure (hw ▸ h)
  | stop _ => exact .error (Eval.stop_apply _ st)
  | bind _ _ ihx ihf =>
    refine .bind (ihx built st hw hst hsite) fun a built' st' hreach ha => ?_
    have hle := World.realm_mono hreach.moves.world_le
    rw [← hw] at hle
    exact ihf _ a hle ha built' st' rfl (hreach.moves.sound hst) fun h =>
      hreach.keeps.shallow (hsite h)
  | mapFault _ _ ih => exact (ih built st hw hst hsite).mapFault _
  | @meaning w site _ _ name f _ ih =>
    have hmeaning := hst.grounded.meaning site name
    rw [← hw] at hmeaning
    exact ih w _ (Realm.le_refl w) hmeaning built st hw hst hsite
  | call hf hargs =>
    subst hw
    exact (hcall _ _ built st hst hf hargs).weaken _
  | declare hwrite name hv =>
    subst hw
    exact .modify (.declare (hsite hwrite).live name hv) (.modifyOwn hwrite _ fun _ => rfl)
  -- An assignment changes the frame that holds the variable: its own, or a root.
  | @assign w site hwrite name v hv =>
    subst hw
    obtain ⟨hlive, hown⟩ := hst.grounded.holder?_of_shallow (hsite hwrite) name
    refine .modify (.declare hlive name hv) (.modifyFrame ?_ _ fun _ => rfl)
    rcases hown with hown | hroot
    · exact .inl (by rw [hown, Site.own, if_pos hwrite])
    · exact .inr hroot
  | register hwrite hh hn =>
    refine .modify (.register (hsite hwrite).live hh hn) (.register (.inl ?_) _)
    rw [Site.own, if_pos hwrite]
  | @outermost w site _ _ hwrite _ _ _ f _ ih =>
    have hlt : w.scope (st.outermost site.scope) := by
      rw [hw]
      exact Nat.lt_of_le_of_lt (st.outermost_le _) (hsite hwrite).live.1
    exact ih w _ (Realm.le_refl w) hlt built st hw hst hsite
  | @allot w site hwrite outer ho name body =>
    subst hw
    have hid : Keeps (site.own writes) st st.nextId.2 :=
      .ofScopes (Nat.le_refl _) fun _ _ => rfl
    have hkeeps : Keeps (site.own writes) st (st.nextId.2.newScope (some outer)).2 :=
      hid.trans (.newScope (some outer) none)
    exact ⟨_, ⟨.single (.allot ho name body), hkeeps⟩,
      List.mem_append_right _ List.mem_cons_self⟩
  -- What an instance does in its own root changes no frame above a root.
  | @inside w site _ _ hwrite c hc x _ ih =>
    subst hw
    have hrun := ih built st rfl hst fun _ => hst.shallow_root (hst.counted.scope_lt c hc)
    rw [Site.own, if_pos hwrite] at hrun
    exact hrun.ofRoot.weaken _
  | created hwrite name id s =>
    exact .modify (.report rfl) (.ofScopes (Nat.le_refl _) fun _ _ => rfl)

/-! ### Calls -/

section

variable {built : List Instance} {st : State}

/-- A missing argument is null, so every argument is within the realm. -/
theorem within_getD (h : ∀ v ∈ args, v.Within w) (i : Nat) : (args.getD i .null).Within w := by
  rw [List.getD_eq_getElem?_getD]
  cases hi : args[i]? with
  | none => trivial
  | some v => exact h v (List.mem_of_getElem? hi)

theorem within_headD (h : ∀ v ∈ args, v.Within w) : (args.headD .null).Within w := by
  cases args with
  | nil => trivial
  | cons v vs => exact h v List.mem_cons_self

/-- Whether a native function answers for a host. -/
def Native.isHosted : Native → Bool
  | .fails _ | .argument _ | .constant _ => true
  | _ => false

/-- A procedure of a host answers alike in all states and leaves them as they are. It gives
back what it was given. -/
theorem Native.perform_of_isHosted {native : Native} (h : native.isHosted = true)
    (args : List Value) :
    (∃ fault, ∀ st, native.perform args st = .error (.fault fault) st) ∨
      ∃ v, (v = .null ∨ v ∈ args ∨ native = .constant v) ∧
        ∀ st, native.perform args st = .ok v st := by
  cases native with
  | fails message => exact .inl ⟨.plain message, fun _ => rfl⟩
  | argument index =>
    refine .inr ⟨args.getD index .null, ?_, fun _ => rfl⟩
    rw [List.getD_eq_getElem?_getD]
    cases hv : args[index]? with
    | none => exact .inl rfl
    | some v => exact .inr (.inl (List.mem_of_getElem? hv))
  | constant v => exact .inr ⟨v, .inr (.inr rfl), fun _ => rfl⟩
  | print => cases h
  | typeOf => cases h
  | create => cases h

/-- A copy leaves the scopes that exist as they are. -/
theorem Keeps.copy (own : Option Site) (st : State) (c : Instance) :
    Keeps own st (st.copy c).2 := by
  obtain ⟨hlaid, _, _⟩ := State.copy_laidOut st c
  exact .ofScopes hlaid.scopes hlaid.scope_old

theorem leads_perform (native : Native) (hst : st.Sound built)
    (hn : ∀ v, native = .constant v → v.Valid (st.world built))
    (hargs : ∀ v ∈ args, v.Valid (st.world built)) :
    Leads none built st (fun w v => v.Within w) (native.perform args) := by
  have hwithin : ∀ v ∈ args, v.Within (st.world built) := fun v hv =>
    Value.within_realm_iff.2 (hargs v hv)
  cases native with
  | print =>
    refine .get ?_
    split
    · exact .error (Eval.stop_apply _ st)
    · exact .bind (.modify (.print _) (.ofScopes (Nat.le_refl _) fun _ _ => rfl))
        fun _ _ _ _ _ => .pure trivial
  | typeOf => exact .pure trivial
  | create =>
    -- The copy is among the copies that were made, so it was built.
    have hhead := within_headD hwithin
    unfold Native.perform
    dsimp only
    split
    · next c hc =>
        rw [hc] at hhead
        obtain ⟨_, hmem, _⟩ :=
          State.tourFrom_complete hst.closed hst.counted.length_le hhead
        exact ⟨_, ⟨.single (.copy hhead), .copy none st c⟩,
          List.mem_append_right _ (State.Sound.mem_copies hmem)⟩
    · exact .error (Eval.fail_apply _ _ st)
  | fails message => exact .error (Eval.stop_apply _ st)
  | argument index => exact .pure (within_getD hwithin index)
  | constant v => exact .pure (hn v rfl)

theorem leads_homeOf {f : FunctionId} (hf : f < st.functions.size) (hst : st.Sound built) :
    Leads none built st (fun w s => w.scope s) (homeOf f) := by
  refine .get ?_
  split
  · next s hs => exact .pure (hst.grounded.home_lt f s hs)
  · next hs =>
      have hkeeps : Keeps none st (st.shelter f) :=
        Keeps.trans (.newScope none none) (.ofScopes (Nat.le_refl _) fun _ _ => rfl)
      have hlt : st.scopes.size < (st.shelter f).scopes.size := by
        simp [State.shelter, State.settle, State.newScope, State.addScope]
      exact ⟨built, ⟨.single (.shelter hf hs), hkeeps⟩, hlt⟩

theorem pushFrame_of_full (h : (st.scope s).full = true) (parent : Int) :
    pushFrame s parent st =
      .error (.fault (.runtime ⟨.stackOverflow ((st.scope s).live + 1) (st.scope s).limit, -1⟩))
        st := by
  rw [pushFrame, Eval.get_bind_apply, if_pos h, Eval.fail_apply]

theorem pushFrame_of_room (h : (st.scope s).full = false) (parent : Int) :
    pushFrame s parent st = .ok (st.scope s).live (st.push s parent) := by
  rw [pushFrame, Eval.get_bind_apply, if_neg (by simp [h])]
  rfl

theorem pushFrame_eq_ok {parent : Int} {i : Nat} {st' : State}
    (h : pushFrame s parent st = .ok i st') :
    (st.scope s).full = false ∧ i = (st.scope s).live ∧ st' = st.push s parent := by
  cases hfull : (st.scope s).full with
  | true =>
    rw [pushFrame_of_full hfull] at h
    exact nomatch h
  | false =>
    rw [pushFrame_of_room hfull] at h
    cases h
    exact ⟨rfl, rfl, rfl⟩

/-- A new frame whose parent is the root is a shallow site. -/
theorem State.Sound.shallow_push (hst : st.Sound built) (hs : s < st.scopes.size) :
    Site.Shallow (st.push s 0) ⟨s, (st.scope s).live⟩ := by
  have hscope : (st.push s 0).scope s = (st.scope s).pushed 0 := by
    rw [State.scope_push, if_pos ⟨rfl, hs⟩]
  refine ⟨⟨by simpa using hs, ?_⟩, .inr ?_⟩
  · rw [hscope]
    exact Nat.lt_succ_self _
  · rw [State.frameAt, hscope, Scope.frame_pushed _ (hst.grounded.live_le s), if_pos rfl]
    rfl

/-- A run in a frame of its own. The frame is gone when the run has ended. -/
theorem leads_pushed (hs : s < st.scopes.size) (hst : st.Sound built) {α : Type}
    {Q : Realm → α → Prop} {body : Nat → Eval α}
    (hbody : ∀ st' : State, st'.Sound built → st.world built ≤ st'.world built →
      Site.Shallow st' ⟨s, (st.scope s).live⟩ →
      Leads (some ⟨s, (st.scope s).live⟩) built st' Q (body (st.scope s).live)) :
    Leads none built st Q (do
      let i ← pushFrame s 0
      Eval.thenAlways (·.release s i) (body i)) := by
  cases hfull : (st.scope s).full with
  | true => exact .error (Eval.bind_of_error (pushFrame_of_full hfull 0))
  | false =>
    have hmove : Move built st built (st.push s 0) := .push hs hfull 0
    have hpos := hst.grounded.live_pos s
    have hle := hst.grounded.live_le s
    have hshallow := hst.shallow_push hs
    have hrun := hbody (st.push s 0) (hmove.sound hst) hmove.world_le hshallow
    -- However the body ends: the frame is on top again, and releasing it is one more move.
    have hdone : ∀ built' st',
        Reaches (some ⟨s, (st.scope s).live⟩) built (st.push s 0) built' st' →
        Reaches none built st built' (st'.release s (st.scope s).live) := by
      intro built' st' hreach
      have hs' : s < st'.scopes.size := Nat.lt_of_lt_of_le (by simpa using hs) hreach.keeps.scopes
      have hlive : (st'.scope s).live = (st.scope s).live + 1 := by
        rw [hreach.keeps.live s (by simpa using hs), State.scope_push, if_pos ⟨rfl, hs⟩]
        rfl
      exact ⟨.step (.trans (.single hmove) hreach.moves) (.release hs' hpos hlive),
        .pushed hs hpos hle 0 hreach.keeps⟩
    have hresult : ∀ built' st' a,
        Reaches (some ⟨s, (st.scope s).live⟩) built (st.push s 0) built' st' →
        Q (st'.world built') a → Q ((st'.release s (st.scope s).live).world built') a := by
      intro built' st' a _ ha
      have hworld : (st'.release s (st.scope s).live).world built' = st'.world built' := by
        simp [State.world]
      rwa [hworld]
    exact .bindOk (pushFrame_of_room hfull 0)
      (hrun.thenAlways hdone (fun _ _ _ _ h => h) hresult)

/-- A call works in a frame of its own. -/
theorem leads_invoke {call : Caller} (hcall : call.Keeping) : (invoke call).Keeping := by
  intro f args built st hst hf hargs
  refine .get (.bind (.ofOperator _ _) fun _ built₁ st₁ hreach₁ _ => ?_)
  have hst₁ := hreach₁.moves.sound hst
  have hle₁ := hreach₁.moves.world_le
  -- A native function acts on the state itself. Any other one gets a home and a frame.
  split
  · next native hn =>
      refine leads_perform native hst₁ (fun v hv => ?_) fun v hv => (hargs v hv).mono hle₁
      exact (hst.grounded.native f v (hv ▸ hn)).mono hle₁
  · refine .bind (leads_homeOf (Nat.lt_of_lt_of_le hf hle₁.1) hst₁)
      fun home built₂ st₂ hreach₂ hhome => ?_
    have hst₂ := hreach₂.moves.sound hst₁
    have hle₂ := World.le_trans hle₁ hreach₂.moves.world_le
    refine leads_pushed hhome hst₂ fun st₃ hst₃ hle₃ hshallow => .get ?_
    refine .bind (.modify (.report rfl) (.ofScopes (Nat.le_refl _) fun _ _ => rfl))
      fun _ built₄ st₄ hreach₄ _ => ?_
    have hle₄ := World.le_trans hle₂ (World.le_trans hle₃ hreach₄.moves.world_le)
    have hargs₄ : ∀ v ∈ args, v.Within (st₄.world built₄) := fun v hv =>
      Value.within_realm_iff.2 ((hargs v hv).mono hle₄)
    have hbody := stepwise_call call ⟨home, (st₂.scope home).live⟩
      (World.reads _ (st.function f).body) hargs₄
    exact hbody.leads hcall built₄ st₄ rfl (hreach₄.moves.sound hst₃) fun _ =>
      hreach₄.keeps.shallow hshallow

/-- Calls restore the frames at every level. -/
theorem leads_callAt (n : Nat) : (callAt n).Keeping := by
  -- On the level: a call at one level calls at the level below.
  induction n with
  | zero =>
    intro f args built st _ _ _
    exact .error rfl
  | succ n ih =>
    intro f args built st hst hf hargs
    refine .get (.bind (.ofOperator _ _) fun _ built₁ st₁ hreach₁ _ => ?_)
    refine .bind (.ofOperator _ _) fun _ built₂ st₂ hreach₂ _ => ?_
    have hreach := hreach₁.trans hreach₂
    have hle := hreach.moves.world_le
    exact leads_invoke ih f args built₂ st₂ (hreach.moves.sound hst)
      (Nat.lt_of_lt_of_le hf hle.1) fun v hv => (hargs v hv).mono hle

end

end Quartz
