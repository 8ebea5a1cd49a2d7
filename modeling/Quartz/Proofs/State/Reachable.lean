import Quartz.Proofs.Eval.Stepwise
import Quartz.Proofs.State.Copy

/-!
# `Quartz.Proofs.State.Reachable`: the states that can come about

`Move` lists the ways in which a script changes the state, one constructor for each,
together with the instances that were built so far. `Update` adds what only hosts do. A
state is `Reachable` if such changes lead to it from a state without scopes and functions.
That takes in the states in the middle of a run: frames above the root may be live.

`State.Sound` is what all these states have in common, and `Move.sound` and `Update.sound`
prove it once for each change. It has two halves. `State.Grounded` is about references: the
root frame of a scope is live and ends the search for a name, and frames and functions
refer only to what exists in a world. `State.Counted` is about the instances that were
built: they have scopes, and each has an id of its own.

The world of `Grounded` need not be that of the state. A change that adds several things
which refer to each other, as a copy does, is checked against the world after it.
-/

set_option autoImplicit false

namespace Quartz

/-! ### Changes -/

/-- The frame at a site is live. -/
def Site.Live (st : State) (site : Site) : Prop :=
  site.scope < st.scopes.size ∧ site.frame < (st.scope site.scope).live

namespace State

/-- The copies that are made with the copy of an instance. -/
def copies (st : State) (c : Instance) : List Instance :=
  (st.tourFrom c).entered.map (st.twin (st.tourFrom c).entered)

/-- Gives a function without a home a scope of its own. -/
def shelter (st : State) (f : FunctionId) : State := (st.newScope none).2.settle f st.scopes.size

end State

/-- An event that is about a frame. -/
def Log.Event.isFrame : Log.Event → Bool
  | .framePushed _ _ => true
  | .frameReleased _ _ => true
  | _ => false

/-- The changes that a script makes to the state, and to the list of instances. -/
inductive Move (built : List Instance) (st : State) : List Instance → State → Prop
  | declare {site : Site} (hs : site.Live st) (name : Bytes) {v : Value}
      (hv : v.Valid (st.world built)) : Move built st built (st.declare site name v)
  | register {site : Site} (hs : site.Live st) {fn : Function} (hh : fn.home = none)
      (hn : fn.native = none) : Move built st built (st.register site fn)
  /-- An instance is started inside a scope. -/
  | allot {outer : ScopeId} (ho : outer < st.scopes.size) (name : Bytes) (body : List Token) :
      Move built st (built ++ [st.nextInstance name body])
        (st.nextId.2.newScope (some outer)).2
  | copy {c : Instance} (hc : c ∈ built) : Move built st (built ++ st.copies c) (st.copy c).2
  | shelter {f : FunctionId} (hf : f < st.functions.size) (hh : (st.function f).home = none) :
      Move built st built (st.shelter f)
  | push {s : ScopeId} (hs : s < st.scopes.size) (hf : (st.scope s).full = false)
      (parent : Int) : Move built st built (st.push s parent)
  /-- The topmost frame of a scope is released. -/
  | release {s : ScopeId} {i : Nat} (hs : s < st.scopes.size) (hpos : 0 < i)
      (hl : (st.scope s).live = i + 1) : Move built st built (st.release s i)
  | print (line : Bytes) : Move built st built (st.print line)
  | report {e : Log.Event} (he : e.isFrame = false) : Move built st built (st.report e)

/-- The changes that hosts and scripts make. -/
inductive Update (built : List Instance) (st : State) : List Instance → State → Prop
  | script {built' : List Instance} {st' : State} (h : Move built st built' st') :
      Update built st built' st'
  | newScope (outer : Option ScopeId) (limit : Option Int)
      (ho : ∀ o, outer = some o → o < st.scopes.size) :
      Update built st built (st.newScope outer limit).2
  /-- An instance is started on its own. -/
  | allot (name : Bytes) (body : List Token) :
      Update built st (built ++ [st.nextInstance name body])
        (st.nextId.2.newScope none).2
  | addFunction (fn : Function) (hh : fn.home = none)
      (hn : ∀ v, fn.native = some (.constant v) → v.Valid (st.world built)) :
      Update built st built (st.addFunction fn).2
  | define {site : Site} (hs : site.Live st) {f : FunctionId} (hf : f < st.functions.size) :
      Update built st built (st.define site f)
  | release (s : ScopeId) (i : Int) : Update built st built (st.release s i)
  | mute (b : Bool) : Update built st built { st with mute := b }
  | report (e : Log.Event) : Update built st built (st.report e)
  | notify (line : Bytes) : Update built st built (st.notify line)

/-- The states to which changes lead from a state without scopes and functions, with the
instances that were built on the way. -/
inductive Reachable : List Instance → State → Prop
  | initial {st : State} (hs : st.scopes = #[]) (hf : st.functions = #[]) : Reachable [] st
  | step {built built' : List Instance} {st st' : State} (h : Reachable built st)
      (hu : Update built st built' st') : Reachable built' st'

/-! ### References -/

/-- Frames and functions refer only to what exists in a world. -/
structure State.Grounded (w : World) (st : State) : Prop where
  /-- The root frame of a scope is live. -/
  live_pos : ∀ s, 0 < (st.scope s).live
  live_le : ∀ s, (st.scope s).live ≤ (st.scope s).slots.size
  /-- A search for a name ends in the root frame. -/
  root_parent : ∀ s, ((st.scope s).frame 0).parent < 0
  home_lt : ∀ f s, (st.function f).home = some s → s < w.scopes
  native : ∀ f v, (st.function f).native = some (.constant v) → v.Valid w
  vars : ∀ site : Site, ∀ e ∈ (st.frameAt site).vars.entries, e.2.Valid w
  funcs : ∀ site : Site, ∀ e ∈ (st.frameAt site).funcs.entries, e.2 < w.functions

theorem Bindings.mem_put {α : Type} {name : Bytes} {a : α} {l : List (Bytes × α)}
    {e : Bytes × α} (h : e ∈ put name a l) : e = (name, a) ∨ e ∈ l := by
  -- An entry is put in place of one of its name, or at the end.
  induction l with
  | nil => exact .inl (by simpa [put] using h)
  | cons d rest ih =>
    obtain ⟨n, b⟩ := d
    unfold put at h
    split at h
    · rcases List.mem_cons.1 h with h | h
      · exact .inl h
      · exact .inr (List.mem_cons_of_mem _ h)
    · rcases List.mem_cons.1 h with h | h
      · exact .inr (h ▸ List.mem_cons_self)
      · exact (ih h).imp_right (List.mem_cons_of_mem _)

namespace State.Grounded

variable {w : World} {st : State}

theorem mono {w' : World} (h : st.Grounded w) (hw : w ≤ w') : st.Grounded w' where
  live_pos := h.live_pos
  live_le := h.live_le
  root_parent := h.root_parent
  home_lt f s hf := Nat.lt_of_lt_of_le (h.home_lt f s hf) hw.2.1
  native f v hv := (h.native f v hv).mono hw
  vars site e he := (h.vars site e he).mono hw
  funcs site e he := Nat.lt_of_lt_of_le (h.funcs site e he) hw.1

theorem initial (w : World) (hs : st.scopes = #[]) (hf : st.functions = #[]) : st.Grounded w := by
  -- Where nothing exists, every scope and function is the default one.
  have hscope : ∀ s, st.scope s = default := fun s => st.scope_of_size_le (by simp [hs])
  have hfunction : ∀ f, st.function f = default := fun f => st.function_of_size_le (by simp [hf])
  have hframe : ∀ site, st.frameAt site = Frame.fresh (-1) := by
    rintro ⟨s, i⟩
    simp only [State.frameAt, hscope]
    cases i with
    | zero => rfl
    | succ i => rfl
  constructor
  · intro s
    rw [hscope]
    decide
  · intro s
    rw [hscope]
    decide
  · intro s
    rw [hscope]
    decide
  · intro f s h
    rw [hfunction] at h
    cases h
  · intro f v h
    rw [hfunction] at h
    cases h
  · intro site e he
    rw [hframe] at he
    cases he
  · intro site e he
    rw [hframe] at he
    cases he

/-! #### Changes of scopes -/

variable (h : st.Grounded w)
include h

/-- The scopes change. Each of them is one from before, or is grounded itself. -/
theorem ofScopes {st' : State} (hf : st'.functions = st.functions)
    (hs : ∀ s, st'.scope s = st.scope s ∨
      0 < (st'.scope s).live ∧ (st'.scope s).live ≤ (st'.scope s).slots.size ∧
        ((st'.scope s).frame 0).parent < 0 ∧
        (∀ i, ∀ e ∈ ((st'.scope s).frame i).vars.entries, e.2.Valid w) ∧
        ∀ i, ∀ e ∈ ((st'.scope s).frame i).funcs.entries, e.2 < w.functions) : st'.Grounded w := by
  have hfunction : ∀ f, st'.function f = st.function f := fun f => by simp [State.function, hf]
  constructor
  · intro s
    rcases hs s with hs | hs
    · rw [hs]
      exact h.live_pos s
    · exact hs.1
  · intro s
    rcases hs s with hs | hs
    · rw [hs]
      exact h.live_le s
    · exact hs.2.1
  · intro s
    rcases hs s with hs | hs
    · rw [hs]
      exact h.root_parent s
    · exact hs.2.2.1
  · simpa only [hfunction] using h.home_lt
  · simpa only [hfunction] using h.native
  · rintro ⟨s, i⟩ e he
    rcases hs s with hs | hs
    · rw [State.frameAt, hs] at he
      exact h.vars ⟨s, i⟩ e he
    · exact hs.2.2.2.1 i e he
  · rintro ⟨s, i⟩ e he
    rcases hs s with hs | hs
    · rw [State.frameAt, hs] at he
      exact h.funcs ⟨s, i⟩ e he
    · exact hs.2.2.2.2 i e he

/-- A change of one frame that keeps its parent and binds only what exists. -/
theorem modifyFrame (site : Site) (f : Frame → Frame) (hparent : ∀ fr, (f fr).parent = fr.parent)
    (hvars : ∀ e ∈ (f (st.frameAt site)).vars.entries, e.2.Valid w)
    (hfuncs : ∀ e ∈ (f (st.frameAt site)).funcs.entries, e.2 < w.functions) :
    (st.modifyFrame site f).Grounded w := by
  refine h.ofScopes rfl fun s => .inr ⟨?_, ?_, ?_, fun i e he => ?_, fun i e he => ?_⟩
  · simpa using h.live_pos s
  · simpa using h.live_le s
  -- The frame that changes may be a root, whose parent has to stay.
  · change ((st.modifyFrame site f).frameAt ⟨s, 0⟩).parent < 0
    rw [State.frameAt_modifyFrame]
    split
    · next hsite =>
        rw [hparent, ← hsite.1]
        exact h.root_parent s
    · exact h.root_parent s
  · change e ∈ ((st.modifyFrame site f).frameAt ⟨s, i⟩).vars.entries at he
    rw [State.frameAt_modifyFrame] at he
    split at he
    · exact hvars e he
    · exact h.vars ⟨s, i⟩ e he
  · change e ∈ ((st.modifyFrame site f).frameAt ⟨s, i⟩).funcs.entries at he
    rw [State.frameAt_modifyFrame] at he
    split at he
    · exact hfuncs e he
    · exact h.funcs ⟨s, i⟩ e he

theorem declare (site : Site) (name : Bytes) {v : Value} (hv : v.Valid w) :
    (st.declare site name v).Grounded w := by
  refine h.modifyFrame site _ (fun _ => rfl) (fun e he => ?_) (h.funcs site)
  rcases Bindings.mem_put he with rfl | he
  · exact hv
  · exact h.vars site e he

theorem newScope (outer : Option ScopeId) (limit : Option Int) :
    (st.newScope outer limit).2.Grounded w := by
  -- A fresh scope has an empty root, and the frames above it are empty by default.
  have hempty : ∀ l i, (Scope.fresh outer l).frame i = Frame.fresh (-1) := by
    intro l i
    cases i <;> rfl
  refine h.ofScopes rfl fun s => ?_
  unfold State.newScope
  rw [State.scope_addScope]
  split
  · refine .inr ⟨Nat.zero_lt_one, Nat.le_refl 1, ?_, fun i e he => ?_, fun i e he => ?_⟩
    · rw [hempty]
      decide
    · rw [hempty] at he
      exact nomatch he
    · rw [hempty] at he
      exact nomatch he
  · exact .inl rfl

theorem push (s : ScopeId) (parent : Int) : (st.push s parent).Grounded w := by
  have hframe := (st.scope s).frame_pushed (h.live_le s) parent
  have hpos := h.live_pos s
  refine h.ofScopes rfl fun t => ?_
  rw [State.scope_push]
  split
  · refine .inr ⟨Nat.succ_pos _, (st.scope s).size_pushed (h.live_le s) parent, ?_,
      fun i e he => ?_, fun i e he => ?_⟩
    -- The new frame is above the root, since the root is live.
    · rw [hframe, if_neg (by omega)]
      exact h.root_parent s
    · rw [hframe] at he
      split at he
      · exact nomatch he
      · exact h.vars ⟨s, i⟩ e he
    · rw [hframe] at he
      split at he
      · exact nomatch he
      · exact h.funcs ⟨s, i⟩ e he
  · exact .inl rfl

theorem release (s : ScopeId) (i : Int) : (st.release s i).Grounded w := by
  -- A release leaves at least the root.
  have hlive : 0 < ((st.scope s).release i).live ∧
      ((st.scope s).release i).live ≤ (st.scope s).live := by
    unfold Scope.release
    split
    · next hr =>
        simp only [Scope.releasable, Bool.and_eq_true, decide_eq_true_eq] at hr
        exact ⟨by dsimp only; omega, by dsimp only; omega⟩
    · exact ⟨h.live_pos s, Nat.le_refl _⟩
  refine h.ofScopes (st.functions_release s i) fun t => ?_
  rw [State.scope_release]
  split
  · refine .inr ?_
    simp only [Scope.frame_release, Scope.slots_release]
    exact ⟨hlive.1, Nat.le_trans hlive.2 (h.live_le s), h.root_parent s,
      fun j => h.vars ⟨s, j⟩, fun j => h.funcs ⟨s, j⟩⟩
  · exact .inl rfl

/-! #### Changes of functions -/

/-- The functions change. Each of them is one from before, or is grounded itself. -/
theorem ofFunctions {st' : State} (hs : st'.scopes = st.scopes)
    (hf : ∀ f, st'.function f = st.function f ∨
      (∀ s, (st'.function f).home = some s → s < w.scopes) ∧
        ∀ v, (st'.function f).native = some (.constant v) → v.Valid w) : st'.Grounded w := by
  have hscope : ∀ s, st'.scope s = st.scope s := fun s => by simp [State.scope, hs]
  have hframe : ∀ site, st'.frameAt site = st.frameAt site := fun site => by
    simp only [State.frameAt, hscope]
  constructor
  · simpa only [hscope] using h.live_pos
  · simpa only [hscope] using h.live_le
  · simpa only [hscope] using h.root_parent
  · intro f s hs
    rcases hf f with hf | hf
    · rw [hf] at hs
      exact h.home_lt f s hs
    · exact hf.1 s hs
  · intro f v hv
    rcases hf f with hf | hf
    · rw [hf] at hv
      exact h.native f v hv
    · exact hf.2 v hv
  · simpa only [hframe] using h.vars
  · simpa only [hframe] using h.funcs

theorem addFunction (fn : Function) (hh : fn.home = none)
    (hn : ∀ v, fn.native = some (.constant v) → v.Valid w) : (st.addFunction fn).2.Grounded w := by
  refine h.ofFunctions rfl fun f => ?_
  rw [State.function_addFunction]
  split
  · exact .inr ⟨fun s hs => absurd (hh.symm.trans hs) (by simp), hn⟩
  · exact .inl rfl

theorem settle (f : FunctionId) {s : ScopeId} (hs : s < w.scopes) : (st.settle f s).Grounded w := by
  refine h.ofFunctions rfl fun g => ?_
  rw [State.function_settle]
  split
  · refine .inr ⟨fun t ht => ?_, h.native f⟩
    cases ht
    exact hs
  · exact .inl rfl

theorem define {site : Site} (hs : site.scope < w.scopes) {f : FunctionId} (hf : f < w.functions) :
    (st.define site f).Grounded w := by
  -- A function without a home gets this scope, and then its name is bound.
  have hsettled := h.settle f hs
  refine hsettled.modifyFrame site _ (fun _ => rfl) (hsettled.vars site) fun e he => ?_
  rcases Bindings.mem_put he with rfl | he
  · exact hf
  · exact hsettled.funcs site e he

end State.Grounded

/-! ### Instances -/

/-- The instances that were built have scopes, and each has an id of its own. -/
structure State.Counted (built : List Instance) (st : State) : Prop where
  scope_lt : ∀ c ∈ built, c.scope < st.scopes.size
  id_le : ∀ c ∈ built, c.id ≤ st.lastId
  ids : ∀ c ∈ built, ∀ d ∈ built, c.id = d.id → c = d
  /-- The functions of an instance are kept with its members. -/
  table : ∀ c ∈ built, c.table = c.scope
  length_le : built.length ≤ st.scopes.size

namespace State.Counted

variable {built : List Instance} {st st' : State}

theorem initial (st : State) : st.Counted [] := by
  constructor <;> simp

theorem mono (h : st.Counted built) (hs : st.scopes.size ≤ st'.scopes.size)
    (hi : st.lastId ≤ st'.lastId) : st'.Counted built where
  scope_lt c hc := Nat.lt_of_lt_of_le (h.scope_lt c hc) hs
  id_le c hc := Nat.le_trans (h.id_le c hc) hi
  ids := h.ids
  table := h.table
  length_le := Nat.le_trans h.length_le hs

/-- Instances with new ids are added, and as many scopes. -/
theorem append (h : st.Counted built) (new : List Instance)
    (hs : st'.scopes.size = st.scopes.size + new.length)
    (hi : st.lastId ≤ st'.lastId)
    (hnew : ∀ c ∈ new, c.scope < st'.scopes.size ∧ st.lastId < c.id ∧ c.id ≤ st'.lastId)
    (htable : ∀ c ∈ new, c.table = c.scope)
    (hids : ∀ c ∈ new, ∀ d ∈ new, c.id = d.id → c = d) : st'.Counted (built ++ new) := by
  have hmono : st'.Counted built := h.mono (by omega) hi
  constructor
  · intro c hc
    rcases List.mem_append.1 hc with hc | hc
    · exact hmono.scope_lt c hc
    · exact (hnew c hc).1
  · intro c hc
    rcases List.mem_append.1 hc with hc | hc
    · exact hmono.id_le c hc
    · exact (hnew c hc).2.2
  · intro c hc d hd hcd
    -- An old id is at most the last one, and a new id is above it.
    rcases List.mem_append.1 hc with hc | hc <;> rcases List.mem_append.1 hd with hd | hd
    · exact h.ids c hc d hd hcd
    · have h₁ := h.id_le c hc
      have h₂ := (hnew d hd).2.1
      omega
    · have h₁ := h.id_le d hd
      have h₂ := (hnew c hc).2.1
      omega
    · exact hids c hc d hd hcd
  · exact fun c hc => (List.mem_append.1 hc).elim (h.table c) (htable c)
  · rw [List.length_append, hs]
    exact Nat.add_le_add_right h.length_le _

/-- The functions of an instance are those of the frame that holds its members. -/
theorem functionsOf_eq (h : st.Counted built) {c : Instance} (hc : c ∈ built) :
    st.functionsOf c = (st.members c).funcs := by
  rw [functionsOf, h.table c hc, members]

end State.Counted

/-! ### Sound states -/

/-- What all reachable states have in common. -/
structure State.Sound (built : List Instance) (st : State) : Prop where
  grounded : st.Grounded (st.world built)
  counted : st.Counted built

namespace State.Sound

variable {built : List Instance} {st : State}

/-- No member of an instance leads to something that was never built. -/
theorem closed (h : st.Sound built) : st.Closed built where
  refers c _ d hd := by
    -- Members are variables of the root frame, and these hold valid values.
    obtain ⟨e, he, hed⟩ := List.mem_map.1 hd
    have hvalid := h.grounded.vars ⟨c.scope, 0⟩ e he
    rw [hed] at hvalid
    exact hvalid
  ids := h.counted.ids

theorem mem_copies {c d : Instance} (hd : d ∈ (st.tourFrom c).entered) :
    st.twin (st.tourFrom c).entered d ∈ st.copies c := List.mem_map_of_mem hd

variable (h : st.Sound built)
include h

/-- The scope of a copy refers to copies, to functions of its own, and to what its original
refers to. -/
theorem twinScope {c d : Instance} (hc : c ∈ built) (hd : d ∈ (st.tourFrom c).entered) {w : World}
    (hw : st.world (built ++ st.copies c) ≤ w) {first : Nat}
    (hfirst : first + (st.functionsOf d).entries.length ≤ w.functions) :
    (∀ i, ∀ e ∈ ((st.twinScope (st.tourFrom c).entered first d).frame i).vars.entries,
      e.2.Valid w) ∧
    ∀ i, ∀ e ∈ ((st.twinScope (st.tourFrom c).entered first d).frame i).funcs.entries,
      e.2 < w.functions := by
  obtain ⟨_, _, hcomplete⟩ := tourFrom_complete h.closed h.counted.length_le hc
  have hold : st.world built ≤ w :=
    World.le_trans (st.world_mono (List.subset_append_left _ _)) hw
  constructor
  · intro i e he
    cases i with
    | succ i => exact nomatch he
    | zero =>
      obtain ⟨m, hm, rfl⟩ := List.mem_map.1 he
      rw [mem_membersFor] at hm
      have hvalid := h.grounded.vars ⟨d.scope, 0⟩ m hm
      show (st.twinValue (st.tourFrom c).entered m.2).Valid w
      -- A member that holds an instance holds its copy now, which is made as well.
      cases hv : m.2 with
      | object x =>
        have hx : st.Refers d x := List.mem_map.2 ⟨m, hm, hv⟩
        exact hw.2.2 (List.mem_append_right _ (mem_copies (hcomplete d hd x hx)))
      | _ =>
        rw [hv] at hvalid
        exact hvalid.mono hold
  · intro i e he
    cases i with
    | succ i => exact nomatch he
    | zero =>
      -- The functions of the copy stand from `first` on, one for each of the original.
      obtain ⟨j, hj, rfl⟩ := List.mem_mapIdx.1 he
      show first + j < w.functions
      exact Nat.lt_of_lt_of_le (Nat.add_lt_add_left hj first) hfirst

theorem copy {c : Instance} (hc : c ∈ built) : (st.copy c).2.Sound (built ++ st.copies c) := by
  obtain ⟨hwithin, hmem, _⟩ := tourFrom_complete h.closed h.counted.length_le hc
  obtain ⟨hlaid, hscopes, hlast⟩ := copy_laidOut st c
  -- From here on only the layout counts, not how it came about.
  generalize (st.copy c).2 = st' at hlaid hscopes hlast ⊢
  have hrank : ∀ d ∈ (st.tourFrom c).entered,
      rank d (st.tourFrom c).entered < (st.tourFrom c).entered.length := fun d => rank_lt
  have hw : st.world (built ++ st.copies c) ≤ st'.world (built ++ st.copies c) :=
    ⟨hlaid.functions, hlaid.scopes, List.Subset.refl _⟩
  have hground : st.Grounded (st'.world (built ++ st.copies c)) :=
    h.grounded.mono (World.le_trans (st.world_mono (List.subset_append_left _ _)) hw)
  constructor
  · -- First the functions of the copies, then their scopes.
    have hfunctions : State.Grounded (st'.world (built ++ st.copies c))
        { st with functions := st'.functions } := by
      refine hground.ofFunctions rfl fun f => ?_
      rcases hlaid.function_cases f with hf | ⟨d, hd, ⟨_, g⟩, _, hf⟩
      · exact .inl hf
      · refine .inr ⟨fun s hs => ?_, fun v hv => ?_⟩
        · cases (congrArg Function.home hf).symm.trans hs
          show st.scopes.size + rank d (st.tourFrom c).entered < st'.scopes.size
          rw [hscopes]
          exact Nat.add_lt_add_left (hrank d hd) _
        · exact hground.native g v ((congrArg Function.native hf).symm.trans hv)
    refine hfunctions.ofScopes rfl fun s => ?_
    rcases hlaid.scope_cases s with hs | ⟨d, hd, first, hfirst, hs⟩
    · exact .inl hs
    · obtain ⟨hvars, hfuncs⟩ := h.twinScope hc hd hw hfirst
      rw [hs]
      exact .inr ⟨Nat.zero_lt_one, Nat.le_refl 1, show (-1 : Int) < 0 by decide, hvars, hfuncs⟩
  · refine h.counted.append (st.copies c) (by rw [hscopes, copies, List.length_map])
      (by omega) (fun d hd => ?_) (fun d hd => ?_) (fun d hd e he hde => ?_)
    · obtain ⟨d', hd', rfl⟩ := List.mem_map.1 hd
      have hlt := hrank d' hd'
      refine ⟨?_, by simp only [twin]; omega, by simp only [twin]; omega⟩
      rw [hscopes]
      exact Nat.add_lt_add_left hlt _
    · obtain ⟨d', -, rfl⟩ := List.mem_map.1 hd
      rfl
    -- Two copies with one id have one place in the walk, so one original.
    · obtain ⟨d', hd', rfl⟩ := List.mem_map.1 hd
      obtain ⟨e', he', rfl⟩ := List.mem_map.1 he
      have hranks : rank d' (st.tourFrom c).entered = rank e' (st.tourFrom c).entered := by
        simp only [twin] at hde
        omega
      rw [h.counted.ids d' (hwithin.subset hd') e' (hwithin.subset he')
        (id_eq_of_rank_eq hd' he' hranks)]

theorem allot (outer : Option ScopeId) (name : Bytes) (body : List Token) :
    (st.nextId.2.newScope outer).2.Sound
      (built ++ [st.nextInstance name body]) := by
  have hsize : (st.nextId.2.newScope outer).2.scopes.size = st.scopes.size + 1 := by
    simp [State.newScope, State.addScope, State.nextId]
  constructor
  · have hstart : st.nextId.2.Grounded (st.world built) :=
      h.grounded.ofScopes rfl fun _ => .inl rfl
    refine (hstart.newScope outer none).mono ⟨Nat.le_refl _, ?_, List.subset_append_left _ _⟩
    show st.scopes.size ≤ (st.nextId.2.newScope outer).2.scopes.size
    omega
  · refine h.counted.append _ hsize (Nat.le_succ _) (fun c hc => ?_) (fun c hc => ?_)
      (fun c hc d hd _ => ?_)
    · rw [List.mem_singleton.1 hc]
      exact ⟨hsize ▸ Nat.lt_succ_self _, Nat.lt_succ_self _, Nat.le_refl _⟩
    · rw [List.mem_singleton.1 hc]
    · rw [List.mem_singleton.1 hc, List.mem_singleton.1 hd]

/-- A change that adds no instance. -/
theorem ofGrounded {st' : State} (hg : st'.Grounded (st.world built))
    (hw : st.world built ≤ st'.world built) (hi : st.lastId ≤ st'.lastId) : st'.Sound built :=
  ⟨hg.mono hw, h.counted.mono hw.2.1 hi⟩

/-- A report is no change of scopes, functions or instances. -/
theorem report (e : Log.Event) : (st.report e).Sound built :=
  h.ofGrounded (h.grounded.ofScopes rfl fun _ => .inl rfl) (World.le_refl _) (Nat.le_refl _)

end State.Sound

/-! ### What changes do -/

section

variable {built built' : List Instance} {st st' : State}

theorem State.world_le_newScope (outer : Option ScopeId) (limit : Option Int) :
    st.world built ≤ (st.newScope outer limit).2.world built :=
  ⟨Nat.le_refl _, by simp [State.world, State.newScope, State.addScope], List.Subset.refl _⟩

/-- The world only grows. -/
theorem Move.world_le (h : Move built st built' st') : st.world built ≤ st'.world built' := by
  have hkept : ∀ {t : State}, st.functions.size ≤ t.functions.size →
      st.scopes.size ≤ t.scopes.size → st.world built ≤ t.world built :=
    fun hf hs => ⟨hf, hs, List.Subset.refl _⟩
  cases h with
  | declare hs name hv => exact hkept (Nat.le_refl _) (by simp [State.declare, State.modifyFrame])
  | register hs hh hn =>
    exact hkept (by simp [State.register, State.define, State.modifyFrame, State.addFunction])
      (by simp [State.register, State.define, State.modifyFrame, State.settle, State.addFunction])
  | allot ho name body =>
    refine ⟨Nat.le_refl _, ?_, List.subset_append_left _ _⟩
    simp [State.world, State.newScope, State.addScope, State.nextId]
  | @copy c hc =>
    have hlaid := (State.copy_laidOut st c).1
    generalize (st.copy c).2 = st' at hlaid ⊢
    exact ⟨hlaid.functions, hlaid.scopes, List.subset_append_left _ _⟩
  | shelter hf hh =>
    exact hkept (by simp [State.shelter, State.newScope, State.addScope])
      (by simp [State.shelter, State.settle, State.newScope, State.addScope])
  | push hs hf parent => exact hkept (Nat.le_refl _) (by simp)
  | release hs hpos hl => exact hkept (by simp) (by simp)
  | print line => exact World.le_refl _
  | report he => exact World.le_refl _

/-- Every id that is handed out comes with a scope. -/
theorem Move.lastId_le (h : Move built st built' st') :
    st'.lastId + st.scopes.size ≤ st.lastId + st'.scopes.size := by
  have hworld := h.world_le.2.1
  have hkept : st'.lastId = st.lastId →
      st'.lastId + st.scopes.size ≤ st.lastId + st'.scopes.size := fun hid =>
    hid ▸ Nat.add_le_add_left hworld _
  cases h with
  | declare hs name hv => exact hkept rfl
  | register hs hh hn => exact hkept rfl
  | allot ho name body =>
    simp only [State.newScope, State.addScope, State.nextId, Array.size_push]
    omega
  | @copy c hc =>
    obtain ⟨_, hsize, hid⟩ := State.copy_laidOut st c
    omega
  | shelter hf hh => exact hkept rfl
  | push hs hf parent => exact hkept rfl
  | release hs hpos hl => exact hkept (st.lastId_release _ _)
  | print line => exact hkept rfl
  | report he => exact hkept rfl

theorem Move.sound (h : Move built st built' st') (hst : st.Sound built) : st'.Sound built' := by
  have hw := h.world_le
  have hg := hst.grounded
  cases h with
  | declare hs name hv => exact hst.ofGrounded (hg.declare _ name hv) hw (Nat.le_refl _)
  -- The function is added first, so it exists when its name is bound.
  | @register site hs fn hh hn =>
    have hadded : (st.addFunction fn).2.Grounded ((st.register site fn).world built) :=
      (hg.mono hw).addFunction fn hh fun v hv => absurd (hn.symm.trans hv) (by simp)
    refine ⟨hadded.define (Nat.lt_of_lt_of_le hs.1 hw.2.1) ?_,
      hst.counted.mono hw.2.1 (Nat.le_refl _)⟩
    simp [State.world, State.register, State.define, State.modifyFrame, State.addFunction]
  | allot ho name body => exact hst.allot _ name body
  | copy hc => exact hst.copy hc
  -- The new scope exists when it becomes the home.
  | @shelter f hf hh =>
    refine ⟨State.Grounded.settle ((hg.mono hw).newScope none none) f ?_,
      hst.counted.mono hw.2.1 (Nat.le_refl _)⟩
    simp [State.world, State.shelter, State.settle, State.newScope, State.addScope]
  | push hs hf parent => exact hst.ofGrounded (hg.push _ parent) hw (Nat.le_refl _)
  | release hs hpos hl => exact hst.ofGrounded (hg.release _ _) hw (by simp)
  | print line => exact hst.ofGrounded (hg.ofScopes rfl fun _ => .inl rfl) hw (Nat.le_refl _)
  | report he => exact hst.report _

theorem Update.sound (h : Update built st built' st') (hst : st.Sound built) :
    st'.Sound built' := by
  have hg := hst.grounded
  cases h with
  | script h => exact h.sound hst
  | newScope outer limit ho =>
    exact hst.ofGrounded (hg.newScope outer limit) (State.world_le_newScope outer limit)
      (Nat.le_refl _)
  | allot name body => exact hst.allot none name body
  | addFunction fn hh hn =>
    refine hst.ofGrounded (hg.addFunction fn hh hn) ⟨?_, Nat.le_refl _, List.Subset.refl _⟩
      (Nat.le_refl _)
    simp [State.world, State.addFunction]
  | define hs hf =>
    refine hst.ofGrounded (hg.define hs.1 hf) ⟨?_, ?_, List.Subset.refl _⟩ (Nat.le_refl _)
    · simp [State.world, State.define, State.modifyFrame]
    · simp [State.world, State.define, State.modifyFrame, State.settle]
  | release s i =>
    refine hst.ofGrounded (hg.release s i) ⟨?_, ?_, List.Subset.refl _⟩ ?_
    · simp [State.world]
    · simp [State.world]
    · simp
  | mute b =>
    exact hst.ofGrounded (hg.ofScopes rfl fun _ => .inl rfl) (World.le_refl _) (Nat.le_refl _)
  | report e => exact hst.report e
  | notify line =>
    exact hst.ofGrounded (hg.ofScopes rfl fun _ => .inl rfl) (World.le_refl _) (Nat.le_refl _)

end

theorem Reachable.sound {built : List Instance} {st : State} (h : Reachable built st) :
    st.Sound built := by
  induction h with
  | initial hs hf => exact ⟨.initial _ hs hf, .initial _⟩
  | step _ hu ih => exact hu.sound ih

end Quartz
