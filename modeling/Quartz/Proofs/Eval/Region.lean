import Quartz.Proofs.Eval.Regime

/-!
# `Quartz.Proofs.Eval.Region`: a part of the state with nothing but its own

A region is a part of the state: the scopes and the functions from a point on. It stands by itself
if nothing in it refers to what was there before, and if the bodies of its functions consist of
given tokens (`Region.Has`). What was there before may be anything.

A script that runs in a region stays in it: it finds only functions of the region, instances of
the region and tokens of the region there. So a region is a lawful regime (`Region.lawful`), whose
realm does not even grow.
-/

set_option autoImplicit false

namespace Quartz

/-- The scopes and the functions from a point on, and the tokens that may be read there. -/
structure Region where
  base : ScopeId
  first : FunctionId
  tokens : List Token

namespace Region

/-- An instance has its members and its functions in the region. -/
def HasInstance (r : Region) (c : Instance) : Prop := r.base ≤ c.scope ∧ r.base ≤ c.table

/-- What scripts in a region may refer to. -/
def realm (r : Region) : Realm where
  function f := r.first ≤ f
  scope s := r.base ≤ s
  object := r.HasInstance
  started := r.HasInstance
  token t := t ∈ r.tokens
  started_object _ h := h

/-- A scope refers only to what is in the region. -/
structure HasScope (r : Region) (s : Scope) : Prop where
  live_le : s.live ≤ s.slots.size
  outer : ∀ o, s.outer = some o → r.base ≤ o
  vars : ∀ i, ∀ e ∈ (s.frame i).vars.entries, e.2.Within r.realm
  funcs : ∀ i, ∀ e ∈ (s.frame i).funcs.entries, r.first ≤ e.2

/-- A function refers only to what is in the region. -/
structure HasFunction (r : Region) (fn : Function) : Prop where
  home : ∀ s, fn.home = some s → r.base ≤ s
  native : ∀ v, fn.native = some (.constant v) → v.Within r.realm
  body : r.realm.Reads fn.body

/-- Nothing in the region of a state refers to what is not in it. -/
structure Has (r : Region) (st : State) : Prop where
  base_le : r.base ≤ st.scopes.size
  first_le : r.first ≤ st.functions.size
  scope : ∀ s, r.base ≤ s → r.HasScope (st.scope s)
  function : ∀ f, r.first ≤ f → r.HasFunction (st.function f)

variable {r : Region}

/-! ### Scopes and functions -/

namespace HasScope

variable {s : Scope}

/-- A new scope is empty. -/
theorem fresh {outer : Option ScopeId} (h : ∀ o, outer = some o → r.base ≤ o) (limit : Nat) :
    r.HasScope (Scope.fresh outer limit) := by
  have hframe : ∀ i, (Scope.fresh outer limit).frame i = Frame.fresh (-1) := by
    intro i
    cases i <;> rfl
  refine ⟨Nat.le_refl 1, h, fun i e he => ?_, fun i e he => ?_⟩ <;>
  · rw [hframe] at he
    cases he

theorem modify (h : r.HasScope s) (i : Nat) (f : Frame → Frame)
    (hvars : ∀ e ∈ (f (s.frame i)).vars.entries, e.2.Within r.realm)
    (hfuncs : ∀ e ∈ (f (s.frame i)).funcs.entries, r.first ≤ e.2) : r.HasScope (s.modify i f) := by
  refine ⟨by simpa using h.live_le, h.outer, fun j e he => ?_, fun j e he => ?_⟩
  · rw [Scope.frame_modify] at he
    split at he
    · exact hvars e he
    · exact h.vars j e he
  · rw [Scope.frame_modify] at he
    split at he
    · exact hfuncs e he
    · exact h.funcs j e he

/-- A frame that is pushed is empty. -/
theorem pushed (h : r.HasScope s) (parent : Int) : r.HasScope (s.pushed parent) := by
  refine ⟨s.size_pushed h.live_le parent, h.outer, fun j e he => ?_, fun j e he => ?_⟩
  · rw [s.frame_pushed h.live_le] at he
    split at he
    · cases he
    · exact h.vars j e he
  · rw [s.frame_pushed h.live_le] at he
    split at he
    · cases he
    · exact h.funcs j e he

theorem release (h : r.HasScope s) (i : Int) : r.HasScope (s.release i) := by
  unfold Scope.release
  split
  · next hi =>
      simp only [Scope.releasable, Bool.and_eq_true, decide_eq_true_eq] at hi
      have hlive := h.live_le
      exact ⟨show i.toNat ≤ s.slots.size by omega, h.outer, h.vars, h.funcs⟩
  · exact h

end HasScope

namespace HasFunction

theorem default : r.HasFunction default where
  home s hs := by cases hs
  native v hv := by cases hv
  body t ht := by cases ht

theorem settled {fn : Function} (h : r.HasFunction fn) {s : ScopeId} (hs : r.base ≤ s) :
    r.HasFunction { fn with home := some s } where
  home t ht := by
    cases ht
    exact hs
  native := h.native
  body := h.body

end HasFunction

/-! ### Changes of the state -/

namespace Has

variable {st st' : State}

variable (h : r.Has st)
include h

/-- The scopes of the region change. -/
theorem ofScopes (hsize : st.scopes.size ≤ st'.scopes.size) (hf : st'.functions = st.functions)
    (hs : ∀ s, r.base ≤ s → r.HasScope (st'.scope s)) : r.Has st' where
  base_le := Nat.le_trans h.base_le hsize
  first_le := hf ▸ h.first_le
  scope := hs
  function f hfirst := by
    rw [show st'.function f = st.function f by rw [State.function, hf, State.function]]
    exact h.function f hfirst

/-- A change of neither scopes nor functions. -/
theorem aside (hs : st'.scopes = st.scopes) (hf : st'.functions = st.functions) : r.Has st' := by
  refine h.ofScopes (Nat.le_of_eq (by rw [hs])) hf fun s hbase => ?_
  rw [show st'.scope s = st.scope s by rw [State.scope, hs, State.scope]]
  exact h.scope s hbase

theorem modifyFrame {site : Site} (hsite : r.base ≤ site.scope) (f : Frame → Frame)
    (hvars : ∀ e ∈ (f (st.frameAt site)).vars.entries, e.2.Within r.realm)
    (hfuncs : ∀ e ∈ (f (st.frameAt site)).funcs.entries, r.first ≤ e.2) :
    r.Has (st.modifyFrame site f) := by
  refine h.ofScopes (by simp [State.modifyFrame]) rfl fun s hs => ?_
  rw [State.modifyFrame, State.scope_modifyScope]
  split
  · exact (h.scope site.scope hsite).modify site.frame f hvars hfuncs
  · exact h.scope s hs

theorem declare {site : Site} (hsite : r.base ≤ site.scope) (name : Bytes) {v : Value}
    (hv : v.Within r.realm) : r.Has (st.declare site name v) := by
  refine h.modifyFrame hsite _ (fun e he => ?_) ((h.scope site.scope hsite).funcs site.frame)
  rcases Bindings.mem_put he with rfl | he
  · exact hv
  · exact (h.scope site.scope hsite).vars site.frame e he

/-- A search for a name stays in the region. -/
theorem seek {has : Frame → Bool} {s : ScopeId} {i : Int} {holder : Site} (hs : r.base ≤ s)
    (hfound : st.seek has s i = some holder) : r.base ≤ holder.scope :=
  State.holds_of_seek (P := fun s => r.base ≤ s) (fun s o hs ho => (h.scope s hs).outer o ho) hs
    hfound

theorem assign {site : Site} (hsite : r.base ≤ site.scope) (name : Bytes) {v : Value}
    (hv : v.Within r.realm) : r.Has (st.assign site name v) := by
  have hholder : r.base ≤ ((st.holder? site name).getD site).scope := by
    cases hfound : st.holder? site name with
    | none => exact hsite
    | some holder => exact h.seek hsite hfound
  exact h.declare hholder name hv

theorem meaning {site : Site} (hsite : r.base ≤ site.scope) (name : Bytes) :
    (st.meaning site name).Within r.realm :=
  State.meaning_within (fun holder => r.base ≤ holder.scope)
    (fun _ _ hfound => h.seek hsite hfound)
    (fun holder hin => (h.scope holder.scope hin).vars holder.frame)
    (fun holder hin => (h.scope holder.scope hin).funcs holder.frame) name

theorem newScope {outer : Option ScopeId} (ho : ∀ o, outer = some o → r.base ≤ o)
    (limit : Option Int) : r.Has (st.newScope outer limit).2 := by
  refine h.ofScopes (by simp [State.newScope, State.addScope]) rfl fun s hs => ?_
  unfold State.newScope
  rw [State.scope_addScope]
  split
  · exact .fresh ho _
  · exact h.scope s hs

theorem push (s : ScopeId) (parent : Int) : r.Has (st.push s parent) := by
  refine h.ofScopes (by simp) rfl fun t ht => ?_
  rw [State.scope_push]
  split
  · next heq => exact (h.scope s (heq.1 ▸ ht)).pushed parent
  · exact h.scope t ht

theorem release (s : ScopeId) (i : Int) : r.Has (st.release s i) := by
  refine h.ofScopes (by simp) (st.functions_release s i) fun t ht => ?_
  rw [State.scope_release]
  split
  · next heq => exact (h.scope s (heq.1 ▸ ht)).release i
  · exact h.scope t ht

theorem addFunction {fn : Function} (hfn : r.HasFunction fn) : r.Has (st.addFunction fn).2 where
  base_le := h.base_le
  first_le := Nat.le_trans h.first_le (by simp [State.addFunction])
  scope := h.scope
  function f hf := by
    rw [State.function_addFunction]
    split
    · exact hfn
    · exact h.function f hf

theorem settle (f : FunctionId) {s : ScopeId} (hs : r.base ≤ s) : r.Has (st.settle f s) where
  base_le := h.base_le
  first_le := by simpa using h.first_le
  scope := h.scope
  function g hg := by
    rw [State.function_settle]
    split
    · next heq => exact (h.function f (heq.1 ▸ hg)).settled hs
    · exact h.function g hg

/-- A function is declared in a frame of the region. -/
theorem register {site : Site} (hsite : r.base ≤ site.scope) {fn : Function}
    (hfn : r.HasFunction fn) : r.Has (st.register site fn) := by
  have hadded := (h.addFunction hfn).settle st.functions.size hsite
  have hscope := hadded.scope site.scope hsite
  refine hadded.modifyFrame hsite _ (hscope.vars site.frame) fun e he => ?_
  rcases Bindings.mem_put he with rfl | he
  · exact h.first_le
  · exact hscope.funcs site.frame e he

/-! #### Copies -/

/-- What a copy is made of is in the region. -/
theorem entered {c : Instance} (hc : r.HasInstance c) :
    ∀ d ∈ (st.tourFrom c).entered, r.HasInstance d := by
  refine State.forall_tour (fun a b ha hb => ?_) _ hc (by simp)
  -- A member is a variable of the root frame.
  obtain ⟨e, he, heq⟩ := List.mem_map.1 hb
  have hwithin := (h.scope a.scope ha.1).vars 0 e he
  rwa [heq] at hwithin

/-- A copy has its members and its functions in a scope of its own. -/
theorem twin (l : List Instance) (d : Instance) : r.HasInstance (st.twin l d) :=
  ⟨Nat.le_trans h.base_le (Nat.le_add_right _ _), Nat.le_trans h.base_le (Nat.le_add_right _ _)⟩

/-- A copy refers to what its original refers to, and to the copies that are made with it. -/
theorem twinScope {l : List Instance} {first : Nat} (hfirst : r.first ≤ first) {d : Instance}
    (hd : r.base ≤ d.scope) : r.HasScope (st.twinScope l first d) := by
  have hsource := h.scope d.scope hd
  refine ⟨Nat.le_refl 1, hsource.outer, fun i e he => ?_, fun i e he => ?_⟩
  · cases i with
    | succ i => cases he
    | zero =>
      obtain ⟨m, hm, rfl⟩ := List.mem_map.1 he
      rw [State.mem_membersFor] at hm
      have hwithin := hsource.vars 0 m hm
      show (st.twinValue l m.2).Within r.realm
      cases hv : m.2 with
      | object x => exact h.twin l x
      | _ => rwa [hv] at hwithin
  · cases i with
    | succ i => cases he
    | zero =>
      obtain ⟨j, _, rfl⟩ := List.mem_mapIdx.1 he
      exact Nat.le_trans hfirst (Nat.le_add_right _ _)

theorem copy {c : Instance} (hc : r.HasInstance c) : r.Has (st.copy c).2 := by
  have hentered := h.entered hc
  obtain ⟨hlaid, _, _⟩ := State.copy_laidOut st c
  constructor
  · exact Nat.le_trans h.base_le hlaid.scopes
  · exact Nat.le_trans h.first_le hlaid.functions
  · intro s hs
    by_cases hnew : st.scopes.size ≤ s ∧ s < (st.copy c).2.scopes.size
    · obtain ⟨d, hd, first, hplaced⟩ := State.exists_placed_of_new hnew.1 hnew.2
      rw [hplaced.scope]
      exact h.twinScope (Nat.le_trans h.first_le hplaced.first_le) (hentered d hd).1
    · rcases Nat.lt_or_ge s st.scopes.size with hlt | hge
      · rw [hlaid.scope_old s hlt]
        exact h.scope s hs
      · rw [State.scope_of_size_le _ (Nat.le_of_not_lt fun hlt => hnew ⟨hge, hlt⟩)]
        exact .fresh (fun o ho => by cases ho) _
  · intro f hf
    -- A member function of a copy has the body of the original, and a home that is new.
    rcases hlaid.function_cases f with heq | ⟨d, hd, e, he, heq⟩
    · rw [heq]
      exact h.function f hf
    · have hmember := (h.scope d.table (hentered d hd).2).funcs 0 e he
      have hsource := h.function e.2 hmember
      rw [heq]
      refine ⟨fun s hs => ?_, hsource.native, hsource.body⟩
      cases hs
      exact Nat.le_trans h.base_le (Nat.le_add_right _ _)

end Has

/-! ### The regime of a region -/

/-- States in which nothing in the region refers to what is not in it. -/
def regime (r : Region) : Regime Unit where
  holds _ st := r.Has st
  realm _ _ := r.realm

theorem Has.onward {st st' : State} (h : r.Has st') :
    ∃ k, r.regime.Onward () st k st' := ⟨(), h, Realm.le_refl _⟩

/-- Scripts that run in a region stay in it. -/
theorem lawful (r : Region) : r.regime.Lawful where
  meaning h _ hs name := h.meaning hs name
  declare h _ hs name _ hv := (h.declare hs name hv).onward
  assign h _ hs name _ hv := (h.assign hs name hv).onward
  register h _ hs fn hh hn hb _ := by
    refine (h.register hs ⟨fun s hs => ?_, fun v hv => ?_, hb⟩).onward
    · rw [hh] at hs
      cases hs
    · rw [hn] at hv
      cases hv
  outermost {_ st} h s hs :=
    State.holds_outermost (P := fun s => r.base ≤ s) (fun s o hs ho => (h.scope s hs).outer o ho) hs
  allot {_ st} h outer ho name body := by
    have hid : r.Has st.nextId.2 := h.aside rfl rfl
    exact ⟨(), ⟨hid.newScope ho none, Realm.le_refl _⟩, h.base_le, h.base_le⟩
  started _ _ hc := hc.1
  aside h hs hf _ := (h.aside hs hf).onward
  copy h c hc := ⟨(), ⟨h.copy hc, Realm.le_refl _⟩, h.twin _ c⟩
  member h c hc _ _ hf := (h.scope c.table hc).funcs 0 _ (Bindings.mem_of_get? hf)
  native h f hf v hv := (h.function f hf).native v hv
  body h f hf := (h.function f hf).body
  home h f hf s hs := (h.function f hf).home s hs
  shelter {_ st} h f _ _ := by
    have hnone : ∀ o, (none : Option ScopeId) = some o → r.base ≤ o := fun _ ho => by cases ho
    have hnew := h.newScope hnone none
    exact ⟨(), ⟨hnew.settle f h.base_le, Realm.le_refl _⟩, h.base_le⟩
  push h s _ := (h.push s 0).onward
  release h s _ i := (h.release s i).onward

end Region

end Quartz
