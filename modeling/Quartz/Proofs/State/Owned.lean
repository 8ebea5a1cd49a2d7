import Quartz.Proofs.State.Sealed

/-!
# `Quartz.Proofs.State.Owned`: instances and their functions

A function that belongs to an instance runs in the scope of the instance (`Function.AtHome`), and
the member functions of an instance run there, whether they belong to it or to none
(`Function.MemberOf`). `State.Owned` says so for all functions and for all instances that were
built, with instances that differ in their ids and in their scopes.

Each kind of change keeps this. A function that is declared is given to an instance only in the root
of its scope, and gets that scope as its home. A copy takes over no function: it gets functions of
its own. A function that has a home keeps it, so nothing that holds of a function is ever undone.
-/

set_option autoImplicit false

namespace Quartz

/-! ### Functions -/

/-- A function stands in the table of an instance under a name. -/
structure Function.MemberOf (c : Instance) (name : Bytes) (fn : Function) : Prop where
  name_eq : fn.name = name
  home_eq : fn.home = some c.scope
  owner : fn.owner = 0 ∨ fn.owner = c.id

/-- A function that belongs to an instance runs in the scope of this instance. -/
def Function.AtHome (built : List Instance) (fn : Function) : Prop :=
  fn.owner ≠ 0 → ∃ c ∈ built, fn.owner = c.id ∧ fn.home = some c.scope

namespace Function.AtHome

variable {built built' : List Instance} {fn : Function}

theorem ofOwner (h : fn.owner = 0) : fn.AtHome built := fun hne => absurd h hne

theorem mono (h : fn.AtHome built) (hb : built ⊆ built') : fn.AtHome built' := by
  intro hne
  obtain ⟨c, hc, howner⟩ := h hne
  exact ⟨c, hb hc, howner⟩

/-- A function without a home belongs to no instance. -/
theorem owner_eq_zero (h : fn.AtHome built) (hh : fn.home = none) : fn.owner = 0 := by
  by_contra hne
  obtain ⟨c, _, _, hhome⟩ := h hne
  rw [hh] at hhome
  cases hhome

end Function.AtHome

namespace State

/-- A function that is registered gets the scope as its home. -/
theorem function_register (st : State) (site : Site) {fn : Function} (hh : fn.home = none)
    (f : FunctionId) :
    (st.register site fn).function f =
      if f = st.functions.size then { fn with home := some site.scope } else st.function f := by
  show ((st.addFunction fn).2.settle st.functions.size site.scope).function f = _
  have hsize : st.functions.size < (st.addFunction fn).2.functions.size := by
    simp [State.addFunction]
  simp only [function_settle, function_addFunction, hsize, hh, and_true, if_true]
  split <;> simp [*]

/-! ### Instances and their functions -/

/-- Nothing is inside no scope. -/
theorem not_inside_empty (st : State) (s : ScopeId) : ¬ st.Inside ∅ s := by
  intro h
  induction h with
  | here h => exact h
  | outer _ _ ih => exact ih

/-- The set of no scopes is sealed in all states that can come about. -/
theorem sealed_empty {built : List Instance} {st : State} (hs : st.Sound built) (ht : st.Tidy) :
    st.Sealed ∅ built where
  sound := hs
  tidy := ht
  lt_size _ h := h.elim
  holds := by
    have hout : ∀ f, st.RunsOutside ∅ f := fun _ s _ => st.not_inside_empty s
    constructor
    · intro site _ _ e he
      exact within_confined (hs.grounded.vars site e he) fun f _ => hout f
    · intro site _ _ e he
      exact ⟨hs.grounded.funcs site e he, hout e.2⟩
    · intro f v hv
      exact within_confined (hs.grounded.native f v hv) fun f _ => hout f

/-- The instances that were built differ in their ids and in their scopes, and functions run in the
scopes of the instances to which they belong. -/
structure Owned (built : List Instance) (st : State) : Prop where
  isSealed : st.Sealed ∅ built
  id_pos : ∀ c ∈ built, 0 < c.id
  scopes : ∀ c ∈ built, ∀ d ∈ built, c.scope = d.scope → c = d
  owner : ∀ f, (st.function f).AtHome built
  member : ∀ c ∈ built, ∀ e ∈ (st.members c).funcs.entries, (st.function e.2).MemberOf c e.1

namespace Owned

variable {built built' : List Instance} {st st' : State}

/-- A state without instances, in which no function belongs to one. -/
theorem ofNone (hs : st.Sound []) (ht : st.Tidy) (howner : ∀ f, (st.function f).owner = 0) :
    st.Owned [] where
  isSealed := sealed_empty hs ht
  id_pos _ hc := by cases hc
  scopes _ hc := by cases hc
  owner f := .ofOwner (howner f)
  member _ hc := by cases hc

variable (h : st.Owned built)
include h

/-- A change that leaves functions with a home alone. The functions that are new, and the entries
that are new in the tables of instances, are as they should be. -/
theorem step (hs : Spares ∅ built st built' st')
    (hkeep : ∀ f, (st.function f).home ≠ none → st'.function f = st.function f)
    (hpos : ∀ c ∈ built', 0 < c.id)
    (hscopes : ∀ c ∈ built', ∀ d ∈ built', c.scope = d.scope → c = d)
    (howner : ∀ f, st'.function f = st.function f ∨ (st'.function f).AtHome built')
    (hmember : ∀ c ∈ built', ∀ e ∈ (st'.members c).funcs.entries,
      c ∈ built ∧ e ∈ (st.members c).funcs.entries ∨ (st'.function e.2).MemberOf c e.1) :
    st'.Owned built' where
  isSealed := hs.keeps
  id_pos := hpos
  scopes := hscopes
  owner f := by
    rcases howner f with hf | hf
    · rw [hf]
      exact (h.owner f).mono hs.realm_le.object
    · exact hf
  member c hc e he := by
    rcases hmember c hc e he with ⟨hc, he⟩ | hnew
    · -- A member function has a home.
      have hold := h.member c hc e he
      rw [hkeep e.2 (by simp [hold.home_eq])]
      exact hold
    · exact hnew

/-- A change that leaves all functions and all tables of instances alone. -/
theorem keep (hs : Spares ∅ built st built st') (hf : ∀ f, st'.function f = st.function f)
    (hm : ∀ s, (st'.scope s).root.funcs = (st.scope s).root.funcs) : st'.Owned built :=
  h.step hs (fun f _ => hf f) h.id_pos h.scopes (fun f => .inl (hf f)) fun c hc _ he =>
    .inl ⟨hc, hm c.scope ▸ he⟩

/-- Instances with scopes of their own that are new. -/
theorem scopes_append {new : List Instance} (hnew : ∀ c ∈ new, st.scopes.size ≤ c.scope)
    (hdistinct : ∀ c ∈ new, ∀ d ∈ new, c.scope = d.scope → c = d) :
    ∀ c ∈ built ++ new, ∀ d ∈ built ++ new, c.scope = d.scope → c = d := by
  intro c hc d hd heq
  have hlt := h.isSealed.sound.counted.scope_lt
  rcases List.mem_append.1 hc with hc | hc <;> rcases List.mem_append.1 hd with hd | hd
  · exact h.scopes c hc d hd heq
  · exact absurd (heq ▸ hlt c hc) (Nat.not_lt.2 (hnew d hd))
  · exact absurd (heq ▸ hlt d hd) (Nat.not_lt.2 (hnew c hc))
  · exact hdistinct c hc d hd heq

/-! #### Each kind of change -/

theorem aside (hs : st'.scopes = st.scopes) (hf : st'.functions = st.functions)
    (hi : st.lastId ≤ st'.lastId) : st'.Owned built := by
  refine h.keep (h.isSealed.aside hs hf hi) (fun f => ?_) fun s => ?_
  · simp only [function, hf]
  · simp only [scope, hs]

/-- Binding a variable leaves the table of functions alone. -/
theorem declare (site : Site) (name : Bytes) {v : Value} (hv : v.Within (st.confined ∅ built)) :
    (st.declare site name v).Owned built := by
  refine h.keep (h.isSealed.declare (st.not_inside_empty _) name hv) (fun f => rfl) fun s => ?_
  show ((st.declare site name v).frameAt ⟨s, 0⟩).funcs = _
  rw [State.declare, frameAt_modifyFrame]
  split
  · next hsite =>
      rw [← hsite.1]
      rfl
  · rfl

/-- A frame is pushed above the root. -/
theorem push (s : ScopeId) (parent : Int) : (st.push s parent).Owned built := by
  refine h.keep (h.isSealed.push (st.not_inside_empty s) parent) (fun f => rfl) fun t => ?_
  have hpos := h.isSealed.sound.grounded.live_pos s
  rw [scope_push]
  split
  · next ht =>
      show ((st.scope s).pushed parent |>.frame 0).funcs = _
      rw [Scope.frame_pushed _ (h.isSealed.sound.grounded.live_le s), if_neg (by omega), ht.1]
      rfl
  · rfl

theorem release (s : ScopeId) (i : Int) : (st.release s i).Owned built := by
  refine h.keep (h.isSealed.release (st.not_inside_empty s) i) (fun f => ?_) fun t => ?_
  · simp only [function, functions_release]
  · rw [scope_release]
    split
    · next ht =>
        show (((st.scope s).release i).frame 0).funcs = _
        rw [Scope.frame_release, ht.1]
        rfl
    · rfl

/-- A function is declared, for an instance only in the root of its scope. -/
theorem register {site : Site} (hs : site.scope < st.scopes.size) {fn : Function}
    (hh : fn.home = none) (hn : fn.native = none) (ho : (st.confined ∅ built).Owner site fn.owner) :
    (st.register site fn).Owned built := by
  have hfunction := st.function_register site hh
  have hspares := h.isSealed.register ⟨hs, st.not_inside_empty _⟩ hh hn
  refine h.step hspares (fun f hf => ?_) h.id_pos h.scopes (fun f => ?_) fun c hc e he => ?_
  · rw [hfunction, if_neg]
    rintro rfl
    rw [st.function_of_size_le (Nat.le_refl _)] at hf
    exact hf rfl
  · rw [hfunction]
    split
    · right
      rcases ho with ho | ⟨c, hc, howner, hsite⟩
      · exact .ofOwner ho
      · exact fun _ => ⟨c, hc.1, howner, by rw [hsite]⟩
    · exact .inl rfl
  · -- The entry is an old one of the table, or the one that is made.
    change e ∈ ((st.register site fn).frameAt ⟨c.scope, 0⟩).funcs.entries at he
    rw [State.register, State.define, frameAt_modifyFrame] at he
    split at he
    · next hsite =>
        rcases Bindings.mem_put he with rfl | hold
        · right
          show ((st.register site fn).function st.functions.size).MemberOf c
            ((st.addFunction fn).2.function st.functions.size).name
          rw [hfunction, if_pos rfl, function_addFunction, if_pos rfl]
          refine ⟨rfl, by rw [← hsite.1], ?_⟩
          rcases ho with ho | ⟨d, hd, howner, hroot⟩
          · exact .inl ho
          · have hscope : c.scope = d.scope := congrArg Site.scope (hsite.1.trans hroot)
            rw [h.scopes c hc d hd.1 hscope]
            exact .inr howner
        · rw [← hsite.1] at hold
          exact .inl ⟨hc, hold⟩
    · exact .inl ⟨hc, he⟩

/-- An instance is started in a scope of its own, without functions. -/
theorem allot {outer : Option ScopeId} (ho : ∀ o, outer = some o → o < st.scopes.size)
    (name : Bytes) (body : List Token) :
    (st.nextId.2.newScope outer).2.Owned
      (built ++ [st.nextInstance name body]) := by
  have hspares := (h.isSealed.allot (fun o heq => ⟨ho o heq, st.not_inside_empty o⟩) name body).1
  refine h.step hspares (fun f _ => rfl) (List.forall_mem_append.2 ⟨h.id_pos, by simp⟩)
    (h.scopes_append (by simp) (by simp)) (fun f => .inl rfl) fun c hc e he => ?_
  · change e ∈ ((st.nextId.2.newScope outer).2.scope c.scope).root.funcs.entries at he
    unfold State.newScope at he
    rw [scope_addScope] at he
    split at he
    · cases he
    · next hne =>
        rcases List.mem_append.1 hc with hc | hc
        · exact .inl ⟨hc, he⟩
        · rw [List.mem_singleton.1 hc] at hne
          exact absurd rfl hne

/-- A function without a home belongs to no instance, so it may run anywhere. -/
theorem shelter {f : FunctionId} (hh : (st.function f).home = none) :
    (st.shelter f).Owned built := by
  have hfunction : ∀ g, (st.shelter f).function g = st.function g ∨
      g = f ∧ (st.shelter f).function g = { st.function f with home := some st.scopes.size } := by
    intro g
    show ((st.newScope none).2.settle f st.scopes.size).function g = st.function g ∨ _
    rw [State.shelter, function_settle]
    split
    · next hg => exact .inr ⟨hg.1, rfl⟩
    · exact .inl rfl
  refine h.step (h.isSealed.shelter f).1 (fun g hg => ?_) h.id_pos h.scopes (fun g => ?_)
    fun c hc e he => ?_
  · rcases hfunction g with heq | ⟨rfl, _⟩
    · exact heq
    · exact absurd hh hg
  · rcases hfunction g with heq | ⟨_, heq⟩
    · exact .inl heq
    · rw [heq]
      exact .inr (.ofOwner ((h.owner f).owner_eq_zero hh))
  · change e ∈ ((st.newScope none).2.scope c.scope).root.funcs.entries at he
    have hlt := h.isSealed.sound.counted.scope_lt c hc
    unfold State.newScope at he
    rw [scope_addScope, if_neg (Nat.ne_of_lt hlt)] at he
    exact .inl ⟨hc, he⟩

/-- The functions of a copy are rebound to it. -/
theorem copy {c : Instance} (hc : c ∈ built) : (st.copy c).2.Owned (built ++ st.copies c) := by
  have hsound := h.isSealed.sound
  obtain ⟨hwithin, _, _⟩ := tourFrom_complete hsound.closed hsound.counted.length_le hc
  obtain ⟨hlaid, _, _⟩ := copy_laidOut st c
  have hspares := h.isSealed.copy hc
  have hplaced : ∀ r ∈ (st.tourFrom c).entered, ∃ first,
      Placed st (st.tourFrom c).entered (st.copy c).2 r
        (st.twin (st.tourFrom c).entered r).scope first := fun r => copy_placed
  -- From here on only the layout counts, not how it came about.
  generalize (st.copy c).2 = st' at hlaid hspares hplaced ⊢
  have hpos : ∀ d ∈ st.copies c, 0 < d.id := by
    intro d hd
    obtain ⟨r, _, rfl⟩ := List.mem_map.1 hd
    exact Nat.lt_of_lt_of_le (Nat.succ_pos _) (Nat.le_add_right _ _)
  have hnew : ∀ d ∈ st.copies c, st.scopes.size ≤ d.scope := by
    intro d hd
    obtain ⟨r, _, rfl⟩ := List.mem_map.1 hd
    exact Nat.le_add_right _ _
  -- Copies with one scope have one place in the walk, so one original.
  have hdistinct : ∀ a ∈ st.copies c, ∀ b ∈ st.copies c, a.scope = b.scope → a = b := by
    intro a ha b hb heq
    obtain ⟨r, hr, rfl⟩ := List.mem_map.1 ha
    obtain ⟨r', hr', rfl⟩ := List.mem_map.1 hb
    rw [(st.tourFrom_grows c).1.eq hr hr' (id_eq_of_rank_eq hr hr' (Nat.add_left_cancel heq))]
  refine h.step hspares (fun f hf => ?_) (List.forall_mem_append.2 ⟨h.id_pos, hpos⟩)
    (h.scopes_append hnew hdistinct) (fun f => ?_) fun d hd e he => ?_
  · refine hlaid.function_old f (Nat.lt_of_not_le fun hle => hf ?_)
    rw [st.function_of_size_le hle]
    rfl
  · rcases hlaid.function_cases f with hf | ⟨r, hr, e, _, hf⟩
    · exact .inl hf
    · rw [hf]
      exact .inr fun _ => ⟨_, List.mem_append_right _ (Sound.mem_copies hr), rfl, rfl⟩
  · rcases List.mem_append.1 hd with hd | hd
    · rw [members, hlaid.scope_old d.scope (hsound.counted.scope_lt d hd)] at he
      exact .inl ⟨hd, he⟩
    · -- An entry of a copy stands for the entry of its original with the same name.
      obtain ⟨r, hr, rfl⟩ := List.mem_map.1 hd
      obtain ⟨first, hplaced⟩ := hplaced r hr
      rw [members, hplaced.scope] at he
      obtain ⟨j, hj, rfl⟩ := List.mem_mapIdx.1 he
      right
      show (st'.function (first + j)).MemberOf _ _
      rw [hplaced.function j _ (List.getElem?_eq_getElem hj)]
      have hmember := h.member r (hwithin.subset hr)
      rw [← hsound.counted.functionsOf_eq (hwithin.subset hr)] at hmember
      have hold := hmember _ (List.getElem_mem hj)
      exact ⟨hold.name_eq, rfl, .inr rfl⟩

end Owned

end State

end Quartz
