import Quartz.Proofs.State.Lookup

/-!
# `Quartz.Proofs.State.Tidy`: tables and scopes of reachable states

Two facts about reachable states that soundness does not give. A table of bindings keeps each
name once, so it is determined by what it holds, in whatever order its entries come
(`Bindings.get?_eq_of_perm`). And a scope is younger than the scope outside it, so the walks
outwards end.
-/

set_option autoImplicit false

namespace Quartz

/-! ### Tables -/

namespace Bindings

variable {α : Type}

/-- Binding a name keeps the names in their places, and adds a new one at the end. -/
theorem names_put (name : Bytes) (a : α) (l : List (Bytes × α)) :
    (put name a l).map Prod.fst =
      if name ∈ l.map Prod.fst then l.map Prod.fst else l.map Prod.fst ++ [name] := by
  induction l with
  | nil => rfl
  | cons e rest ih =>
    obtain ⟨n, b⟩ := e
    by_cases hn : n = name
    · simp [put, hn]
    · simp only [put, if_neg hn, List.map_cons, ih, List.mem_cons, Ne.symm hn, false_or]
      split <;> rfl

theorem nodup_names_set {b : Bindings α} (h : b.names.Nodup) (name : Bytes) (a : α) :
    (b.set name a).names.Nodup := by
  have hnames : (b.set name a).names = if name ∈ b.names then b.names else b.names ++ [name] :=
    names_put name a b.entries
  rw [hnames]
  split
  · exact h
  · next hnew =>
      have hdisjoint : ∀ n ∈ b.names, ∀ m ∈ [name], n ≠ m := by
        intro n hn m hm hnm
        rw [hnm, List.mem_singleton.1 hm] at hn
        exact hnew hn
      exact List.nodup_append.2 ⟨h, List.pairwise_singleton _ name, hdisjoint⟩

/-- Bindings of two names differ by the order in which they are made, and in nothing else. -/
theorem put_comm {n m : Bytes} (hnm : n ≠ m) (a b : α) (l : List (Bytes × α)) :
    (put n a (put m b l)).Perm (put m b (put n a l)) := by
  induction l with
  | nil => simpa [put, hnm, Ne.symm hnm] using List.Perm.swap (n, a) (m, b) []
  | cons e rest ih =>
    by_cases hn : e.1 = n
    · simp [put, hn, hnm]
    · by_cases hm : e.1 = m
      · simp [put, hm, Ne.symm hnm]
      · simpa [put, hn, hm] using ih

/-- Where each name stands once, looking a name up finds its entry. -/
theorem get?_eq_some_iff {b : Bindings α} (h : b.names.Nodup) (name : Bytes) (a : α) :
    b.get? name = some a ↔ (name, a) ∈ b.entries := by
  constructor
  · exact mem_of_get?
  · intro hmem
    obtain ⟨l⟩ := b
    change (l.map Prod.fst).Nodup at h
    show find? name l = some a
    induction l with
    | nil => exact nomatch hmem
    | cons e rest ih =>
      obtain ⟨hnew, hrest⟩ := List.nodup_cons.1 h
      rcases List.mem_cons.1 hmem with rfl | hmem
      · simp [find?]
      · -- A later entry has another name than the first one.
        have hname : e.1 ≠ name := fun hn => hnew (hn ▸ List.mem_map_of_mem hmem)
        rw [find?, if_neg hname]
        exact ih hmem hrest

/-- The order of the entries does not matter. -/
theorem get?_eq_of_perm {b b' : Bindings α} (h : b.names.Nodup) (hp : b.entries.Perm b'.entries)
    (name : Bytes) : b'.get? name = b.get? name := by
  have h' : b'.names.Nodup := (hp.map Prod.fst).nodup_iff.1 h
  ext a
  rw [get?_eq_some_iff h', get?_eq_some_iff h, hp.mem_iff]

end Bindings

/-! ### Frames and scopes -/

/-- Both tables of a frame keep each name once. -/
structure Frame.Keyed (f : Frame) : Prop where
  vars : f.vars.names.Nodup
  funcs : f.funcs.names.Nodup

theorem Frame.keyed_fresh (parent : Int) : (Frame.fresh parent).Keyed :=
  ⟨List.nodup_nil, List.nodup_nil⟩

theorem Frame.Keyed.declare {f : Frame} (h : f.Keyed) (name : Bytes) (v : Value) :
    (f.declare name v).Keyed :=
  ⟨Bindings.nodup_names_set h.vars name v, h.funcs⟩

theorem Frame.Keyed.define {f : Frame} (h : f.Keyed) (name : Bytes) (id : FunctionId) :
    (f.define name id).Keyed :=
  ⟨h.vars, Bindings.nodup_names_set h.funcs name id⟩

/-- A scope at a place is younger than the scope outside it and has room for its root frame, and
its frames are keyed. -/
structure Scope.Tidy (place : ScopeId) (s : Scope) : Prop where
  outer_lt : ∀ o, s.outer = some o → o < place
  limit_pos : 0 < s.limit
  keyed : ∀ i, (s.frame i).Keyed

theorem Scope.tidy_fresh {place : ScopeId} {outer : Option ScopeId}
    (ho : ∀ o, outer = some o → o < place) {limit : Nat} (hlimit : 0 < limit) :
    (Scope.fresh outer limit).Tidy place := by
  refine ⟨ho, hlimit, fun i => ?_⟩
  cases i <;> exact Frame.keyed_fresh (-1)

/-- Places without a scope read as a tidy one. -/
theorem Scope.tidy_default (place : ScopeId) : (default : Scope).Tidy place := by
  have hnone : ∀ o : ScopeId, none = some o → o < place := nofun
  exact Scope.tidy_fresh hnone (Nat.succ_pos 999)

/-- All scopes of a state are tidy. -/
def State.Tidy (st : State) : Prop := ∀ s, (st.scope s).Tidy s

namespace State.Tidy

variable {st : State}

theorem initial (hs : st.scopes = #[]) : st.Tidy := by
  intro s
  rw [st.scope_of_size_le (by simp [hs])]
  exact Scope.tidy_default s

variable (h : st.Tidy)
include h

theorem modifyFrame (site : Site) {f : Frame → Frame} (hf : ∀ fr : Frame, fr.Keyed → (f fr).Keyed) :
    (st.modifyFrame site f).Tidy := by
  intro s
  constructor
  · rw [State.outer_modifyFrame]
    exact (h s).outer_lt
  · rw [State.limit_modifyFrame]
    exact (h s).limit_pos
  · intro i
    show ((st.modifyFrame site f).frameAt ⟨s, i⟩).Keyed
    rw [State.frameAt_modifyFrame]
    split
    · exact hf _ ((h site.scope).keyed site.frame)
    · exact (h s).keyed i

theorem declare (site : Site) (name : Bytes) (v : Value) : (st.declare site name v).Tidy :=
  h.modifyFrame site fun _ hfr => hfr.declare name v

theorem define (site : Site) (f : FunctionId) : (st.define site f).Tidy := by
  have hsettled : (st.settle f site.scope).Tidy := h
  exact hsettled.modifyFrame site fun _ hfr => hfr.define _ f

theorem newScope {outer : Option ScopeId} (ho : ∀ o, outer = some o → o < st.scopes.size)
    (limit : Option Int) : (st.newScope outer limit).2.Tidy := by
  intro s
  unfold State.newScope
  rw [State.scope_addScope]
  split
  · next hs =>
      rw [hs]
      refine Scope.tidy_fresh ho ?_
      have hinherited : 0 < st.inheritedLimit outer := by
        cases outer with
        | none => exact Nat.succ_pos 999
        | some o => exact (h o).limit_pos
      cases limit with
      | none => exact hinherited
      | some n =>
        dsimp only
        split
        · omega
        · exact hinherited
  · exact h s

theorem push {w : World} (hg : st.Grounded w) (s : ScopeId) (parent : Int) :
    (st.push s parent).Tidy := by
  intro t
  rw [State.scope_push]
  split
  · next ht =>
      rw [ht.1]
      refine ⟨(h s).outer_lt, (h s).limit_pos, fun i => ?_⟩
      rw [Scope.frame_pushed _ (hg.live_le s)]
      split
      · exact Frame.keyed_fresh parent
      · exact (h s).keyed i
  · exact h t

theorem release (s : ScopeId) (i : Int) : (st.release s i).Tidy := by
  intro t
  rw [State.scope_release]
  split
  · next ht =>
      rw [ht.1]
      refine ⟨fun o ho => (h s).outer_lt o ?_, ?_, fun j => ?_⟩
      · unfold Scope.release at ho
        split at ho <;> exact ho
      · unfold Scope.release
        split <;> exact (h s).limit_pos
      · rw [Scope.frame_release]
        exact (h s).keyed j
  · exact h t

/-- The scope of a copy keeps the names of its original. -/
theorem twinScope (l : List Instance) (first : Nat) {c : Instance} {place : ScopeId}
    (hc : c.scope ≤ place) : (st.twinScope l first c).Tidy place := by
  refine ⟨fun o ho => Nat.lt_of_lt_of_le ((h c.scope).outer_lt o ho) hc, (h c.scope).limit_pos,
    fun i => ?_⟩
  cases i with
  | succ i => exact Frame.keyed_fresh (-1)
  | zero =>
    constructor
    · show (((st.membersFor _ c).map fun e => (e.1, st.twinValue l e.2)).map Prod.fst).Nodup
      rw [List.map_map]
      exact ((st.membersFor_perm _ c).map Prod.fst).nodup_iff.2 ((h c.scope).keyed 0).vars
    · show (((st.functionsOf c).entries.mapIdx fun i e => (e.1, first + i)).map Prod.fst).Nodup
      have hnames : ((st.functionsOf c).entries.mapIdx fun i e =>
          (e.1, first + i)).map Prod.fst = (st.functionsOf c).names :=
        List.ext_getElem (by simp [Bindings.names]) (by simp [Bindings.names])
      rw [hnames]
      exact ((h c.table).keyed 0).funcs

theorem copy {built : List Instance} (hst : st.Sound built) {c : Instance} (hc : c ∈ built) :
    (st.copy c).2.Tidy := by
  obtain ⟨hwithin, _, _⟩ := tourFrom_complete hst.closed hst.counted.length_le hc
  have hlaid := (copy_laidOut st c).1
  generalize (st.copy c).2 = st' at hlaid ⊢
  intro (s : Nat)
  by_cases hold : s < st.scopes.size
  · rw [hlaid.scope_old s hold]
    exact h s
  · by_cases hnew : s < st'.scopes.size
    · obtain ⟨d, hd, first, _, hs⟩ := hlaid.scope_new s (by omega) hnew
      have hlt := hst.counted.scope_lt d (hwithin.subset hd)
      have hle : d.scope ≤ s := Nat.le_of_lt (Nat.lt_of_lt_of_le hlt (Nat.le_of_not_lt hold))
      rw [hs]
      exact h.twinScope _ first hle
    · rw [st'.scope_of_size_le (by omega)]
      exact Scope.tidy_default s

end State.Tidy

/-! ### Changes -/

section

variable {built built' : List Instance} {st st' : State}

theorem Move.tidy (h : Move built st built' st') (hst : st.Sound built) (ht : st.Tidy) :
    st'.Tidy := by
  cases h with
  | declare hs name hv => exact ht.declare _ name _
  | @register site hs fn hh hn =>
    have hadded : (st.addFunction fn).2.Tidy := ht
    exact hadded.define site _
  | @allot outer ho name body =>
    have hcounted : st.nextId.2.Tidy := ht
    refine hcounted.newScope (fun o hs => ?_) none
    cases hs
    exact ho
  | copy hc => exact ht.copy hst hc
  | shelter hf hh =>
    have hnone : ∀ o : ScopeId, none = some o → o < st.scopes.size := nofun
    exact ht.newScope hnone none
  | push hs hf parent => exact ht.push hst.grounded _ parent
  | release hs hpos hl => exact ht.release _ _
  | print line => exact ht
  | report he => exact ht

theorem Update.tidy (h : Update built st built' st') (hst : st.Sound built) (ht : st.Tidy) :
    st'.Tidy := by
  cases h with
  | script h => exact h.tidy hst ht
  | newScope outer limit ho => exact ht.newScope ho limit
  | allot name body =>
    have hcounted : st.nextId.2.Tidy := ht
    have hnone : ∀ o : ScopeId, none = some o → o < st.scopes.size := nofun
    exact hcounted.newScope hnone none
  | addFunction fn hh hn => exact ht
  | define hs hf => exact ht.define _ _
  | release s i => exact ht.release s i
  | mute b => exact ht
  | report e => exact ht
  | notify line => exact ht

end

theorem Reachable.tidy {built : List Instance} {st : State} (h : Reachable built st) :
    st.Tidy := by
  induction h with
  | initial hs hf => exact .initial hs
  | step hr hu ih => exact hu.tidy hr.sound ih

end Quartz
