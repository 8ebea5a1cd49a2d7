import Quartz.Eval.Basic

/-!
# `Quartz.Proofs.State.Basic`: reading scopes and frames after a change

Every change of the state is a change of one scope, a new scope or a new function. The
lemmas here say what a scope, a frame or a function is afterwards. Places outside the
arrays read as a scope with an empty root and as a function without a home, and changing
such a place does nothing, so most equations need no bounds.
-/

set_option autoImplicit false

namespace Quartz

/-! ### Frames of a scope -/

namespace Scope

variable (s : Scope)

theorem frame_modify (i j : Nat) (f : Frame → Frame) :
    (s.modify i f).frame j = if j = i ∧ i < s.slots.size then f (s.frame i) else s.frame j := by
  simp only [frame, modify, Array.getD_eq_getD_getElem?, Array.getElem?_modify]
  by_cases hj : j = i
  · subst hj
    by_cases hlt : j < s.slots.size
    · simp [hlt]
    · simp [hlt]
  · simp [hj, Ne.symm hj]

@[simp]
theorem live_modify (i : Nat) (f : Frame → Frame) : (s.modify i f).live = s.live := rfl

@[simp]
theorem size_modify (i : Nat) (f : Frame → Frame) :
    (s.modify i f).slots.size = s.slots.size := by
  simp [modify]

theorem frame_pushed (hs : s.live ≤ s.slots.size) (parent : Int) (j : Nat) :
    (s.pushed parent).frame j = if j = s.live then .fresh parent else s.frame j := by
  simp only [frame, pushed, Array.getD_eq_getD_getElem?]
  split
  · next hlt =>
      rw [Array.getElem?_modify]
      by_cases hjl : s.live = j
      · subst hjl
        simp [hlt, Frame.recycle_eq]
      · rw [if_neg hjl, if_neg (Ne.symm hjl)]
  · next hge =>
      have hsize : s.live = s.slots.size := by omega
      rw [Array.getElem?_push]
      by_cases hjl : j = s.slots.size
      · simp [hjl, hsize]
      · simp [hjl, hsize]

theorem size_pushed (hs : s.live ≤ s.slots.size) (parent : Int) :
    s.live + 1 ≤ (s.pushed parent).slots.size := by
  simp only [pushed]
  split
  · simp only [Array.size_modify]
    omega
  · simp only [Array.size_push]
    omega

theorem live_release_le (i : Int) : (s.release i).live ≤ s.live := by
  unfold release releasable
  split
  · next hi =>
      simp only [Bool.and_eq_true, decide_eq_true_eq] at hi
      show i.toNat ≤ s.live
      omega
  · exact Nat.le_refl _

@[simp]
theorem frame_release (i : Int) (j : Nat) : (s.release i).frame j = s.frame j := by
  unfold release
  split <;> rfl

@[simp]
theorem slots_release (i : Int) : (s.release i).slots = s.slots := by
  unfold release
  split <;> rfl

end Scope

/-! ### Scopes and functions of a state -/

namespace State

variable (st : State)

/-- The instance that is started next. -/
abbrev nextInstance (name : Bytes) (body : List Token) : Instance :=
  ⟨name, st.lastId + 1, body, st.scopes.size, st.scopes.size⟩

theorem scope_modifyScope (s t : ScopeId) (f : Scope → Scope) :
    (st.modifyScope s f).scope t =
      if t = s ∧ s < st.scopes.size then f (st.scope s) else st.scope t := by
  simp only [scope, modifyScope, Array.getD_eq_getD_getElem?, Array.getElem?_modify]
  by_cases ht : t = s
  · subst ht
    by_cases hlt : t < st.scopes.size
    · simp [hlt]
    · simp [hlt]
  · simp [ht, Ne.symm ht]

@[simp]
theorem size_modifyScope (s : ScopeId) (f : Scope → Scope) :
    (st.modifyScope s f).scopes.size = st.scopes.size := by
  simp [modifyScope]

@[simp]
theorem functions_modifyScope (s : ScopeId) (f : Scope → Scope) :
    (st.modifyScope s f).functions = st.functions := rfl

theorem scope_addScope (sc : Scope) (t : ScopeId) :
    (st.addScope sc).2.scope t = if t = st.scopes.size then sc else st.scope t := by
  simp only [scope, addScope, Array.getD_eq_getD_getElem?, Array.getElem?_push]
  split <;> rfl

theorem scope_of_size_le {s : ScopeId} (h : st.scopes.size ≤ s) : st.scope s = default := by
  simp [scope, h]

theorem function_of_size_le {f : FunctionId} (h : st.functions.size ≤ f) :
    st.function f = default := by
  simp [function, h]

/-! #### Binding in a frame -/

/-- The frame at a site after a change at another one, or at the same one. -/
theorem frameAt_modifyFrame (site t : Site) (f : Frame → Frame) :
    (st.modifyFrame site f).frameAt t =
      if t = site ∧ site.scope < st.scopes.size ∧
          site.frame < (st.scope site.scope).slots.size then f (st.frameAt site)
      else st.frameAt t := by
  obtain ⟨s, i⟩ := site
  obtain ⟨s', i'⟩ := t
  simp only [frameAt, modifyFrame, scope_modifyScope]
  by_cases hs : s' = s
  · subst hs
    by_cases hlt : s' < st.scopes.size
    · simp only [hlt, and_self, if_true, Scope.frame_modify, Site.mk.injEq, true_and]
    · simp [hlt]
  · simp [hs]

section

variable (site : Site) (f : Frame → Frame) (s : ScopeId)

@[simp]
theorem live_modifyFrame : ((st.modifyFrame site f).scope s).live = (st.scope s).live := by
  simp only [modifyFrame, scope_modifyScope]
  split
  · next h => rw [h.1, Scope.live_modify]
  · rfl

@[simp]
theorem slots_size_modifyFrame :
    ((st.modifyFrame site f).scope s).slots.size = (st.scope s).slots.size := by
  simp only [modifyFrame, scope_modifyScope]
  split
  · next h => rw [h.1, Scope.size_modify]
  · rfl

@[simp]
theorem outer_modifyFrame : ((st.modifyFrame site f).scope s).outer = (st.scope s).outer := by
  simp only [modifyFrame, scope_modifyScope]
  split
  · next h => rw [h.1]; rfl
  · rfl

@[simp]
theorem limit_modifyFrame : ((st.modifyFrame site f).scope s).limit = (st.scope s).limit := by
  simp only [modifyFrame, scope_modifyScope]
  split
  · next h => rw [h.1]; rfl
  · rfl

end

/-! #### Pushing and releasing frames -/

/-- Pushes a frame onto a scope, and reports it. -/
def push (s : ScopeId) (parent : Int) : State :=
  (st.modifyScope s (·.pushed parent)).report (.framePushed (st.scope s).live parent)

theorem scope_push (s t : ScopeId) (parent : Int) :
    (st.push s parent).scope t =
      if t = s ∧ s < st.scopes.size then (st.scope s).pushed parent else st.scope t :=
  st.scope_modifyScope s t _

@[simp]
theorem size_push (s : ScopeId) (parent : Int) :
    (st.push s parent).scopes.size = st.scopes.size :=
  st.size_modifyScope s _

theorem scope_release (s t : ScopeId) (i : Int) :
    (st.release s i).scope t =
      if t = s ∧ s < st.scopes.size then (st.scope s).release i else st.scope t := by
  unfold State.release
  split
  · exact st.scope_modifyScope s t _
  · next hr =>
      rw [Scope.release, if_neg hr]
      split
      · next h => rw [h.1]
      · rfl

@[simp]
theorem size_release (s : ScopeId) (i : Int) :
    (st.release s i).scopes.size = st.scopes.size := by
  unfold State.release
  split
  · exact st.size_modifyScope s _
  · rfl

@[simp]
theorem functions_release (s : ScopeId) (i : Int) :
    (st.release s i).functions = st.functions := by
  unfold State.release
  split <;> rfl

@[simp]
theorem lastId_release (s : ScopeId) (i : Int) : (st.release s i).lastId = st.lastId := by
  unfold State.release
  split <;> rfl

/-! #### Functions -/

theorem function_addFunction (fn : Function) (f : FunctionId) :
    (st.addFunction fn).2.function f =
      if f = st.functions.size then fn else st.function f := by
  simp only [function, addFunction, Array.getD_eq_getD_getElem?, Array.getElem?_push]
  split <;> rfl

/-- Settling gives a function a home, and changes nothing else. -/
theorem function_settle (f g : FunctionId) (s : ScopeId) :
    (st.settle f s).function g =
      if g = f ∧ f < st.functions.size ∧ (st.function f).home = none then
        { st.function f with home := some s } else st.function g := by
  simp only [function, settle, Array.getD_eq_getD_getElem?, Array.getElem?_modify]
  by_cases hg : g = f
  · subst hg
    by_cases hlt : g < st.functions.size
    · cases hh : st.functions[g].home <;> simp [hlt, hh]
    · simp [hlt]
  · simp [hg, Ne.symm hg]

@[simp]
theorem size_settle (f : FunctionId) (s : ScopeId) :
    (st.settle f s).functions.size = st.functions.size := by
  simp [settle]

end State

end Quartz
