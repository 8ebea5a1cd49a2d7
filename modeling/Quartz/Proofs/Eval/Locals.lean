import Quartz.Proofs.Eval.Respect
import Quartz.Proofs.Eval.Restore

/-!
# `Quartz.Proofs.Eval.Locals`: callees do not see the locals of their callers

While functions call each other, the frames of all calls in progress are live, one above the
other, some of them in the same scope. A callee runs in a frame of its own whose parent is the
root, and it cannot look into the frames in between. So it does the same whatever these frames
hold: it gives the same value or the same error, prints the same, and leaves the same roots,
functions and instances behind (`callee_ignores_locals`).

The proof runs the callee in two states that are alike (`Eval.Oblivious`). Such states are akin,
and `Quartz.Proofs.Eval.Respect` is about runs from those.
-/

set_option autoImplicit false

namespace Quartz

/-! ### Calls -/

/-- From a state and any that is alike, a run ends in the same way. -/
def Eval.Oblivious (base : ScopeId → Nat) {α : Type} (x : Eval α) (st : State) : Prop :=
  ∀ st', st.Alike base st' → SameEnd (State.Alike base) (x st) (x st')

theorem Eval.oblivious_iff {base : ScopeId → Nat} {α : Type} {x : Eval α} {st : State} :
    x.Oblivious base st ↔ x.Respects base true st where
  mp h st' hst' := (h st' hst'.alike).mono fun _ _ h => h.akin
  mpr h st' hst' := (h st' hst'.akin).mono fun _ _ h => h.alike

/-- Calls of functions that exist do not see the frames below a base. -/
def Caller.Oblivious (call : Caller) : Prop :=
  ∀ (base : ScopeId → Nat) (f : FunctionId) (args : List Value) (built : List Instance)
    (st : State), st.Sound built → f < st.functions.size →
    (∀ v ∈ args, v.Valid (st.world built)) → (call f args).Oblivious base st

theorem oblivious_invoke {call : Caller} (hcall : call.Keeping) (hoblivious : call.Oblivious) :
    (invoke call).Oblivious := by
  intro base f args built st hst hf hargs
  have hrespects : call.Respects base true := fun f args built st hst hf hargs =>
    Eval.oblivious_iff.1 (hoblivious base f args built st hst hf hargs)
  exact Eval.oblivious_iff.2 (respects_invoke hcall hrespects f args built st hst hf hargs)

theorem oblivious_callAt (n : Nat) : (callAt n).Oblivious := by
  intro base f args built st hst hf hargs
  exact Eval.oblivious_iff.2 (respects_callAt n f args built st hst hf hargs)

/-! ### Callers -/

section

variable {base : ScopeId → Nat} {st : State}

/-- Two states have the same scopes with the same depths and the same roots, and the same of all
else. They may differ in the frames above the roots. -/
structure State.SameButLocals (st st' : State) : Prop where
  scopes : st'.scopes.size = st.scopes.size
  depth : ∀ s, (st'.scope s).depth = (st.scope s).depth
  outer : ∀ s, (st'.scope s).outer = (st.scope s).outer
  limit : ∀ s, (st'.scope s).limit = (st.scope s).limit
  root : ∀ s, (st'.scope s).root = (st.scope s).root
  others : st' = { st with scopes := st'.scopes }

/-- With all live frames below the base, only roots are in sight. -/
theorem State.SameButLocals.alike {st' : State} {w w' : World} (h : st.SameButLocals st')
    (hst : st.Grounded w) (hst' : st'.Grounded w') :
    st.Alike (fun s => (st.scope s).live) st' where
  size := h.scopes
  scope s := by
    constructor
    · exact h.depth s
    · exact h.outer s
    · exact h.limit s
    · intro i hi hlive
      have hzero : i = 0 := by omega
      rw [hzero]
      exact h.root s
    · exact Nat.le_refl _
    · exact hst.live_le s
    · exact hst'.live_le s
  others := h.others

theorem State.Alike.sameButLocals {st' : State} (h : st.Alike base st')
    (hpos : ∀ s, 0 < base s) : st.SameButLocals st' where
  scopes := h.size
  depth s := (h.scope s).live
  outer s := (h.scope s).outer
  limit s := (h.scope s).limit
  root s := (h.scope s).frame 0 (.inl rfl) (Nat.lt_of_lt_of_le (hpos s) (h.scope s).base_le)
  others := h.others

/-- A frame above a root may hold anything. -/
theorem State.sameButLocals_modifyFrame (st : State) {site : Site} (hpos : 0 < site.frame)
    (f g : Frame → Frame) : (st.modifyFrame site f).SameButLocals (st.modifyFrame site g) where
  scopes := by simp [State.modifyFrame]
  depth s := by simp [Scope.depth]
  outer s := by simp
  limit s := by simp
  root s := by
    have hne : (⟨s, 0⟩ : Site) ≠ site := by
      rintro rfl
      exact absurd hpos (Nat.lt_irrefl 0)
    show (st.modifyFrame site g).frameAt ⟨s, 0⟩ = (st.modifyFrame site f).frameAt ⟨s, 0⟩
    rw [State.frameAt_modifyFrame, State.frameAt_modifyFrame, if_neg fun h => hne h.1,
      if_neg fun h => hne h.1]
  others := rfl

/-- **Callees do not see the locals of their callers.** Let two reachable states have the same
scopes with the same depths and roots, and differ only in frames above the roots. Then calls of a
function that exists with arguments that exist, with their types checked or not, give the same
value or the same error in both, and lead to states that again differ only in frames above the
roots: what was printed, the roots, the functions and the instances with their ids are the same. -/
theorem callee_ignores_locals {built built' : List Instance} {st st' : State}
    (h : Reachable built st) (h' : Reachable built' st') (hsame : st.SameButLocals st')
    {f : FunctionId} (hf : f < st.functions.size) {args : List Value}
    (hargs : ∀ v ∈ args, v.Valid (st.world built)) :
    SameEnd State.SameButLocals (invokeFunction f args st) (invokeFunction f args st') ∧
      SameEnd State.SameButLocals (callFunction f args st) (callFunction f args st') := by
  have hst := h.sound
  have halike := hsame.alike hst.grounded h'.sound.grounded
  have hcaller : callFrom st' (st'.homeOrFirst f) = callFrom st (st.homeOrFirst f) := by
    rw [State.homeOrFirst, halike.function, callFrom, (halike.scope _).limit]
    rfl
  have hkeeping : (callFrom st (st.homeOrFirst f)).Keeping := leads_callAt _
  have hoblivious : (callFrom st (st.homeOrFirst f)).Oblivious := oblivious_callAt _
  have hend : ∀ t t', State.Alike (fun s => (st.scope s).live) t t' → t.SameButLocals t' :=
    fun t t' ht => ht.sameButLocals hst.grounded.live_pos
  constructor
  · unfold invokeFunction
    rw [Eval.get_bind_apply, Eval.get_bind_apply, hcaller]
    exact (oblivious_invoke hkeeping hoblivious _ f args built st hst hf hargs st' halike).mono hend
  · unfold callFunction
    rw [Eval.get_bind_apply, Eval.get_bind_apply, hcaller]
    exact (hoblivious _ f args built st hst hf hargs st' halike).mono hend

/-- Two callers that hold `k` with different values, and a callee that asks for `k`. -/
theorem callee_ignores_locals_undefined :
    let callee := Function.ofBody (utf8 "f") []
      [⟨.keyword, utf8 "return", 0⟩, ⟨.ident, utf8 "k", 7⟩, ⟨.semicolon, utf8 ";", 8⟩]
    let start := ((({} : State).newScope none (some 4)).2.register ⟨0, 0⟩ callee).push 0 0
    let st := start.declare ⟨0, 1⟩ (utf8 "k") (.bool true)
    let st' := start.declare ⟨0, 1⟩ (utf8 "k") .null
    Reachable [] st ∧ Reachable [] st' ∧ st.SameButLocals st' ∧
      failure? (invokeFunction 0 [] st) = some (.invalidOperand, 7) ∧
      failure? (invokeFunction 0 [] st') = some (.invalidOperand, 7) ∧
      SameEnd State.SameButLocals (invokeFunction 0 [] st) (invokeFunction 0 [] st') ∧
      SameEnd State.SameButLocals (callFunction 0 [] st) (callFunction 0 [] st') := by
  intro callee start st st'
  have hscope : Reachable [] (({} : State).newScope none (some 4)).2 :=
    .step (.initial rfl rfl) (.newScope none (some 4) (by simp))
  have hfunction : Reachable [] ((({} : State).newScope none (some 4)).2.register ⟨0, 0⟩ callee) :=
    hscope.step (.script (.register ⟨by decide, by decide⟩ rfl rfl))
  have hstart : Reachable [] start :=
    hfunction.step (.script (.push (s := 0) (by decide) (by decide) 0))
  have hst : Reachable [] st :=
    hstart.step (.script (.declare ⟨by decide, by decide⟩ (utf8 "k") trivial))
  have hst' : Reachable [] st' :=
    hstart.step (.script (.declare ⟨by decide, by decide⟩ (utf8 "k") trivial))
  have hsame : st.SameButLocals st' :=
    State.sameButLocals_modifyFrame start (by decide) _ _
  have hfails : failure? (invokeFunction 0 [] st) = some (.invalidOperand, 7) ∧
      failure? (invokeFunction 0 [] st') = some (.invalidOperand, 7) := by decide +kernel
  exact ⟨hst, hst', hsame, hfails.1, hfails.2,
    callee_ignores_locals hst hst' hsame (by decide) (by simp)⟩

end

end Quartz
