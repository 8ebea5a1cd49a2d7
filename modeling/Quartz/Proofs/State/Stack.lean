import Quartz.Proofs.Eval.Course
import Quartz.Proofs.State.Alike

/-!
# `Quartz.Proofs.State.Stack`: the arena of frames is a stack of fresh frames

A scope keeps its frames in the slots of an arena. Releasing frames leaves their bindings in the
slots, and pushing a frame takes over the next slot. `Stack` is the plain form of a scope: its
frames are a list, pushing puts a fresh frame at the end, and releasing drops frames from there.
`Stacks` has one stack for each scope, and a search for names of its own.

`Scope.stack` forgets the slots that are not live. It carries every operation on arenas over to the
same operation on stacks (`State.Orderly.answer`), as long as each scope is `Orderly`: it has its
root, no more frames than allowed, and the parent of each frame lies below it. Every operation
keeps this, so a whole sequence of operations gets the same answers (`arena_refines_stacks`).
-/

set_option autoImplicit false

namespace Quartz

/-! ### Plain stacks -/

/-- A stack of frames, with the scope outside it and the number of frames that it may hold. -/
structure Stack where
  frames : List Frame
  outer : Option ScopeId
  limit : Nat

namespace Stack

/-- A stack with a root only. -/
def fresh (outer : Option ScopeId) (limit : Nat) : Stack := ⟨[.fresh (-1)], outer, limit⟩

instance : Inhabited Stack := ⟨fresh none Scope.defaultLimit⟩

/-- Puts a fresh frame at the end. -/
def push (k : Stack) (parent : Int) : Stack := { k with frames := k.frames ++ [.fresh parent] }

/-- Drops the frame at an index and all behind it. The root stays. -/
def release (k : Stack) (i : Int) : Stack :=
  if 0 < i then { k with frames := k.frames.take i.toNat } else k

/-- Changes the frame at an index. -/
def modify (k : Stack) (i : Nat) (f : Frame → Frame) : Stack :=
  { k with frames := k.frames.modify i f }

/-- The first frame with a property, from an index along the parents. -/
def seek (k : Stack) (has : Frame → Bool) (i : Nat) : Option Nat :=
  match k.frames[i]? with
  | none => none
  | some f =>
    if has f then some i
    else if 0 ≤ f.parent ∧ f.parent < i then k.seek has f.parent.toNat
    else none
termination_by i

end Stack

/-- The stacks of all scopes, and all functions. -/
structure Stacks where
  scopes : List Stack
  functions : Array Function

namespace Stacks

/-- No scopes. -/
def start (functions : Array Function) : Stacks := ⟨[], functions⟩

/-- A stack by its place. -/
def stack (k : Stacks) (s : ScopeId) : Stack := k.scopes.getD s default

/-- Changes a stack. -/
def modify (k : Stacks) (s : ScopeId) (f : Stack → Stack) : Stacks :=
  { k with scopes := k.scopes.modify s f }

theorem modify_of_fixed {k : Stacks} {s : ScopeId} {f : Stack → Stack}
    (h : f (k.stack s) = k.stack s) : k.modify s f = k := by
  have hlist : k.scopes.modify s f = k.scopes := by
    refine List.ext_getElem? fun t => ?_
    rw [List.getElem?_modify]
    by_cases ht : s = t
    · subst ht
      cases hs : k.scopes[s]? with
      | none => rfl
      | some sc =>
        have hstack : k.stack s = sc := by simp [stack, List.getD_eq_getElem?_getD, hs]
        rw [hstack] at h
        simp [h]
    · simp [ht]
  exact congrArg (Stacks.mk · k.functions) hlist

/-- The frame at a site. -/
def frameAt (k : Stacks) (site : Site) : Frame :=
  (k.stack site.scope).frames.getD site.frame default

/-- The first frame with a property that a search from a frame of a scope meets. -/
def seek (k : Stacks) (has : Frame → Bool) (s : ScopeId) (i : Nat) : Option Site :=
  match (k.stack s).seek has i with
  | some frame => some ⟨s, frame⟩
  | none =>
    match (k.stack s).outer with
    | none => none
    | some o => if o < s then k.seek has o 0 else none
termination_by s

/-- The frame that holds a variable visible from a site. -/
def holder? (k : Stacks) (site : Site) (name : Bytes) : Option Site :=
  k.seek (fun f => f.vars.contains name) site.scope site.frame

/-- The limit of a new stack: the given one if it is positive, or else the one outside. -/
def limitFor (k : Stacks) (outer : Option ScopeId) (limit : Option Int) : Nat :=
  let inherited := (outer.map fun o => (k.stack o).limit).getD Scope.defaultLimit
  match limit with
  | some n => if 0 < n then n.toNat else inherited
  | none => inherited

end Stacks

/-! ### Operations -/

/-- What can be done with the frames of scopes. -/
inductive FrameOp where
  | newScope (outer : Option ScopeId) (limit : Option Int)
  | push (s : ScopeId) (parent : Int)
  | release (s : ScopeId) (i : Int)
  | declare (site : Site) (name : Bytes) (v : Value)
  | assign (site : Site) (name : Bytes) (v : Value)
  | define (site : Site) (f : FunctionId)
  | lookup (site : Site) (name : Bytes)
  | lookupFunction (site : Site) (name : Bytes)
  | depth (s : ScopeId)

/-- What an operation gives. -/
inductive FrameAnswer where
  | done
  | scope (s : ScopeId)
  | frame (i : Nat)
  | refused (stop : Stop)
  | value (v : Option Value)
  | function (f : Option FunctionId)
  | depth (n : Nat)

/-- An operation on the arenas of a state. -/
def State.answer (st : State) : FrameOp → FrameAnswer × State
  | .newScope outer limit =>
    let made := st.newScope outer limit
    (.scope made.1, made.2)
  | .push s parent =>
    match pushFrame s parent st with
    | .ok i st => (.frame i, st)
    | .error stop st => (.refused stop, st)
  | .release s i => (.done, st.release s i)
  | .declare site name v => (.done, st.declare site name v)
  | .assign site name v => (.done, st.assign site name v)
  | .define site f => (.done, st.define site f)
  | .lookup site name => (.value (st.value? site name), st)
  | .lookupFunction site name => (.function (st.function? site name), st)
  | .depth s => (.depth (st.scope s).depth, st)

namespace Stacks

/-- An operation on plain stacks. -/
def answer (k : Stacks) : FrameOp → FrameAnswer × Stacks
  | .newScope outer limit =>
    (.scope k.scopes.length,
      { k with scopes := k.scopes ++ [.fresh outer (k.limitFor outer limit)] })
  | .push s parent =>
    let depth := (k.stack s).frames.length
    let limit := (k.stack s).limit
    if limit ≤ depth then
      (.refused (.fault (.runtime ⟨.stackOverflow (depth + 1) limit, -1⟩)), k)
    else (.frame depth, k.modify s (·.push parent))
  | .release s i => (.done, k.modify s (·.release i))
  | .declare site name v =>
    (.done, k.modify site.scope (·.modify site.frame (·.declare name v)))
  | .assign site name v =>
    let target := (k.holder? site name).getD site
    (.done, k.modify target.scope (·.modify target.frame (·.declare name v)))
  | .define site f =>
    let fn := k.functions.getD f default
    let settled := k.functions.modify f fun fn =>
      { fn with home := fn.home <|> some site.scope }
    (.done, { k.modify site.scope (·.modify site.frame (·.define fn.name f)) with
      functions := settled })
  | .lookup site name =>
    (.value ((k.holder? site name).bind fun h => (k.frameAt h).vars.get? name), k)
  | .lookupFunction site name =>
    (.function ((k.seek (fun f => f.funcs.contains name) site.scope site.frame).bind fun h =>
      (k.frameAt h).funcs.get? name), k)
  | .depth s => (.depth (k.stack s).frames.length, k)

/-- A site that is in use. -/
def Live (k : Stacks) (site : Site) : Prop :=
  site.scope < k.scopes.length ∧ site.frame < (k.stack site.scope).frames.length

/-- An operation that names scopes that exist, reads and writes frames in use, and pushes a
frame only with a parent below it. -/
def Legal (k : Stacks) : FrameOp → Prop
  | .newScope outer _ => ∀ o, outer = some o → o < k.scopes.length
  | .push s parent => s < k.scopes.length ∧ parent < (k.stack s).frames.length
  | .release s _ | .depth s => s < k.scopes.length
  | .declare site _ _ | .assign site _ _ | .define site _ => k.Live site
  | .lookup site _ | .lookupFunction site _ => k.Live site

/-- Operations of which each is legal after those before it. -/
def LegalAll (k : Stacks) : List FrameOp → Prop
  | [] => True
  | op :: ops => k.Legal op ∧ (k.answer op).2.LegalAll ops

/-- Several operations, one after the other. -/
def answerAll (k : Stacks) : List FrameOp → List FrameAnswer × Stacks
  | [] => ([], k)
  | op :: ops =>
    let rest := (k.answer op).2.answerAll ops
    ((k.answer op).1 :: rest.1, rest.2)

end Stacks

/-- Several operations on the arenas of a state. -/
def State.answerAll (st : State) : List FrameOp → List FrameAnswer × State
  | [] => ([], st)
  | op :: ops =>
    let rest := (st.answer op).2.answerAll ops
    ((st.answer op).1 :: rest.1, rest.2)

/-! ### The stack in an arena -/

namespace Scope

/-- The live frames of a scope. -/
def stack (s : Scope) : Stack := ⟨s.slots.toList.take s.live, s.outer, s.limit⟩

/-- A scope with its root, with no more frames than allowed, and with parents below their
frames. -/
structure Orderly (s : Scope) : Prop where
  pos : 0 < s.live
  live_le : s.live ≤ s.slots.size
  le_limit : s.live ≤ s.limit
  parent_lt : ∀ i : Nat, i < s.live → (s.frame i).parent < i

section

variable {s : Scope}

@[simp]
theorem outer_stack : s.stack.outer = s.outer := rfl

@[simp]
theorem limit_stack : s.stack.limit = s.limit := rfl

theorem length_stack (h : s.live ≤ s.slots.size) : s.stack.frames.length = s.live := by
  simp [stack, h]

theorem getElem?_stack (h : s.live ≤ s.slots.size) (i : Nat) :
    s.stack.frames[i]? = if i < s.live then some (s.frame i) else none := by
  simp only [stack, List.getElem?_take, Array.getElem?_toList, frame]
  split
  · rw [Array.getElem?_eq_getElem (by omega), Array.getD_eq_getD_getElem?,
      Array.getElem?_eq_getElem (by omega), Option.getD_some]
  · rfl

/-- A scope stands for a stack with the same frames. -/
theorem stack_eq {k : Stack} (hs : s.live ≤ s.slots.size)
    (hframes : ∀ i : Nat, k.frames[i]? = if i < s.live then some (s.frame i) else none)
    (houter : k.outer = s.outer) (hlimit : k.limit = s.limit) : s.stack = k := by
  obtain ⟨frames, outer, limit⟩ := k
  cases houter
  cases hlimit
  have heq : s.stack.frames = frames :=
    List.ext_getElem? fun i => (getElem?_stack hs i).trans (hframes i).symm
  rw [← heq]
  rfl

/-- A slot that is taken over holds a fresh frame, whatever it held before. -/
theorem stack_pushed (h : s.live ≤ s.slots.size) (parent : Int) :
    (s.pushed parent).stack = s.stack.push parent := by
  refine stack_eq (s.size_pushed h parent) (fun i => ?_) rfl rfl
  show (s.stack.frames ++ [.fresh parent])[i]? =
    if i < s.live + 1 then some ((s.pushed parent).frame i) else none
  rw [List.getElem?_append, length_stack h, getElem?_stack h, frame_pushed s h]
  by_cases hlt : i < s.live
  · rw [if_pos hlt, if_pos hlt, if_pos (by omega), if_neg (by omega)]
  · by_cases heq : i = s.live
    · simp [heq]
    · rw [if_neg hlt, if_neg (by omega), List.getElem?_eq_none (by simp; omega)]

theorem stack_release (h : s.live ≤ s.slots.size) (i : Int) :
    (s.release i).stack = s.stack.release i := by
  unfold release releasable Stack.release
  by_cases hpos : 0 < i
  · by_cases hlt : i < s.live
    · simp only [hpos, hlt, decide_true, Bool.and_self, if_true, stack, List.take_take]
      rw [Nat.min_eq_left (by omega)]
    -- Nothing is live from the index on, so nothing is dropped.
    · have hall : s.stack.frames.take i.toNat = s.stack.frames :=
        List.take_of_length_le (by rw [length_stack h]; omega)
      rw [if_neg (by simp [hlt]), if_pos hpos, hall]
  · simp [hpos]

theorem stack_modify (h : s.live ≤ s.slots.size) (i : Nat) (f : Frame → Frame) :
    (s.modify i f).stack = s.stack.modify i f := by
  refine stack_eq (by rwa [live_modify, size_modify]) (fun j => ?_) rfl rfl
  rw [live_modify, frame_modify]
  simp only [Stack.modify, List.getElem?_modify, getElem?_stack h]
  by_cases hlt : j < s.live
  · rw [if_pos hlt, if_pos hlt]
    by_cases heq : j = i
    · subst heq
      simp [show j < s.slots.size by omega]
    · simp [heq, Ne.symm heq]
  · simp [hlt]

/-- The steps suffice for the whole walk, since it only goes down. -/
theorem Orderly.seek_eq (h : s.Orderly) (has : Frame → Bool) {steps i : Nat} (hi : i < steps) :
    s.seek has steps i = s.stack.seek has i := by
  induction i using Nat.strongRecOn generalizing steps with
  | _ i ih =>
    obtain ⟨steps, rfl⟩ : ∃ more, steps = more + 1 := ⟨steps - 1, by omega⟩
    rw [Stack.seek, getElem?_stack h.live_le]
    by_cases hlive : i < s.live
    · rw [seek_of_live has hlive, if_pos hlive]
      dsimp only
      have hparent := h.parent_lt i hlive
      by_cases hguard : 0 ≤ (s.frame i).parent ∧ (s.frame i).parent < i
      · have hsteps : (s.frame i).parent.toNat < steps := by omega
        rw [if_pos hguard, ← ih _ (by omega) hsteps, Int.toNat_of_nonneg hguard.1]
      · rw [if_neg hguard, seek_of_neg has steps (by omega)]
    · rw [if_neg hlive, seek, live?, if_neg (by omega)]

end

/-! #### What keeps the order -/

theorem orderly_fresh (outer : Option ScopeId) {limit : Nat} (h : 0 < limit) :
    (fresh outer limit).Orderly where
  pos := Nat.one_pos
  live_le := Nat.le_refl 1
  le_limit := h
  parent_lt i hi := by
    have hzero : i = 0 := Nat.lt_one_iff.1 hi
    subst hzero
    show (-1 : Int) < 0
    omega

namespace Orderly

variable {s : Scope}

theorem pushed (h : s.Orderly) (hroom : s.live < s.limit) {parent : Int} (hp : parent < s.live) :
    (s.pushed parent).Orderly where
  pos := Nat.succ_pos _
  live_le := s.size_pushed h.live_le parent
  le_limit := hroom
  parent_lt i hi := by
    rw [frame_pushed s h.live_le]
    split
    · next heq => rwa [heq]
    · exact h.parent_lt i (by simp only [Scope.pushed] at hi; omega)

theorem release (h : s.Orderly) (i : Int) : (s.release i).Orderly := by
  unfold Scope.release
  split
  · next hr =>
      simp only [releasable, Bool.and_eq_true, decide_eq_true_eq] at hr
      have hlive := h.live_le
      have hlimit := h.le_limit
      exact ⟨by simp only; omega, by simp only; omega, by simp only; omega,
        fun j hj => h.parent_lt j (by simp only at hj; omega)⟩
  · exact h

theorem modify (h : s.Orderly) (i : Nat) {f : Frame → Frame}
    (hf : ∀ fr, (f fr).parent = fr.parent) : (s.modify i f).Orderly where
  pos := h.pos
  live_le := by simpa using h.live_le
  le_limit := h.le_limit
  parent_lt j hj := by
    rw [frame_modify]
    split
    · next heq =>
        rw [hf, ← heq.1]
        exact h.parent_lt j hj
    · exact h.parent_lt j hj

end Orderly

end Scope

/-! ### The stacks in a state -/

namespace State

/-- The stacks of the scopes of a state. -/
def toStacks (st : State) : Stacks := ⟨st.scopes.toList.map Scope.stack, st.functions⟩

/-- A state whose scopes are orderly, each of them younger than the scope outside it. -/
structure Orderly (st : State) : Prop where
  scope : ∀ s, (st.scope s).Orderly
  outer_lt : ∀ s o, (st.scope s).outer = some o → o < s

section

variable (st : State)

@[simp]
theorem length_toStacks : st.toStacks.scopes.length = st.scopes.size := by simp [toStacks]

@[simp]
theorem stack_toStacks (s : ScopeId) : st.toStacks.stack s = (st.scope s).stack := by
  simp only [Stacks.stack, toStacks, scope, List.getD_eq_getElem?_getD, List.getElem?_map,
    Array.getElem?_toList, Array.getD_eq_getD_getElem?]
  cases st.scopes[s]? <;> rfl

theorem toStacks_modifyScope (s : ScopeId) {f : Scope → Scope} {g : Stack → Stack}
    (h : (f (st.scope s)).stack = g (st.scope s).stack) :
    (st.modifyScope s f).toStacks = st.toStacks.modify s g := by
  have hlist : (st.modifyScope s f).toStacks.scopes = (st.toStacks.modify s g).scopes := by
    refine List.ext_getElem? fun t => ?_
    simp only [toStacks, Stacks.modify, modifyScope, List.getElem?_modify, List.getElem?_map,
      Array.getElem?_toList, Array.getElem?_modify]
    by_cases ht : s = t
    · subst ht
      cases hs : st.scopes[s]? with
      | none => simp
      | some sc =>
        have hscope : st.scope s = sc := by simp [scope, Array.getD_eq_getD_getElem?, hs]
        rw [hscope] at h
        simp [h]
    · simp [ht]
  exact congrArg (Stacks.mk · st.functions) hlist

end

namespace Orderly

variable {st : State}

variable (h : st.Orderly)
include h

theorem length_stack (s : ScopeId) : (st.scope s).stack.frames.length = (st.scope s).live :=
  Scope.length_stack (h.scope s).live_le

theorem lt_live {site : Site} (hlive : st.toStacks.Live site) :
    site.frame < (st.scope site.scope).live := by
  have hlt := hlive.2
  rwa [stack_toStacks, h.length_stack] at hlt

/-- A search for a name meets the same frame. -/
theorem seek_eq (has : Frame → Bool) (s : ScopeId) {i : Nat} (hi : i < (st.scope s).live) :
    st.toStacks.seek has s i = st.seek has s i := by
  -- On the scope: those outside are older.
  induction s using Nat.strongRecOn generalizing i with
  | _ s ih =>
    rw [Stacks.seek, State.seek, stack_toStacks, (h.scope s).seek_eq has hi, Scope.outer_stack]
    cases (st.scope s).stack.seek has i with
    | some frame => rfl
    | none =>
      cases houter : (st.scope s).outer with
      | none => rfl
      | some o =>
        have hlt := h.outer_lt s o houter
        simp only [hlt, if_true]
        exact ih o hlt (h.scope o).pos

theorem frameAt_eq {site : Site} (hi : site.frame < (st.scope site.scope).live) :
    st.toStacks.frameAt site = st.frameAt site := by
  rw [Stacks.frameAt, stack_toStacks, List.getD_eq_getElem?_getD,
    Scope.getElem?_stack (h.scope site.scope).live_le, if_pos hi, Option.getD_some, frameAt]

/-- What is found at the end of a search is the same. -/
theorem found_eq {α : Type} (has : Frame → Bool) (get : Frame → Option α) {site : Site}
    (hi : site.frame < (st.scope site.scope).live) :
    ((st.toStacks.seek has site.scope site.frame).bind fun t => get (st.toStacks.frameAt t)) =
      (st.seek has site.scope site.frame).bind fun t => get (st.frameAt t) := by
  rw [h.seek_eq has site.scope hi]
  cases hseek : st.seek has site.scope site.frame with
  | none => rfl
  | some t => exact congrArg get (h.frameAt_eq (state_seek_has hseek).1)

/-! #### Each kind of change -/

theorem modifyScope (s : ScopeId) {f : Scope → Scope} (horderly : (f (st.scope s)).Orderly)
    (houter : (f (st.scope s)).outer = (st.scope s).outer) : (st.modifyScope s f).Orderly := by
  have hscope : ∀ t, ((st.modifyScope s f).scope t).Orderly ∧
      ((st.modifyScope s f).scope t).outer = (st.scope t).outer := by
    intro t
    rw [scope_modifyScope]
    split
    · next ht => exact ⟨horderly, by rw [houter, ht.1]⟩
    · exact ⟨h.scope t, rfl⟩
  exact ⟨fun t => (hscope t).1, fun t o ho => h.outer_lt t o ((hscope t).2 ▸ ho)⟩

theorem modifyFrame (site : Site) {f : Frame → Frame} (hf : ∀ fr, (f fr).parent = fr.parent) :
    (st.modifyFrame site f).Orderly ∧ (st.modifyFrame site f).toStacks =
      st.toStacks.modify site.scope (·.modify site.frame f) := by
  have hsite := h.scope site.scope
  exact ⟨h.modifyScope site.scope (hsite.modify site.frame hf) rfl,
    st.toStacks_modifyScope site.scope (Scope.stack_modify hsite.live_le site.frame f)⟩

/-- The functions have no part in the order. -/
theorem ofFunctions (functions : Array Function) : { st with functions }.Orderly :=
  ⟨h.scope, h.outer_lt⟩

theorem newScope (outer : Option ScopeId) (limit : Option Int)
    (houter : ∀ o, outer = some o → o < st.scopes.size) :
    (st.newScope outer limit).2.Orderly ∧ (st.newScope outer limit).2.toStacks =
      { st.toStacks with
        scopes := st.toStacks.scopes ++ [.fresh outer (st.toStacks.limitFor outer limit)] } := by
  have hinherited : st.inheritedLimit outer =
      (outer.map fun o => (st.toStacks.stack o).limit).getD Scope.defaultLimit := by
    cases outer with
    | none => rfl
    | some o => simp [inheritedLimit]
  have hmade : st.newScope outer limit =
      st.addScope (.fresh outer (st.toStacks.limitFor outer limit)) := by
    cases limit <;> simp only [State.newScope, Stacks.limitFor, hinherited]
  have hpos : 0 < st.toStacks.limitFor outer limit := by
    have hpos' : 0 < st.inheritedLimit outer := by
      cases outer with
      | none => exact Nat.zero_lt_succ 999
      | some o => exact Nat.lt_of_lt_of_le (h.scope o).pos (h.scope o).le_limit
    simp only [Stacks.limitFor, ← hinherited]
    cases limit with
    | none => exact hpos'
    | some n =>
      dsimp only
      split
      · omega
      · exact hpos'
  rw [hmade]
  refine ⟨⟨fun s => ?_, fun s o ho => ?_⟩, ?_⟩
  · rw [scope_addScope]
    split
    · exact Scope.orderly_fresh outer hpos
    · exact h.scope s
  · rw [scope_addScope] at ho
    split at ho
    · next hs =>
        rw [hs]
        exact houter o ho
    · exact h.outer_lt s o ho
  · simp [toStacks, addScope, Scope.stack, Scope.fresh, Stack.fresh]

theorem push {s : ScopeId} {parent : Int} (hroom : (st.scope s).live < (st.scope s).limit)
    (hp : parent < (st.scope s).live) :
    (st.push s parent).Orderly ∧ (st.push s parent).toStacks =
      st.toStacks.modify s (·.push parent) := by
  have horderly : (st.modifyScope s (·.pushed parent)).Orderly :=
    h.modifyScope s ((h.scope s).pushed hroom hp) rfl
  exact ⟨⟨horderly.scope, horderly.outer_lt⟩,
    st.toStacks_modifyScope s (Scope.stack_pushed (h.scope s).live_le parent)⟩

theorem release (s : ScopeId) (i : Int) :
    (st.release s i).Orderly ∧ (st.release s i).toStacks = st.toStacks.modify s (·.release i) := by
  have houter : ((st.scope s).release i).outer = (st.scope s).outer := by
    unfold Scope.release
    split <;> rfl
  have horderly : (st.modifyScope s (·.release i)).Orderly :=
    h.modifyScope s ((h.scope s).release i) houter
  have hstack := Scope.stack_release (h.scope s).live_le i
  unfold State.release
  split
  · exact ⟨⟨horderly.scope, horderly.outer_lt⟩, st.toStacks_modifyScope s hstack⟩
  -- Where nothing is released, the stack has nothing to drop either.
  · next hr =>
      rw [Scope.release, if_neg hr] at hstack
      refine ⟨h, (Stacks.modify_of_fixed ?_).symm⟩
      rw [stack_toStacks, ← hstack]

theorem declare (site : Site) (name : Bytes) (v : Value) :
    (st.declare site name v).Orderly ∧ (st.declare site name v).toStacks =
      st.toStacks.modify site.scope (·.modify site.frame (·.declare name v)) :=
  h.modifyFrame site fun _ => rfl

theorem define (site : Site) (f : FunctionId) :
    (st.define site f).Orderly ∧
      (st.define site f).toStacks = (st.toStacks.answer (.define site f)).2 := by
  have hsettle : (fun fn : Function => if fn.home.isSome then fn else
        { fn with home := some site.scope }) =
      fun fn => { fn with home := fn.home <|> some site.scope } := by
    funext fn
    obtain ⟨name, params, body, owner, native, home⟩ := fn
    cases home <;> rfl
  obtain ⟨horderly, hstacks⟩ := (h.ofFunctions (st.settle f site.scope).functions).modifyFrame site
    (f := (·.define (st.function f).name f)) fun _ => rfl
  refine ⟨horderly, hstacks.trans ?_⟩
  simp only [Stacks.answer, ← hsettle]
  rfl

end Orderly

/-! ### Operations -/

/-- An arena answers an operation as its stack does, and stands for the stack that the operation
makes. -/
theorem Orderly.answer {st : State} (h : st.Orderly) {op : FrameOp} (hop : st.toStacks.Legal op) :
    (st.answer op).2.Orderly ∧ (st.answer op).1 = (st.toStacks.answer op).1 ∧
      (st.answer op).2.toStacks = (st.toStacks.answer op).2 := by
  cases op with
  | newScope outer limit =>
    obtain ⟨horderly, hstacks⟩ := h.newScope outer limit (by simpa [Stacks.Legal] using hop)
    exact ⟨horderly, by simp [State.answer, Stacks.answer, State.newScope, addScope], hstacks⟩
  | push s parent =>
    obtain ⟨-, hparent⟩ := hop
    rw [stack_toStacks, h.length_stack] at hparent
    simp only [State.answer, Stacks.answer, stack_toStacks, h.length_stack, Scope.limit_stack]
    cases hfull : (st.scope s).full with
    | true =>
      rw [pushFrame_of_full hfull, if_pos (of_decide_eq_true hfull)]
      exact ⟨h, rfl, rfl⟩
    | false =>
      have hroom := of_decide_eq_false hfull
      rw [pushFrame_of_room hfull, if_neg hroom]
      obtain ⟨horderly, hstacks⟩ := h.push (Nat.lt_of_not_le hroom) hparent
      exact ⟨horderly, rfl, hstacks⟩
  | release s i =>
    obtain ⟨horderly, hstacks⟩ := h.release s i
    exact ⟨horderly, rfl, hstacks⟩
  | declare site name v =>
    obtain ⟨horderly, hstacks⟩ := h.declare site name v
    exact ⟨horderly, rfl, hstacks⟩
  | assign site name v =>
    have hholder : st.toStacks.holder? site name = st.holder? site name :=
      h.seek_eq _ site.scope (h.lt_live hop)
    obtain ⟨horderly, hstacks⟩ := h.declare ((st.holder? site name).getD site) name v
    refine ⟨horderly, rfl, ?_⟩
    simp only [State.answer, Stacks.answer, hholder]
    exact hstacks
  | define site f =>
    obtain ⟨horderly, hstacks⟩ := h.define site f
    exact ⟨horderly, rfl, hstacks⟩
  | lookup site name =>
    exact ⟨h, congrArg FrameAnswer.value (h.found_eq _ (·.vars.get? name) (h.lt_live hop)).symm,
      rfl⟩
  | lookupFunction site name =>
    exact ⟨h,
      congrArg FrameAnswer.function (h.found_eq _ (·.funcs.get? name) (h.lt_live hop)).symm, rfl⟩
  | depth s =>
    refine ⟨h, ?_, rfl⟩
    simp only [State.answer, Stacks.answer, stack_toStacks, h.length_stack, Scope.depth]

/-- Arenas answer a sequence of operations as their stacks do. -/
theorem Orderly.answerAll {st : State} (h : st.Orderly) {ops : List FrameOp}
    (hops : st.toStacks.LegalAll ops) :
    (st.answerAll ops).2.Orderly ∧ (st.answerAll ops).1 = (st.toStacks.answerAll ops).1 ∧
      (st.answerAll ops).2.toStacks = (st.toStacks.answerAll ops).2 := by
  induction ops generalizing st with
  | nil => exact ⟨h, rfl, rfl⟩
  | cons op ops ih =>
    obtain ⟨hop, hrest⟩ := hops
    obtain ⟨horderly, hanswer, hstacks⟩ := h.answer hop
    rw [← hstacks] at hrest
    obtain ⟨horderly', hanswers, hstacks'⟩ := ih horderly hrest
    simp only [State.answerAll, Stacks.answerAll, hanswer, ← hstacks]
    exact ⟨horderly', by rw [hanswers], hstacks'⟩

theorem orderly_of_empty {st : State} (h : st.scopes = #[]) : st.Orderly := by
  have hdefault : ∀ s, st.scope s = default := fun s => st.scope_of_size_le (by simp [h])
  refine ⟨fun s => ?_, fun s o ho => ?_⟩
  · rw [hdefault]
    exact Scope.orderly_fresh none (Nat.zero_lt_succ 999)
  · rw [hdefault] at ho
    cases ho

/-- A frame is pushed into a slot of its own. It is fresh there, and all that were live stay. -/
theorem Orderly.frameAt_push {st : State} (h : st.Orderly) {s : ScopeId} (hs : s < st.scopes.size)
    (parent : Int) :
    (st.push s parent).frameAt ⟨s, (st.scope s).depth⟩ = .fresh parent ∧
      ∀ site : Site, site.Live st → (st.push s parent).frameAt site = st.frameAt site := by
  constructor
  · rw [frameAt, scope_push, if_pos ⟨rfl, hs⟩, Scope.frame_pushed _ (h.scope s).live_le,
      Scope.depth, if_pos rfl]
  · intro site hlive
    simp only [frameAt, scope_push]
    split
    · next hsite =>
        have hlt := hlive.2
        rw [hsite.1] at hlt ⊢
        rw [Scope.frame_pushed _ (h.scope s).live_le, if_neg (Nat.ne_of_lt hlt)]
    · rfl

/-- **The arena of frames refines a stack of fresh frames.** After any sequence of operations, both
have given the same answers, and the live frames of the arenas are the frames of the stacks. In
each scope the depth is between one and the limit. A push fails exactly at the limit, and then it
changes nothing. Below the limit it makes a fresh frame, and alters no live one. -/
theorem arena_refines_stacks (functions : Array Function) (ops : List FrameOp)
    (hops : (Stacks.start functions).LegalAll ops) :
    let run := ({ functions } : State).answerAll ops
    let plain := (Stacks.start functions).answerAll ops
    run.1 = plain.1 ∧ run.2.toStacks = plain.2 ∧
      ∀ s < run.2.scopes.size,
        1 ≤ (run.2.scope s).depth ∧ (run.2.scope s).depth ≤ (run.2.scope s).limit ∧
        ∀ parent : Int,
          ((run.2.scope s).depth = (run.2.scope s).limit →
            ∃ stop, pushFrame s parent run.2 = .error stop run.2) ∧
          ((run.2.scope s).depth < (run.2.scope s).limit →
            ∃ st, pushFrame s parent run.2 = .ok (run.2.scope s).depth st ∧
              st.frameAt ⟨s, (run.2.scope s).depth⟩ = .fresh parent ∧
              ∀ site : Site, site.Live run.2 → st.frameAt site = run.2.frameAt site) := by
  have hstart : ({ functions } : State).Orderly := orderly_of_empty rfl
  obtain ⟨horderly, hanswers, hstacks⟩ := hstart.answerAll hops
  refine ⟨hanswers, hstacks, fun s hs => ?_⟩
  have hscope := horderly.scope s
  refine ⟨hscope.pos, hscope.le_limit, fun parent => ⟨fun hfull => ?_, fun hroom => ?_⟩⟩
  · exact ⟨_, pushFrame_of_full (decide_eq_true (Nat.le_of_eq hfull.symm)) parent⟩
  · exact ⟨_, pushFrame_of_room (decide_eq_false (Nat.not_le.2 hroom)) parent,
      horderly.frameAt_push hs parent⟩

/-- A slot is used twice. The variable in the released frame is gone when its slot is taken over,
and the push beyond the limit changes nothing. -/
theorem arena_refines_stacks_reuse :
    let x := utf8 "x"
    let ops := [FrameOp.newScope none (some 2), .push 0 0, .declare ⟨0, 1⟩ x .null, .push 0 1,
      .release 0 1, .push 0 0, .lookup ⟨0, 1⟩ x, .depth 0]
    (Stacks.start #[]).LegalAll ops ∧ (({} : State).answerAll ops).1 =
      [.scope 0, .frame 1, .done, .refused (.fault (.runtime ⟨.stackOverflow 3 2, -1⟩)), .done,
        .frame 1, .value none, .depth 2] := by
  intro x ops
  have hlegal : (Stacks.start #[]).LegalAll ops := by
    simp [ops, Stacks.LegalAll, Stacks.Legal, Stacks.answer, Stacks.start, Stacks.stack,
      Stacks.modify, Stacks.limitFor, Stacks.Live, Stack.fresh, Stack.push, Stack.release,
      Stack.modify]
  refine ⟨hlegal, (arena_refines_stacks #[] ops hlegal).1.trans ?_⟩
  simp [ops, Stacks.answerAll, Stacks.answer, Stacks.start, Stacks.stack, Stacks.modify,
    Stacks.limitFor, Stacks.holder?, Stacks.seek, Stack.seek, Stack.fresh, Stack.push,
    Stack.release, Stack.modify, Frame.fresh, Bindings.contains]

end State

end Quartz
