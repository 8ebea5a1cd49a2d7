import Quartz.Proofs.Eval.Confine
import Quartz.Proofs.State.Isomorphism
import Quartz.Token.Lexer

/-!
# `Quartz.Proofs.Eval.Independence`: a copy and its original apart

An `Operation` is what a host does to an instance: it calls a member function or sets a member.
With plain values, which are neither functions nor instances, it cannot hand over anything
through which one instance could change another. `clone_independent` says what this means for a
copy and its original, for every sequence of operations.

What is done to the original never shows in the copy: the functions of the copies are new, and
at first only the copies hold them. The other way round this needs a condition, `Untangled`. A
copy takes over the function values that member variables hold, and these still run where they
ran before. So a function of the original that is also held by one of its variables is called
through the copy and works on the original (`clone_entangled`).
-/

set_option autoImplicit false

namespace Quartz

/-! ### Operations -/

/-- A value that refers to nothing. -/
def Value.Plain : Value → Prop
  | .function _ => False
  | .object _ => False
  | _ => True

theorem Value.Plain.within {v : Value} (h : v.Plain) (w : Realm) : v.Within w := by
  cases v with
  | function f => exact h.elim
  | object c => exact h.elim
  | _ => trivial

/-- What a host does to an instance. -/
inductive Operation where
  | call (name : Bytes) (args : List Value)
  | set (name : Bytes) (v : Value)

/-- An operation with plain values. -/
def Operation.Plain : Operation → Prop
  | .call _ args => ∀ v ∈ args, v.Plain
  | .set _ v => v.Plain

namespace State

/-- The state after an operation on an instance. A call that fails ends somewhere too. -/
def operate (c : Instance) (st : State) : Operation → State
  | .call name args => (callMember c name args).after st
  | .set name v => st.declare ⟨c.scope, 0⟩ name v

section

variable {S : Set ScopeId} {built : List Instance} {st : State} {c : Instance}

variable (h : st.Sealed S built) (hc : (st.confined S built).scope c.scope)
  (htable : c.table = c.scope)
include h hc htable

/-- One operation on an instance outside. -/
theorem Sealed.operate {o : Operation} (ho : o.Plain) :
    ∃ built', Spares S built st built' (st.operate c o) := by
  cases o with
  | call name args =>
    have hargs : ∀ v ∈ args, v.Within (st.confined S built) := fun v hv => (ho v hv).within _
    exact h.callMember (htable ▸ hc) name hargs
  | set name v =>
    have hroot : ¬ st.Inside S (Site.mk c.scope 0).scope := hc.2
    exact ⟨built, h.declare hroot name (ho.within _)⟩

/-- Operations one after the other. -/
theorem Sealed.operateAll {ops : List Operation} (hops : ∀ o ∈ ops, o.Plain) :
    ∃ built', Spares S built st built' (ops.foldl (State.operate c) st) := by
  induction ops generalizing built st with
  | nil => exact ⟨built, .refl h⟩
  | cons o ops ih =>
    obtain ⟨ho, hrest⟩ := List.forall_mem_cons.1 hops
    obtain ⟨built₁, hfirst⟩ := h.operate hc htable ho
    obtain ⟨built₂, hothers⟩ := ih hfirst.keeps (hfirst.realm_le.scope _ hc) hrest
    exact ⟨built₂, hfirst.trans hothers⟩

end

/-! ### Operations on the original -/

/-- The scopes that came after a state. -/
def added (st st' : State) : Set ScopeId := {s | st.scopes.size ≤ s ∧ s < st'.scopes.size}

section

variable {built : List Instance} {st : State} {c : Instance}

/-- The scopes of the copies are sealed when they have been made: the variables of the copies hold
no function that is new, and nothing else holds one. -/
theorem sealed_copies (h : st.Sound built) (ht : st.Tidy) (hc : c ∈ built) :
    (st.copy c).2.Sealed (st.added (st.copy c).2) (built ++ st.copies c) := by
  obtain ⟨hlaid, _, _⟩ := copy_laidOut st c
  have hsound := h.copy hc
  have htidy := ht.copy h hc
  generalize (st.copy c).2 = st' at hlaid hsound htidy ⊢
  have hold : ∀ s, s < st.scopes.size → ¬ st'.Inside (st.added st') s :=
    fun s hs => not_inside_of_lt htidy (fun _ ht => ht.1) hs
  -- A function from before runs where it ran before.
  have hvalid : ∀ v : Value, v.Valid (st.world built) →
      v.Within (st'.confined (st.added st') (built ++ st.copies c)) := by
    intro v hv
    have hw : st.world built ≤ st'.world (built ++ st.copies c) :=
      ⟨hlaid.functions, hlaid.scopes, List.subset_append_left _ _⟩
    refine within_confined (hv.mono hw) ?_
    rintro f rfl s hs
    rw [hlaid.function_old f hv] at hs
    exact hold s (h.grounded.home_lt f s hs)
  refine ⟨hsound, htidy, fun s hs => hs.2, ?_, ?_, ?_⟩
  · rintro ⟨s, i⟩ _ _ e he
    have hexists := hsound.grounded.vars ⟨s, i⟩ e he
    rcases hlaid.scope_cases s with hs | ⟨d, _, first, _, hs⟩
    · rw [frameAt, hs] at he
      exact hvalid e.2 (h.grounded.vars ⟨s, i⟩ e he)
    · rw [frameAt, hs] at he
      cases i with
      | succ i => cases he
      | zero =>
        obtain ⟨m, hm, rfl⟩ := List.mem_map.1 he
        rw [mem_membersFor] at hm
        exact within_twinValue (hvalid m.2 (h.grounded.vars ⟨d.scope, 0⟩ m hm)) hexists
  · rintro ⟨s, i⟩ hlive hsite e he
    by_cases hlt : s < st.scopes.size
    · rw [frameAt, hlaid.scope_old s hlt] at he
      exact hvalid (.function e.2) (h.grounded.funcs ⟨s, i⟩ e he)
    · exact absurd (.here ⟨Nat.le_of_not_lt hlt, hlive.1⟩) hsite
  · intro f v hv
    rcases hlaid.function_cases f with hf | ⟨d, _, ⟨_, g⟩, _, hf⟩
    · rw [hf] at hv
      exact hvalid v (h.grounded.native f v hv)
    · rw [hf] at hv
      exact hvalid v (h.grounded.native g v hv)

end

/-! ### Operations on the copy -/

/-- The scopes of the instances that can be reached from an instance. -/
def territory (st : State) (c : Instance) : Set ScopeId := {s | ∃ r ∈ st.reach c, r.scope = s}

/-- A copy of an instance has no way back. The scope around the instance is not inside the scopes
of what can be reached from it. No function that runs inside these is held by a live frame outside,
or by a member variable that a copy takes outside, or given away by a native function. -/
structure Untangled (st : State) (c : Instance) : Prop where
  outer : ∀ o, (st.scope c.scope).outer = some o → ¬ st.Inside (st.territory c) o
  vars : ∀ site : Site, site.Live st → st.Exposed (st.territory c) site → ∀ f,
    .function f ∈ (st.frameAt site).vars.values → st.RunsOutside (st.territory c) f
  funcs : ∀ site : Site, site.Live st → ¬ st.Inside (st.territory c) site.scope →
    ∀ f ∈ (st.frameAt site).funcs.values, st.RunsOutside (st.territory c) f
  native : ∀ f g, (st.function f).native = some (.constant (.function g)) →
    st.RunsOutside (st.territory c) g

section

variable {built : List Instance} {st : State} {c : Instance}

/-- What can be reached from an instance was built. -/
theorem Sound.mem_of_reach (h : st.Sound built) (hc : c ∈ built) {r : Instance}
    (hr : r ∈ st.reach c) : r ∈ built := by
  obtain ⟨hwithin, _, _⟩ := tourFrom_complete h.closed h.counted.length_le hc
  exact hwithin.subset ((mem_entered_iff h hc r).2 hr)

variable (hu : st.Untangled c) (h : st.Sound built) (ht : st.Tidy) (hc : c ∈ built)
include hu h ht hc

theorem Untangled.isSealed : st.Sealed (st.territory c) built := by
  refine ⟨h, ht, ?_, ?_, ?_, ?_⟩
  · rintro s ⟨r, hr, rfl⟩
    exact h.counted.scope_lt r (h.mem_of_reach hc hr)
  · intro site hlive hsite e he
    refine within_confined (h.grounded.vars site e he) fun f hf => hu.vars site hlive hsite f ?_
    exact List.mem_map.2 ⟨e, he, hf⟩
  · intro site hlive hsite e he
    exact ⟨h.grounded.funcs site e he, hu.funcs site hlive hsite e.2 (List.mem_map_of_mem he)⟩
  · intro f v hv
    refine within_confined (h.grounded.native f v hv) ?_
    rintro g rfl
    exact hu.native f g hv

/-- The copy of an untangled instance is outside. -/
theorem Untangled.copy_outside :
    ((st.copy c).2.confined (st.territory c) (built ++ st.copies c)).scope (st.copy c).1.scope := by
  have hsealed := hu.isSealed h ht hc
  obtain ⟨_, hmem, _⟩ := tourFrom_complete h.closed h.counted.length_le hc
  obtain ⟨first, hplaced⟩ := copy_placed hmem
  obtain ⟨hlaid, _, _⟩ := copy_laidOut st c
  have hresult : (st.copy c).1 = st.twin (st.tourFrom c).entered c := rfl
  rw [hresult]
  generalize (st.copy c).2 = st' at hplaced hlaid ⊢
  refine ⟨hplaced.place_lt, fun hin => ?_⟩
  obtain ⟨o, ho, hin⟩ := hsealed.inside_of_placed hplaced (Nat.le_add_right _ _) hin
  have hlt : o < st.scopes.size := Nat.lt_trans ((ht _).outer_lt o ho) (h.counted.scope_lt c hc)
  have houter : ∀ s, s < st.scopes.size → (st'.scope s).outer = (st.scope s).outer :=
    fun s hs => by rw [hlaid.scope_old s hs]
  exact hu.outer o ho ((inside_iff ht houter hlt).1 hin)

end

/-- **A copy and its original are independent.** Operations with plain values on the original
leave the members of all copies as they are. Operations on the copy leave the members of the
original, and of all that could be reached from it, as they were before the copy was made, if
the original is untangled. -/
theorem clone_independent {built : List Instance} {st : State} (h : Reachable built st)
    {c : Instance} (hc : c ∈ built) {ops : List Operation} (hops : ∀ o ∈ ops, o.Plain) :
    (st.Untangled c → ∀ r ∈ st.reach c,
      (ops.foldl (operate (st.copy c).1) (st.copy c).2).members r = st.members r) ∧
    ∀ d ∈ st.copies c,
      (ops.foldl (operate c) (st.copy c).2).members d = (st.copy c).2.members d := by
  constructor
  · intro hu r hr
    have hcopy := (hu.isSealed h.sound h.tidy hc).copy hc
    have hout := hu.copy_outside h.sound h.tidy hc
    obtain ⟨built', hrun⟩ := hcopy.keeps.operateAll hout rfl hops
    have hscope := (hcopy.trans hrun).scope r.scope (.here ⟨r, hr, rfl⟩)
    exact congrArg Scope.root hscope
  · intro d hd
    obtain ⟨hlaid, hsize, _⟩ := copy_laidOut st c
    obtain ⟨r, hr, rfl⟩ := List.mem_map.1 hd
    have hsealed := sealed_copies h.sound h.tidy hc
    have hlt := h.sound.counted.scope_lt c hc
    have hout : ((st.copy c).2.confined (st.added (st.copy c).2)
        (built ++ st.copies c)).scope c.scope :=
      ⟨Nat.lt_of_lt_of_le hlt hlaid.scopes, not_inside_of_lt hsealed.tidy (fun _ ht => ht.1) hlt⟩
    obtain ⟨built', hrun⟩ := hsealed.operateAll hout (h.sound.counted.table c hc) hops
    have hrank := rank_lt hr
    have hnew : (st.twin (st.tourFrom c).entered r).scope ∈ st.added (st.copy c).2 := by
      refine ⟨Nat.le_add_right _ _, ?_⟩
      rw [hsize]
      exact Nat.add_lt_add_left hrank _
    exact congrArg Scope.root (hrun.scope _ (.here hnew))

/-- An instance that holds another one, and a function that changes one of its variables. The
copy changes, and the two instances stay as they were. -/
theorem clone_independent_pair :
    let a : Instance := ⟨utf8 "A", 1, [], 0, 0⟩
    let b : Instance := ⟨utf8 "B", 2, [], 1, 1⟩
    let pair := ((({} : State).nextId.2.newScope none).2.nextId.2.newScope none).2
    let inc := pair.register ⟨0, 0⟩
      (Function.ofBody (utf8 "inc") [] (Lexer.tokenize (utf8 "n = true;")))
    let st := (inc.declare ⟨0, 0⟩ (utf8 "n") (.bool false)).declare ⟨0, 0⟩ (utf8 "next") (.object b)
    let ops : List Operation := [.call (utf8 "inc") [], .set (utf8 "next") .null]
    let d := (st.copy a).1
    let after := ops.foldl (operate d) (st.copy a).2
    Reachable [a, b] st ∧ st.Untangled a ∧
      (((st.copy a).2.members d).vars.get? (utf8 "n")).map st.display = some (utf8 "false") ∧
      ((after.members d).vars.get? (utf8 "n")).map after.display = some (utf8 "true") ∧
      after.members a = st.members a ∧ after.members b = st.members b ∧
      (ops.foldl (operate a) (st.copy a).2).members d = (st.copy a).2.members d := by
  intro a b pair inc st ops d after
  have hempty : Reachable [] ({} : State) := .initial rfl rfl
  have hfirst : Reachable [a] (({} : State).nextId.2.newScope none).2 :=
    hempty.step (.allot (utf8 "A") [])
  have hpair : Reachable [a, b] pair := hfirst.step (.allot (utf8 "B") [])
  have hinc : Reachable [a, b] inc :=
    hpair.step (.script (.register ⟨by decide, by decide⟩ rfl rfl))
  have hn : Reachable [a, b] (inc.declare ⟨0, 0⟩ (utf8 "n") (.bool false)) :=
    hinc.step (.script (.declare ⟨by decide, by decide⟩ (utf8 "n") trivial))
  have hst : Reachable [a, b] st :=
    hn.step (.script (.declare ⟨by decide, by decide⟩ (utf8 "next") (show b ∈ [a, b] by simp)))
  have ha : a ∈ st.reach a := .refl
  have hb : b ∈ st.reach a := .single (refers_declare (by decide) (by decide) (utf8 "next") b)
  -- The two scopes are all there are, so nothing is held outside.
  have hsize : st.scopes.size = 2 := rfl
  have hin : ∀ s : Nat, s < st.scopes.size → st.Inside (st.territory a) s := by
    intro s hlt
    have hcases : s = 0 ∨ s = 1 := by omega
    rcases hcases with rfl | rfl
    · exact .here ⟨a, ha, rfl⟩
    · exact .here ⟨b, hb, rfl⟩
  have htypes : ∀ s < 2, ∀ v ∈ (st.frameAt ⟨s, 0⟩).vars.values, v.typeName ≠ utf8 "function" := by
    decide +kernel
  have hroots : ∀ s < st.scopes.size, ∀ f, .function f ∉ (st.frameAt ⟨s, 0⟩).vars.values :=
    fun s hlt f hf => htypes s (hsize ▸ hlt) _ hf rfl
  have huntangled : st.Untangled a := by
    constructor
    · intro o ho
      exact nomatch ho
    · rintro ⟨s, i⟩ hlive (hs | ⟨hroot, _⟩) f hf
      · exact absurd (hin s hlive.1) hs
      · cases hroot
        exact absurd hf (hroots s hlive.1 f)
    · intro site hlive hs
      exact absurd (hin _ hlive.1) hs
    · intro f g hf
      cases f with
      | zero => exact nomatch hf
      | succ f =>
        rw [st.function_of_size_le (Nat.le_add_left 1 f)] at hf
        exact nomatch hf
  have hops : ∀ o ∈ ops, o.Plain := by
    intro o ho
    simp only [ops, List.mem_cons, List.not_mem_nil, or_false] at ho
    rcases ho with rfl | rfl
    · exact fun v hv => nomatch hv
    · trivial
  obtain ⟨hcopy, horiginal⟩ := clone_independent hst (show a ∈ [a, b] by simp) hops
  have hrun : (((st.copy a).2.members d).vars.get? (utf8 "n")).map st.display =
        some (utf8 "false") ∧
      ((after.members d).vars.get? (utf8 "n")).map after.display = some (utf8 "true") := by
    decide +kernel
  have hd : d ∈ st.copies a :=
    Sound.mem_copies ((mem_entered_iff hst.sound (show a ∈ [a, b] by simp) a).2 ha)
  exact ⟨hst, huntangled, hrun.1, hrun.2, hcopy huntangled a ha, hcopy huntangled b hb,
    horiginal d hd⟩

/-- No live frame but those of what can be reached from an instance holds a function that runs in
the scope of one of them. -/
def Contained (st : State) (c : Instance) : Prop :=
  ∀ site : Site, site.Live st → site.scope ∉ st.territory c → ∀ f,
    .function f ∈ (st.frameAt site).vars.values ∨ f ∈ (st.frameAt site).funcs.values →
    ∀ s ∈ st.territory c, (st.function f).home ≠ some s

/-- **An instance that holds its own functions is entangled with its copies.** The variable `g`
holds the function `inc` of the same instance, and nothing else holds it. A call of `go` on the
copy sets the variable `n` of the original. -/
theorem clone_entangled :
    let c : Instance := ⟨utf8 "A", 1, [], 0, 0⟩
    let start := (({} : State).nextId.2.newScope none).2
    let inc := start.register ⟨0, 0⟩
      (Function.ofBody (utf8 "inc") [] (Lexer.tokenize (utf8 "n = true;")))
    let go := inc.register ⟨0, 0⟩ (Function.ofBody (utf8 "go") [] (Lexer.tokenize (utf8 "g();")))
    let st := (go.declare ⟨0, 0⟩ (utf8 "n") (.bool false)).declare ⟨0, 0⟩ (utf8 "g") (.function 0)
    let after := (st.copy c).2.operate (st.copy c).1 (.call (utf8 "go") [])
    Reachable [c] st ∧ st.Contained c ∧
      ((st.members c).vars.get? (utf8 "n")).map st.display = some (utf8 "false") ∧
      ((after.members c).vars.get? (utf8 "n")).map after.display = some (utf8 "true") := by
  intro c start inc go st after
  have hempty : Reachable [] ({} : State) := .initial rfl rfl
  have hstart : Reachable [c] start := hempty.step (.allot (utf8 "A") [])
  have hinc : Reachable [c] inc :=
    hstart.step (.script (.register ⟨by decide, by decide⟩ rfl rfl))
  have hgo : Reachable [c] go := hinc.step (.script (.register ⟨by decide, by decide⟩ rfl rfl))
  have hn : Reachable [c] (go.declare ⟨0, 0⟩ (utf8 "n") (.bool false)) :=
    hgo.step (.script (.declare ⟨by decide, by decide⟩ (utf8 "n") trivial))
  have hst : Reachable [c] st :=
    hn.step (.script (.declare ⟨by decide, by decide⟩ (utf8 "g") (show 0 < 2 by decide)))
  have hcontained : st.Contained c := by
    -- There is no other scope.
    intro site hlive hsite
    have hzero : site.scope = 0 := Nat.lt_one_iff.1 hlive.1
    exact absurd ⟨c, .refl, hzero.symm⟩ hsite
  have hrun : ((st.members c).vars.get? (utf8 "n")).map st.display = some (utf8 "false") ∧
      ((after.members c).vars.get? (utf8 "n")).map after.display = some (utf8 "true") := by
    decide +kernel
  exact ⟨hst, hcontained, hrun⟩

end State

end Quartz
