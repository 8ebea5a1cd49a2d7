import Mathlib.Data.Set.Function
import Mathlib.Logic.Relation
import Quartz.Proofs.State.Tidy

/-!
# `Quartz.Proofs.State.Isomorphism`: a copy is isomorphic to its original

`State.reach` is the set of the instances that can be reached from an instance through members.
A copy has one new instance for each of them, and `State.Mirrors` says how the two compare:
they agree in everything but their ids and scopes, members that held an instance hold its
copy, and functions run in the scope of the copy. This map is injective, whatever cycles there are,
and nothing that existed before changes (`copy_isomorphic`).

The walk meets members in some order. `State.Rearranged` relates states that differ only in that
(`State.order`) and in the order of their tables, and the result is the same isomorphic copy for
all of them.

Two lemmas about the walk carry this, beside the layout of a copy: it enters exactly what can be
reached (`mem_entered_iff`), and it never runs out of steps (`tour_stable`).
-/

set_option autoImplicit false

namespace Quartz

namespace State

/-! ### The walk -/

/-- The instances that can be reached from an instance through members. -/
def reach (st : State) (c : Instance) : Set Instance := {d | Relation.ReflTransGen st.Refers c d}

/-- A member that is set to an instance refers to it. -/
theorem refers_declare {st : State} {c : Instance} (hs : c.scope < st.scopes.size)
    (hl : 0 < (st.scope c.scope).slots.size) (name : Bytes) (d : Instance) :
    (st.declare ⟨c.scope, 0⟩ name (.object d)).Refers c d := by
  have hmembers : (st.declare ⟨c.scope, 0⟩ name (.object d)).members c =
      (st.members c).declare name (.object d) := by
    show (st.declare ⟨c.scope, 0⟩ name (.object d)).frameAt ⟨c.scope, 0⟩ = _
    rw [declare, frameAt_modifyFrame, if_pos ⟨rfl, hs, hl⟩]
    rfl
  have hget : ((st.members c).vars.set name (.object d)).get? name = some (.object d) := by simp
  rw [Refers, hmembers]
  exact List.mem_map.2 ⟨_, Bindings.mem_of_get? hget, rfl⟩

section

variable {st : State} {l : List Instance}

/-- Two walks that agree on every instance of the list agree on the members of an instance. -/
theorem foldl_visit_stable (hl : st.Closed l) {k k' : Nat}
    (hk : ∀ c ∈ l, ∀ t : Tour, t.Within l → l.length < k + t.entered.length →
      l.length < k' + t.entered.length → st.tour k c t = st.tour k' c t)
    (vs : List Value) (hvs : ∀ d, .object d ∈ vs → d ∈ l) (t : Tour) (ht : t.Within l)
    (hlen : l.length < k + t.entered.length) (hlen' : l.length < k' + t.entered.length) :
    vs.foldl (st.visit k) t = vs.foldl (st.visit k') t := by
  induction vs generalizing t with
  | nil => rfl
  | cons v vs ih =>
    have hrest : ∀ d, .object d ∈ vs → d ∈ l := fun d hd => hvs d (List.mem_cons_of_mem v hd)
    cases v with
    | object d =>
      have hd := hvs d List.mem_cons_self
      have hsame : st.visit k t (.object d) = st.visit k' t (.object d) :=
        hk d hd t ht hlen hlen'
      -- The walk goes on from where it got, which is no shorter.
      obtain ⟨hwithin, honward, _⟩ := tour_onward hl k d hd t ht hlen
      have hle := honward.longer.length_le
      rw [List.foldl_cons, List.foldl_cons, ← hsame]
      exact ih hrest (st.tour k d t) hwithin (by omega) (by omega)
    | _ => exact ih hrest t ht hlen hlen'

/-- Steps that suffice are as good as any others that do. -/
theorem tour_stable (hl : st.Closed l) (k k' : Nat) {c : Instance} (hc : c ∈ l) {t : Tour}
    (ht : t.Within l) (hlen : l.length < k + t.entered.length)
    (hlen' : l.length < k' + t.entered.length) : st.tour k c t = st.tour k' c t := by
  induction k generalizing k' c t with
  | zero =>
    have hle := ht.length_le
    omega
  | succ k ih =>
    cases k' with
    | zero =>
      have hle := ht.length_le
      omega
    | succ k' =>
      rw [tour_succ, tour_succ]
      by_cases hmet : c ∈ t.entered
      · rw [if_pos ((t.met_iff hl ht hc).2 hmet), if_pos ((t.met_iff hl ht hc).2 hmet)]
      · have hnot : ¬ t.met c = true := fun h => hmet ((t.met_iff hl ht hc).1 h)
        rw [if_neg hnot, if_neg hnot]
        have hentered : (t.entered ++ [c]).length = t.entered.length + 1 := by simp
        rw [foldl_visit_stable hl (fun c hc t ht => ih k' hc ht) _
          (fun d hd => hl.refers c hc d (mem_held.1 hd)) _ (ht.enter hc hmet) (by simp only [hentered]; omega)
          (by simp only [hentered]; omega)]

variable {built : List Instance}

/-- The walk enters exactly what can be reached. -/
theorem mem_entered_iff (h : st.Sound built) {c : Instance} (hc : c ∈ built) (d : Instance) :
    d ∈ (st.tourFrom c).entered ↔ d ∈ st.reach c := by
  classical
  constructor
  · intro hd
    -- What can be reached is a list that no member leads out of, so the walk stays in it.
    have hclosed : st.Closed (built.filter fun r => r ∈ st.reach c) := by
      constructor
      · intro r hr e he
        obtain ⟨hr, hreach⟩ := List.mem_filter.1 hr
        have hreach' : e ∈ st.reach c := (of_decide_eq_true hreach).tail he
        exact List.mem_filter.2 ⟨h.closed.refers r hr e he, decide_eq_true hreach'⟩
      · intro r hr e he
        exact h.closed.ids r (List.mem_filter.1 hr).1 e (List.mem_filter.1 he).1
    have hlength : (built.filter fun r => r ∈ st.reach c).length ≤ st.scopes.size :=
      Nat.le_trans (List.length_filter_le _ _) h.counted.length_le
    have hmem : c ∈ built.filter fun r => r ∈ st.reach c :=
      List.mem_filter.2 ⟨hc, decide_eq_true Relation.ReflTransGen.refl⟩
    obtain ⟨hwithin, _, _⟩ := tourFrom_complete hclosed hlength hmem
    exact of_decide_eq_true (List.mem_filter.1 (hwithin.subset hd)).2
  · intro hd
    obtain ⟨_, hmem, hcomplete⟩ := tourFrom_complete h.closed h.counted.length_le hc
    induction hd with
    | refl => exact hmem
    | tail _ href ih => exact hcomplete _ ih _ href

end

end State

/-! ### Tables of copies -/

namespace Bindings

variable {α β : Type}

theorem find?_map (g : α → β) (name : Bytes) (l : List (Bytes × α)) :
    find? name (l.map fun e => (e.1, g e.2)) = (find? name l).map g := by
  induction l with
  | nil => rfl
  | cons e rest ih =>
    by_cases hn : e.1 = name
    · simp [find?, hn]
    · simp [find?, hn, ih]

/-- Entries that are numbered from `first` on, seen through the table. -/
theorem rel_find?_mapIdx {R : α → Nat → Prop} (name : Bytes) (l : List (Bytes × α)) (first : Nat)
    (h : ∀ j e, l[j]? = some e → R e.2 (first + j)) :
    Option.Rel R (find? name l) (find? name (l.mapIdx fun i e => (e.1, first + i))) := by
  induction l generalizing first with
  | nil => exact .none
  | cons e rest ih =>
    rw [List.mapIdx_cons]
    by_cases hn : e.1 = name
    · rw [find?, find?, if_pos hn, if_pos hn]
      exact .some (h 0 e rfl)
    · rw [find?, find?, if_neg hn, if_neg hn]
      have hrest : ∀ j e, rest[j]? = some e → R e.2 (first + 1 + j) := by
        intro j e he
        have hj := h (j + 1) e (by simpa using he)
        rwa [Nat.add_comm j 1, ← Nat.add_assoc] at hj
      have hshift : (rest.mapIdx fun i e => (e.1, first + (i + 1))) =
          rest.mapIdx fun i e => (e.1, first + 1 + i) := by
        congr 1
        funext i e
        rw [Nat.add_comm i 1, Nat.add_assoc]
      rw [hshift]
      exact ih (first + 1) hrest

end Bindings

/-- A value in which instances are replaced. -/
def Value.through (φ : Instance → Instance) : Value → Value
  | .object c => .object (φ c)
  | v => v

namespace State

/-- An instance compared with its copy `φ c`, where `φ` also says what became of the
instances that its members hold. The copy has an id and a scope that are new, and functions
that are new. -/
structure Mirrors (before after : State) (φ : Instance → Instance) (c : Instance) : Prop where
  name : (φ c).name = c.name
  body : (φ c).body = c.body
  id_new : before.lastId < (φ c).id
  id_le : (φ c).id ≤ after.lastId
  scope_new : before.scopes.size ≤ (φ c).scope
  scope_lt : (φ c).scope < after.scopes.size
  table : (φ c).table = (φ c).scope
  outer : (after.scope (φ c).scope).outer = (before.scope c.scope).outer
  limit : (after.scope (φ c).scope).limit = (before.scope c.scope).limit
  depth : (after.scope (φ c).scope).depth = 1
  vars : ∀ name, (after.members (φ c)).vars.get? name =
    ((before.members c).vars.get? name).map (Value.through φ)
  funcs : ∀ name, Option.Rel
    (fun f g => before.functions.size ≤ g ∧ g < after.functions.size ∧
      after.function g = { before.function f with owner := (φ c).id, home := some (φ c).scope })
    ((before.functionsOf c).get? name) ((after.functionsOf (φ c)).get? name)

/-- A copy mirrors every instance that the walk entered. -/
theorem mirrors_copy {st : State} {c r : Instance} (hkeyed : (st.members r).vars.names.Nodup)
    (hr : r ∈ (st.tourFrom c).entered) :
    st.Mirrors (st.copy c).2 (st.twin (st.tourFrom c).entered) r := by
  obtain ⟨first, hplaced⟩ := copy_placed hr
  obtain ⟨_, _, hlast⟩ := copy_laidOut st c
  have hrank := rank_lt hr
  have hscope := hplaced.scope
  constructor
  · rfl
  · rfl
  · simp only [twin]
    omega
  · rw [hlast]
    simp only [twin]
    omega
  · exact Nat.le_add_right _ _
  · exact hplaced.place_lt
  · rfl
  · rw [hscope]
    rfl
  · rw [hscope]
    rfl
  · rw [hscope]
    rfl
  · intro name
    have hthrough : st.twinValue (st.tourFrom c).entered =
        Value.through (st.twin (st.tourFrom c).entered) := by
      funext v
      cases v <;> rfl
    have hordered : ∀ id, Bindings.get? ⟨st.membersFor id r⟩ name = (st.members r).vars.get? name :=
      fun id => Bindings.get?_eq_of_perm hkeyed (st.membersFor_perm id r).symm name
    rw [members, hscope, ← hthrough, ← hordered]
    exact Bindings.find?_map _ name _
  · intro name
    have htable : (st.copy c).2.functionsOf (st.twin (st.tourFrom c).entered r) =
        ⟨(st.functionsOf r).entries.mapIdx fun i e => (e.1, first + i)⟩ :=
      congrArg (·.root.funcs) hscope
    rw [htable]
    apply Bindings.rel_find?_mapIdx
    intro j e he
    have hj : j < (st.functionsOf r).entries.length := (List.getElem?_eq_some_iff.1 he).1
    have hfirst := hplaced.first_le
    have hfunctions := hplaced.functions_le
    exact ⟨by omega, by omega, hplaced.function j e he⟩

/-! ### The order of the tables -/

/-- A state whose tables hold the same, in an order that may be another one. Its copies may take
over members in any order. -/
structure Rearranged (st st' : State) : Prop where
  size : st'.scopes.size = st.scopes.size
  outer : ∀ s, (st'.scope s).outer = (st.scope s).outer
  limit : ∀ s, (st'.scope s).limit = (st.scope s).limit
  live : ∀ s, (st'.scope s).live = (st.scope s).live
  slots : ∀ s, (st'.scope s).slots.size = (st.scope s).slots.size
  parent : ∀ site, (st'.frameAt site).parent = (st.frameAt site).parent
  vars : ∀ site, (st.frameAt site).vars.entries.Perm (st'.frameAt site).vars.entries
  funcs : ∀ site, (st.frameAt site).funcs.entries.Perm (st'.frameAt site).funcs.entries
  functions : st'.functions = st.functions
  lastId : st'.lastId = st.lastId

namespace Rearranged

variable {st st' : State}

/-- What is declared one after the other comes in this order, and in no other way does the
order of declarations matter. -/
theorem declare_comm (st : State) (site : Site) {n m : Bytes} (hnm : n ≠ m) (v w : Value) :
    ((st.declare site n v).declare site m w).Rearranged
      ((st.declare site m w).declare site n v) := by
  have hframe : ∀ (n m : Bytes) (v w : Value) t,
      ((st.declare site n v).declare site m w).frameAt t =
        if t = site ∧ site.scope < st.scopes.size ∧
            site.frame < (st.scope site.scope).slots.size then
          ((st.frameAt site).declare n v).declare m w else st.frameAt t := by
    intro n m v w t
    have hsize : (st.modifyFrame site fun f => f.declare n v).scopes.size = st.scopes.size := by
      simp [modifyFrame]
    simp only [declare, frameAt_modifyFrame, slots_size_modifyFrame, hsize]
    by_cases hsite : site.scope < st.scopes.size ∧
        site.frame < (st.scope site.scope).slots.size
    · simp only [hsite, and_self, and_true, if_true]
      split <;> rfl
    · simp [hsite]
  constructor
  · simp [declare, modifyFrame]
  · simp [declare]
  · simp [declare]
  · simp [declare]
  · simp [declare]
  · intro t
    rw [hframe, hframe]
    split <;> rfl
  · intro t
    rw [hframe, hframe]
    split
    · exact Bindings.put_comm (Ne.symm hnm) w v _
    · exact List.Perm.refl _
  · intro t
    rw [hframe, hframe]
    split <;> exact List.Perm.refl _
  · rfl
  · rfl

variable (h : st.Rearranged st')
include h

theorem refers_iff (c d : Instance) : st'.Refers c d ↔ st.Refers c d :=
  ((h.vars ⟨c.scope, 0⟩).map Prod.snd).mem_iff.symm

theorem reach_eq (c : Instance) : st'.reach c = st.reach c := by
  have hrefers : st'.Refers = st.Refers := by
    funext c d
    exact propext (h.refers_iff c d)
  rw [reach, reach, hrefers]

theorem sound {built : List Instance} (hst : st.Sound built) : st'.Sound built := by
  have hw : st'.world built = st.world built := by simp [world, h.size, h.functions]
  have hfunction : ∀ f, st'.function f = st.function f := fun f => by
    simp only [function, h.functions]
  constructor
  · rw [hw]
    constructor
    · intro s
      rw [h.live]
      exact hst.grounded.live_pos s
    · intro s
      rw [h.live, h.slots]
      exact hst.grounded.live_le s
    · intro s
      show (st'.frameAt ⟨s, 0⟩).parent < 0
      rw [h.parent]
      exact hst.grounded.root_parent s
    · simpa only [hfunction] using hst.grounded.home_lt
    · simpa only [hfunction] using hst.grounded.native
    · intro site e he
      exact hst.grounded.vars site e ((h.vars site).mem_iff.2 he)
    · intro site e he
      exact hst.grounded.funcs site e ((h.funcs site).mem_iff.2 he)
  · exact hst.counted.mono (Nat.le_of_eq h.size.symm) (Nat.le_of_eq h.lastId.symm)

/-- Tables are compared by what they hold, so their order does not matter. -/
theorem mirrors (ht : st.Tidy) {after : State} {φ : Instance → Instance} {c : Instance}
    (hm : st'.Mirrors after φ c) : st.Mirrors after φ c := by
  have hfunction : ∀ f, st'.function f = st.function f := fun f => by
    simp only [function, h.functions]
  constructor
  · exact hm.name
  · exact hm.body
  · exact h.lastId ▸ hm.id_new
  · exact hm.id_le
  · exact h.size ▸ hm.scope_new
  · exact hm.scope_lt
  · exact hm.table
  · rw [hm.outer, h.outer]
  · rw [hm.limit, h.limit]
  · exact hm.depth
  · intro name
    have hget := Bindings.get?_eq_of_perm ((ht c.scope).keyed 0).vars (h.vars ⟨c.scope, 0⟩) name
    rw [hm.vars]
    exact congrArg _ hget
  · intro name
    have hget := Bindings.get?_eq_of_perm ((ht c.table).keyed 0).funcs (h.funcs ⟨c.table, 0⟩) name
    have hrel := hm.funcs name
    rw [show (st'.functionsOf c).get? name = (st.functionsOf c).get? name from hget] at hrel
    simpa only [h.functions, hfunction] using hrel

end Rearranged

/-- A copy is isomorphic to its original. From every reachable state, in whatever order the
tables are met, the walk ends within its bound, and the copy has one new instance for each that
can be reached: with an id and a scope of its own, and with what its original has. Nothing that
existed before changes. -/
theorem copy_isomorphic {built : List Instance} {st st' : State} (h : Reachable built st)
    (hr : st.Rearranged st') {c : Instance} (hc : c ∈ built) :
    (∀ steps, st.scopes.size < steps → st'.tour steps c ⟨[], []⟩ = st'.tourFrom c) ∧
      ∃ φ : Instance → Instance,
        (st'.copy c).1 = φ c ∧ Set.InjOn φ (st.reach c) ∧
        Set.InjOn (fun r => (φ r).id) (st.reach c) ∧
        Set.InjOn (fun r => (φ r).scope) (st.reach c) ∧
        (∀ r ∈ st.reach c, st.Mirrors (st'.copy c).2 φ r) ∧
        (∀ r ∈ st.reach c, ∀ d ∈ built, d.id < (φ r).id ∧ d.scope < (φ r).scope) ∧
        (∀ s < st.scopes.size, (st'.copy c).2.scope s = st'.scope s) ∧
        ∀ f < st.functions.size, (st'.copy c).2.function f = st'.function f := by
  have hst := h.sound
  have hst' := hr.sound hst
  have hentered : ∀ r ∈ st.reach c, r ∈ (st'.tourFrom c).entered := by
    intro r hreach
    rw [← hr.reach_eq] at hreach
    exact (mem_entered_iff hst' hc r).2 hreach
  have hmirrors : ∀ r ∈ st.reach c,
      st.Mirrors (st'.copy c).2 (st'.twin (st'.tourFrom c).entered) r := by
    intro r hreach
    have hkeyed : (st'.members r).vars.names.Nodup :=
      ((hr.vars ⟨r.scope, 0⟩).map Prod.fst).nodup_iff.1 ((h.tidy r.scope).keyed 0).vars
    exact hr.mirrors h.tidy (mirrors_copy hkeyed (hentered r hreach))
  -- Copies with one place in the walk have one original.
  have hrank : ∀ a ∈ st.reach c, ∀ b ∈ st.reach c,
      rank a (st'.tourFrom c).entered = rank b (st'.tourFrom c).entered → a = b := by
    intro a ha b hb hab
    exact (st'.tourFrom_grows c).1.eq (hentered a ha) (hentered b hb)
      (id_eq_of_rank_eq (hentered a ha) (hentered b hb) hab)
  obtain ⟨hlaid, _, _⟩ := copy_laidOut st' c
  have hresult : (st'.copy c).1 = st'.twin (st'.tourFrom c).entered c := rfl
  refine ⟨?_, st'.twin (st'.tourFrom c).entered, hresult, ?_, ?_, ?_, hmirrors, ?_, ?_, ?_⟩
  · intro steps hsteps
    have hlength := hst'.counted.length_le
    have hsize := hr.size
    exact tour_stable hst'.closed _ _ hc ⟨List.nil_subset _, List.nodup_nil⟩
      (by simp only [List.length_nil]; omega) (by simp only [List.length_nil]; omega)
  · intro a ha b hb hab
    exact hrank a ha b hb (Nat.add_left_cancel (congrArg Instance.id hab))
  · intro a ha b hb hab
    exact hrank a ha b hb (Nat.add_left_cancel hab)
  · intro a ha b hb hab
    exact hrank a ha b hb (Nat.add_left_cancel hab)
  · intro r hreach d hd
    exact ⟨Nat.lt_of_le_of_lt (hst.counted.id_le d hd) (hmirrors r hreach).id_new,
      Nat.lt_of_lt_of_le (hst.counted.scope_lt d hd) (hmirrors r hreach).scope_new⟩
  · intro s hs
    exact hlaid.scope_old s (hr.size ▸ hs)
  · intro f hf
    exact hlaid.function_old f (hr.functions ▸ hf)

/-- Two instances that hold each other, one of them with a function. The members of the first
are met in another order than they were declared in. -/
theorem copy_isomorphic_ring :
    let a : Instance := ⟨utf8 "A", 1, [], 0, 0⟩
    let b : Instance := ⟨utf8 "B", 2, [], 1, 1⟩
    let pair := ((({} : State).nextId.2.newScope none).2.nextId.2.newScope none).2
    let ring := (pair.register ⟨0, 0⟩ (Function.ofBody (utf8 "f") [] [])).declare ⟨1, 0⟩
      (utf8 "next") (.object a)
    let st := (ring.declare ⟨0, 0⟩ (utf8 "tag") .null).declare ⟨0, 0⟩ (utf8 "next") (.object b)
    let st' := (ring.declare ⟨0, 0⟩ (utf8 "next") (.object b)).declare ⟨0, 0⟩ (utf8 "tag") .null
    Reachable [a, b] st ∧ st.Rearranged st' ∧
      ∃ φ : Instance → Instance, (st'.copy a).1 = φ a ∧ φ a ≠ φ b ∧
        st.Mirrors (st'.copy a).2 φ a ∧ st.Mirrors (st'.copy a).2 φ b := by
  intro a b pair ring st st'
  have hstart : Reachable [] ({} : State) := .initial rfl rfl
  have hfirst : Reachable [a] (({} : State).nextId.2.newScope none).2 :=
    hstart.step (.allot (utf8 "A") [])
  have hpair : Reachable [a, b] pair := hfirst.step (.allot (utf8 "B") [])
  have hfunction : Reachable [a, b] (pair.register ⟨0, 0⟩ (Function.ofBody (utf8 "f") [] [])) :=
    hpair.step (.script (.register ⟨by decide, by decide⟩ rfl rfl))
  have hring : Reachable [a, b] ring :=
    hfunction.step (.script (.declare ⟨by decide, by decide⟩ (utf8 "next")
      (show a ∈ [a, b] by simp)))
  have htag : Reachable [a, b] (ring.declare ⟨0, 0⟩ (utf8 "tag") .null) :=
    hring.step (.script (.declare ⟨by decide, by decide⟩ (utf8 "tag") trivial))
  have hst : Reachable [a, b] st :=
    htag.step (.script (.declare ⟨by decide, by decide⟩ (utf8 "next") (show b ∈ [a, b] by simp)))
  have hother : st.Rearranged st' :=
    Rearranged.declare_comm ring ⟨0, 0⟩ (show utf8 "tag" ≠ utf8 "next" by decide) _ _
  have hb : b ∈ st.reach a := .single (refers_declare (by decide) (by decide) (utf8 "next") b)
  have ha : a ∈ st.reach a := .refl
  obtain ⟨_, φ, hresult, hinj, _, _, hmirrors, _⟩ :=
    copy_isomorphic hst hother (show a ∈ [a, b] by simp)
  have hne : φ a ≠ φ b := fun hab => absurd (hinj ha hb hab) (by decide)
  exact ⟨hst, hother, φ, hresult, hne, hmirrors a ha, hmirrors b hb⟩

end State

end Quartz
