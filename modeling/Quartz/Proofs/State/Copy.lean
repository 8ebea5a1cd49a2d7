import Mathlib.Data.List.Nodup
import Mathlib.Data.List.Perm.Subperm
import Quartz.Proofs.State.Basic

/-!
# `Quartz.Proofs.State.Copy`: what a copy is made of

A copy is made from the instances that `tour` enters. Two facts about it carry all others.

The walk is complete (`tour_onward`): what a member of an entered instance holds was
entered too, so that no reference of a copy is left behind. The steps of the walk suffice,
because each level enters an instance that was not met before, and there are no more
instances than scopes. `Closed` says what this needs.

The layout is exact (`copy_laidOut`): the scopes and functions from before stay as they
are, and behind them stand the copied scopes, each of them the `twinScope` of an instance,
and the functions rebound to them. Each copy has the place that was foretold for it
(`copy_placed`).
-/

set_option autoImplicit false

namespace Quartz

namespace State

/-- A member of an instance holds another one. -/
def Refers (st : State) (c d : Instance) : Prop := .object d ∈ (st.members c).vars.values

/-- No member leads out of a list of instances, and each id stands for one of them. -/
structure Closed (st : State) (l : List Instance) : Prop where
  refers : ∀ c ∈ l, ∀ d, st.Refers c d → d ∈ l
  ids : ∀ c ∈ l, ∀ d ∈ l, c.id = d.id → c = d

/-! ### The walk -/

namespace Tour

/-- A walk through a list of instances that enters each of them at most once. -/
structure Within (l : List Instance) (t : Tour) : Prop where
  subset : t.entered ⊆ l
  nodup : t.entered.Nodup

/-- A walk goes on, and enters whatever the members of the newly entered hold. -/
structure Onward (st : State) (t t' : Tour) : Prop where
  longer : t.entered <+: t'.entered
  explored : ∀ d ∈ t'.entered, d ∉ t.entered → ∀ e, st.Refers d e → e ∈ t'.entered

theorem Onward.refl (st : State) (t : Tour) : t.Onward st t :=
  ⟨List.prefix_rfl, fun _ hd hnew => absurd hd hnew⟩

theorem Onward.trans {st : State} {t t' t'' : Tour} (h : t.Onward st t') (h' : t'.Onward st t'') :
    t.Onward st t'' := by
  refine ⟨h.longer.trans h'.longer, fun d hd hnew e he => ?_⟩
  -- An instance was entered in the first part or in the second.
  by_cases hd' : d ∈ t'.entered
  · exact h'.longer.subset (h.explored d hd' hnew e he)
  · exact h'.explored d hd hd' e he

variable {st : State} {l : List Instance} {t : Tour}

theorem met_iff (hl : st.Closed l) (ht : t.Within l) {c : Instance} (hc : c ∈ l) :
    t.met c = true ↔ c ∈ t.entered := by
  simp only [met, List.any_eq_true, decide_eq_true_eq]
  constructor
  -- The walk compares ids, and each id stands for one instance of the list.
  · rintro ⟨d, hd, hid⟩
    rwa [← hl.ids d (ht.subset hd) c hc hid]
  · intro h
    exact ⟨c, h, rfl⟩

theorem Within.enter (ht : t.Within l) {c : Instance} (hc : c ∈ l) (hnew : c ∉ t.entered) :
    Within l { t with entered := t.entered ++ [c] } := by
  constructor
  · intro d hd
    rcases List.mem_append.1 hd with hd | hd
    · exact ht.subset hd
    · rwa [List.mem_singleton.1 hd]
  · have hdisjoint : ∀ a ∈ t.entered, ∀ b ∈ [c], a ≠ b := by
      intro a ha b hb hab
      rw [hab, List.mem_singleton.1 hb] at ha
      exact hnew ha
    exact List.nodup_append.2 ⟨ht.nodup, List.pairwise_singleton _ c, hdisjoint⟩

/-- A walk enters no more than there is in the list. -/
theorem Within.length_le (ht : t.Within l) : t.entered.length ≤ l.length :=
  (ht.nodup.subperm ht.subset).length_le

end Tour

/-- The walk into the value of a member. -/
def visit (st : State) (steps : Nat) (t : Tour) : Value → Tour
  | .object d => st.tour steps d t
  | _ => t

/-- What the members of an instance hold, in the order in which a copy takes them over. -/
def held (st : State) (id : Nat) (c : Instance) : List Value := (st.membersFor id c).map Prod.snd

theorem membersFor_perm (st : State) (id : Nat) (c : Instance) :
    (st.membersFor id c).Perm (st.members c).vars.entries := (st.order id).perm _

theorem mem_membersFor {st : State} {id : Nat} {c : Instance} {e : Bytes × Value} :
    e ∈ st.membersFor id c ↔ e ∈ (st.members c).vars.entries := (st.membersFor_perm id c).mem_iff

/-- The order does not matter for what is held. -/
theorem mem_held {st : State} {id : Nat} {c d : Instance} :
    .object d ∈ st.held id c ↔ st.Refers c d :=
  ((st.membersFor_perm id c).map Prod.snd).mem_iff

theorem tour_succ (st : State) (k : Nat) (c : Instance) (t : Tour) :
    st.tour (k + 1) c t =
      if t.met c then t
      else
        let t := (st.held (st.lastId + 1 + t.entered.length) c).foldl (st.visit k)
          { t with entered := t.entered ++ [c] }
        { t with left := t.left ++ [c] } := by
  rw [held, List.foldl_map]
  rfl

namespace Tour

/-- A walk goes on, and leaves all that it enters. -/
def Grows (t t' : Tour) : Prop :=
  ∃ new gone, t'.entered = t.entered ++ new ∧ t'.left = t.left ++ gone ∧ gone.Perm new

theorem Grows.refl (t : Tour) : t.Grows t := ⟨[], [], by simp, by simp, .refl _⟩

theorem Grows.trans {t t' t'' : Tour} (h : t.Grows t') (h' : t'.Grows t'') : t.Grows t'' := by
  obtain ⟨new, gone, hentered, hleft, hperm⟩ := h
  obtain ⟨new', gone', hentered', hleft', hperm'⟩ := h'
  exact ⟨new ++ new', gone ++ gone', by simp [hentered', hentered], by simp [hleft', hleft],
    hperm.append hperm'⟩

/-- No two instances with one id were entered. -/
def Distinct (t : Tour) : Prop := (t.entered.map Instance.id).Nodup

theorem Distinct.eq {t : Tour} (h : t.Distinct) {c d : Instance} (hc : c ∈ t.entered)
    (hd : d ∈ t.entered) (hid : c.id = d.id) : c = d := List.inj_on_of_nodup_map h hc hd hid

theorem Distinct.enter {t : Tour} (h : t.Distinct) {c : Instance} (hc : ¬t.met c = true) :
    Distinct { t with entered := t.entered ++ [c] } := by
  rw [met, List.any_eq_true] at hc
  rw [Distinct, List.map_append, List.nodup_append]
  refine ⟨h, by simp, fun a ha b hb hab => hc ?_⟩
  obtain ⟨d, hd, rfl⟩ := List.mem_map.1 ha
  exact ⟨d, hd, by simpa [hab] using hb⟩

end Tour

/-- The members of an instance, one after the other. -/
theorem foldl_visit_grows {st : State} {k : Nat}
    (hk : ∀ c t, t.Distinct → t.Grows (st.tour k c t) ∧ (st.tour k c t).Distinct)
    (vs : List Value) (t : Tour) (ht : t.Distinct) :
    t.Grows (vs.foldl (st.visit k) t) ∧ (vs.foldl (st.visit k) t).Distinct := by
  induction vs generalizing t with
  | nil => exact ⟨.refl t, ht⟩
  | cons v vs ih =>
    have hvisit : t.Grows (st.visit k t v) ∧ (st.visit k t v).Distinct := by
      cases v with
      | object d => exact hk d t ht
      | _ => exact ⟨.refl t, ht⟩
    obtain ⟨hgrows, hdistinct⟩ := ih _ hvisit.2
    exact ⟨hvisit.1.trans hgrows, hdistinct⟩

/-- A walk leaves all that it enters, and enters each id once. -/
theorem tour_grows (st : State) (k : Nat) (c : Instance) (t : Tour) (ht : t.Distinct) :
    t.Grows (st.tour k c t) ∧ (st.tour k c t).Distinct := by
  induction k generalizing c t with
  | zero => exact ⟨.refl t, ht⟩
  | succ k ih =>
    rw [tour_succ]
    split
    · exact ⟨.refl t, ht⟩
    · next hmet =>
        obtain ⟨⟨new, gone, hentered, hleft, hperm⟩, hdistinct⟩ :=
          foldl_visit_grows ih (st.held (st.lastId + 1 + t.entered.length) c) _ (ht.enter hmet)
        refine ⟨⟨c :: new, gone ++ [c], by simp [hentered], by simp [hleft], ?_⟩, hdistinct⟩
        exact List.perm_append_comm.trans (hperm.cons c)

section

variable {st : State} {l : List Instance}

/-- What a walk with `k` steps does from an instance of the list, if the steps suffice. -/
def Walks (st : State) (l : List Instance) (k : Nat) : Prop :=
  ∀ c ∈ l, ∀ t : Tour, t.Within l → l.length < k + t.entered.length →
    (st.tour k c t).Within l ∧ t.Onward st (st.tour k c t) ∧ c ∈ (st.tour k c t).entered

/-- The members of an instance, one after the other. -/
theorem Walks.foldl_visit {k : Nat} (hk : Walks st l k) (vs : List Value)
    (hvs : ∀ d, .object d ∈ vs → d ∈ l) (t : Tour) (ht : t.Within l)
    (hlen : l.length < k + t.entered.length) :
    (vs.foldl (st.visit k) t).Within l ∧ t.Onward st (vs.foldl (st.visit k) t) ∧
      ∀ d, .object d ∈ vs → d ∈ (vs.foldl (st.visit k) t).entered := by
  induction vs generalizing t with
  | nil => exact ⟨ht, .refl st t, by simp⟩
  | cons v vs ih =>
    have hrest : ∀ d, .object d ∈ vs → d ∈ l := fun d hd => hvs d (List.mem_cons_of_mem v hd)
    -- Only an instance is walked into; the walk past other values stays where it is.
    have hhead : (st.visit k t v).Within l ∧ t.Onward st (st.visit k t v) ∧
        ∀ d, .object d = v → d ∈ (st.visit k t v).entered := by
      cases v with
      | object d =>
        obtain ⟨hwithin, honward, hmem⟩ := hk d (hvs d List.mem_cons_self) t ht hlen
        exact ⟨hwithin, honward, fun d' hd' => by cases hd'; exact hmem⟩
      | _ => exact ⟨ht, .refl st t, fun d hd => nomatch hd⟩
    obtain ⟨hwithin, honward, hmem⟩ := hhead
    have hlen' := honward.longer.length_le
    obtain ⟨hwithin', honward', hmem'⟩ := ih hrest (st.visit k t v) hwithin (by omega)
    refine ⟨hwithin', honward.trans honward', fun d hd => ?_⟩
    rcases List.mem_cons.1 hd with hd | hd
    · exact honward'.longer.subset (hmem d hd)
    · exact hmem' d hd

/-- The walk is complete. -/
theorem tour_onward (hl : st.Closed l) (k : Nat) : Walks st l k := by
  induction k with
  | zero =>
    -- All of the list has been entered before the steps run out.
    intro c _ t ht hlen
    have hle := ht.length_le
    omega
  | succ k ih =>
    intro c hc t ht hlen
    rw [tour_succ]
    by_cases hmet : c ∈ t.entered
    · rw [if_pos ((t.met_iff hl ht hc).2 hmet)]
      exact ⟨ht, .refl st t, hmet⟩
    · rw [if_neg (fun h => hmet ((t.met_iff hl ht hc).1 h))]
      -- Entering the instance makes up for the step that is used.
      have hlen' : l.length < k + (t.entered ++ [c]).length := by
        rw [List.length_append, List.length_singleton]
        omega
      obtain ⟨hwithin, honward, hmem⟩ := ih.foldl_visit
        (st.held (st.lastId + 1 + t.entered.length) c)
        (fun d hd => hl.refers c hc d (mem_held.1 hd)) _ (ht.enter hc hmet) hlen'
      refine ⟨⟨hwithin.subset, hwithin.nodup⟩, ⟨?_, fun d hd hnew e he => ?_⟩, ?_⟩
      · exact (List.prefix_append _ _).trans honward.longer
      -- The instance itself has its members visited, and all others were explored on the way.
      · by_cases hdc : d = c
        · subst hdc
          exact hmem e (mem_held.2 he)
        · refine honward.explored d hd (fun h => ?_) e he
          rcases List.mem_append.1 h with h | h
          · exact hnew h
          · exact hdc (List.mem_singleton.1 h)
      · exact honward.longer.subset (by simp)

/-- A walk enters only what has a property that members pass on. -/
theorem forall_tour {P : Instance → Prop} (hP : ∀ c d, P c → st.Refers c d → P d) (k : Nat)
    {c : Instance} (hc : P c) {t : Tour} (ht : ∀ d ∈ t.entered, P d) :
    ∀ d ∈ (st.tour k c t).entered, P d := by
  induction k generalizing c t with
  | zero => exact ht
  | succ k ih =>
    rw [tour_succ]
    split
    · exact ht
    · have hentered : ∀ d ∈ t.entered ++ [c], P d := by
        simp only [List.mem_append, List.mem_singleton]
        rintro d (hd | rfl)
        · exact ht d hd
        · exact hc
      -- The members one after the other, each of them with the property.
      have hwalk : ∀ (vs : List Value) (t : Tour), (∀ d, .object d ∈ vs → P d) →
          (∀ d ∈ t.entered, P d) → ∀ d ∈ (vs.foldl (st.visit k) t).entered, P d := by
        intro vs
        induction vs with
        | nil => exact fun _ _ ht => ht
        | cons v vs ihv =>
          intro t hvs ht
          refine ihv _ (fun d hd => hvs d (List.mem_cons_of_mem v hd)) ?_
          cases v with
          | object d => exact ih (hvs d List.mem_cons_self) ht
          | _ => exact ht
      exact hwalk _ _ (fun d hd => hP c d hc (mem_held.1 hd)) hentered

/-- The walk over all that is reachable from an instance. -/
theorem tourFrom_complete (hl : st.Closed l) (hsize : l.length ≤ st.scopes.size) {c : Instance}
    (hc : c ∈ l) :
    (st.tourFrom c).Within l ∧ c ∈ (st.tourFrom c).entered ∧
      ∀ d ∈ (st.tourFrom c).entered, ∀ e, st.Refers d e → e ∈ (st.tourFrom c).entered := by
  have hstart : Tour.Within l ⟨[], []⟩ := ⟨List.nil_subset l, List.nodup_nil⟩
  obtain ⟨hwithin, honward, hmem⟩ := tour_onward hl (st.scopes.size + 1) c hc ⟨[], []⟩ hstart
    (by simp only [List.length_nil]; omega)
  exact ⟨hwithin, hmem, fun d hd => honward.explored d hd List.not_mem_nil⟩

end

/-! ### The layout -/

theorem rank_lt {c : Instance} {l : List Instance} (h : c ∈ l) : rank c l < l.length :=
  List.findIdx_lt_length_of_exists ⟨c, h, by simp⟩

/-- At the place of an instance in a list stands one with its id. -/
theorem id_get_rank {c : Instance} {l : List Instance} (hlt : rank c l < l.length) :
    (l.get ⟨rank c l, hlt⟩).id = c.id :=
  of_decide_eq_true (List.findIdx_getElem (w := hlt))

/-- Instances with the same place in a list have the same id. -/
theorem id_eq_of_rank_eq {c d : Instance} {l : List Instance} (hc : c ∈ l) (hd : d ∈ l)
    (h : rank c l = rank d l) : c.id = d.id := by
  have hc' := id_get_rank (rank_lt hc)
  have hd' := id_get_rank (rank_lt hd)
  simp only [h] at hc'
  exact hc'.symm.trans hd'

/-- Each instance of the list stands behind those with other ids. -/
theorem exists_eq_takeWhile_append {c : Instance} {l : List Instance} (hc : c ∈ l)
    (hids : ∀ d ∈ l, d.id = c.id → d = c) :
    ∃ after, l = (l.takeWhile fun d => d.id ≠ c.id) ++ c :: after := by
  induction l with
  | nil => cases hc
  | cons d l ih =>
    by_cases hd : d.id = c.id
    · exact ⟨l, by simp [hids d List.mem_cons_self hd]⟩
    · have hc' : c ∈ l := (List.mem_cons.1 hc).resolve_left fun h => hd (by rw [h])
      obtain ⟨after, hafter⟩ := ih hc' fun e he => hids e (List.mem_cons_of_mem d he)
      refine ⟨after, ?_⟩
      rw [List.takeWhile_cons_of_pos (by simpa using hd), List.cons_append, ← hafter]

/-- A state in which the copies of a list have been laid out. -/
structure LaidOut (before : State) (l : List Instance) (st : State) : Prop where
  scopes : before.scopes.size ≤ st.scopes.size
  functions : before.functions.size ≤ st.functions.size
  scope_old : ∀ s : Nat, s < before.scopes.size → st.scope s = before.scope s
  scope_new : ∀ s : Nat, before.scopes.size ≤ s → s < st.scopes.size → ∃ c ∈ l, ∃ first,
    first + (before.functionsOf c).entries.length ≤ st.functions.size ∧
      st.scope s = before.twinScope l first c
  function_old : ∀ f : Nat, f < before.functions.size → st.function f = before.function f
  function_new : ∀ f : Nat, before.functions.size ≤ f → f < st.functions.size → ∃ c ∈ l,
    ∃ e ∈ (before.functionsOf c).entries, st.function f = before.rebound (before.twin l c) e.2

/-- The copy of an instance stands at a place: its scope, and from `first` on its functions. -/
structure Placed (before : State) (l : List Instance) (st : State) (c : Instance)
    (place first : Nat) : Prop where
  place_lt : place < st.scopes.size
  scope : st.scope place = before.twinScope l first c
  first_le : before.functions.size ≤ first
  functions_le : first + (before.functionsOf c).entries.length ≤ st.functions.size
  function : ∀ (j : Nat) e, (before.functionsOf c).entries[j]? = some e →
    st.function (first + j) = before.rebound (before.twin l c) e.2

section

variable {before st : State} {l : List Instance} (h : LaidOut before l st)
include h

/-- Every scope is one from before or a copied one. Places without a scope count as the
former. -/
theorem LaidOut.scope_cases (s : Nat) :
    st.scope s = before.scope s ∨ ∃ c ∈ l, ∃ first,
      first + (before.functionsOf c).entries.length ≤ st.functions.size ∧
        st.scope s = before.twinScope l first c := by
  by_cases hold : s < before.scopes.size
  · exact .inl (h.scope_old s hold)
  · by_cases hnew : s < st.scopes.size
    · exact .inr (h.scope_new s (by omega) hnew)
    · left
      rw [st.scope_of_size_le (by omega), before.scope_of_size_le (by omega)]

theorem LaidOut.function_cases (f : Nat) :
    st.function f = before.function f ∨ ∃ c ∈ l, ∃ e ∈ (before.functionsOf c).entries,
      st.function f = before.rebound (before.twin l c) e.2 := by
  by_cases hold : f < before.functions.size
  · exact .inl (h.function_old f hold)
  · by_cases hnew : f < st.functions.size
    · exact .inr (h.function_new f (by omega) hnew)
    · left
      rw [st.function_of_size_le (by omega), before.function_of_size_le (by omega)]

end

/-! ### The copies of a walk -/

section

variable {st : State} {t : Tour}

/-- What is added behind the scopes and functions leaves them as they are. -/
theorem scope_of_append {st' : State} {more : Array Scope} (h : st'.scopes = st.scopes ++ more)
    {s : Nat} (hs : s < st.scopes.size) : st'.scope s = st.scope s := by
  simp only [scope, h, Array.getD_eq_getD_getElem?]
  rw [Array.getElem?_append_left hs]

theorem function_of_append {st' : State} {more : Array Function}
    (h : st'.functions = st.functions ++ more) {f : Nat} (hf : f < st.functions.size) :
    st'.function f = st.function f := by
  simp only [function, h, Array.getD_eq_getD_getElem?]
  rw [Array.getElem?_append_left hf]

theorem scope_layOut_of_entered {i : Nat} {c : Instance} (hi : t.entered[i]? = some c) :
    (st.layOut t).scope (st.scopes.size + i) =
      st.twinScope t.entered (st.firstFunction t c) c := by
  simp only [scope, layOut, Array.getD_eq_getD_getElem?]
  rw [Array.getElem?_append_right (Nat.le_add_right _ _)]
  simp [hi]

theorem function_layOut_of_le (j : Nat) :
    (st.layOut t).function (st.functions.size + j) =
      (t.left.flatMap (st.twinFunctions t.entered))[j]?.getD default := by
  simp only [function, layOut, Array.getD_eq_getD_getElem?]
  rw [Array.getElem?_append_right (Nat.le_add_right _ _)]
  simp

/-- Copies stand in the order of the walk. -/
theorem placed_layOut (st : State) (ht : t.Distinct) (hleft : t.left.Perm t.entered) {i : Nat} {c : Instance}
    (hi : t.entered[i]? = some c) :
    Placed st t.entered (st.layOut t) c (st.scopes.size + i) (st.firstFunction t c) := by
  have hc := List.mem_of_getElem? hi
  obtain ⟨after, hsplit⟩ := exists_eq_takeWhile_append (hleft.mem_iff.2 hc)
    fun d hd hid => ht.eq (hleft.mem_iff.1 hd) hc hid
  have hlength : i < t.entered.length := (List.getElem?_eq_some_iff.1 hi).1
  -- The functions of the instances left before, its own, and those of the others.
  have hfunctions : t.left.flatMap (st.twinFunctions t.entered) =
      (t.left.takeWhile fun d => d.id ≠ c.id).flatMap (st.twinFunctions t.entered) ++
        (st.twinFunctions t.entered c ++ after.flatMap (st.twinFunctions t.entered)) := by
    conv_lhs => rw [hsplit]
    simp
  have hown : (st.twinFunctions t.entered c).length = (st.functionsOf c).entries.length :=
    List.length_map _
  constructor
  · simp only [layOut, Array.size_append, List.size_toArray, List.length_map]
    omega
  · exact scope_layOut_of_entered hi
  · exact Nat.le_add_right _ _
  · simp only [layOut, firstFunction, Array.size_append, List.size_toArray, hfunctions,
      List.length_append, hown]
    omega
  · intro j e he
    have hj : j < (st.functionsOf c).entries.length := (List.getElem?_eq_some_iff.1 he).1
    rw [firstFunction, Nat.add_assoc, function_layOut_of_le, hfunctions,
      List.getElem?_append_right (Nat.le_add_right _ _), Nat.add_sub_cancel_left,
      List.getElem?_append_left (by omega)]
    simp [twinFunctions, he]

/-- What was laid out behind the scopes and functions from before. -/
theorem laidOut_layOut (st : State) (ht : t.Distinct) (hleft : t.left.Perm t.entered) :
    LaidOut st t.entered (st.layOut t) where
  scopes := by simp [layOut]
  functions := by simp [layOut]
  scope_old _ hs := scope_of_append rfl hs
  scope_new s hle hlt := by
    obtain ⟨i, rfl⟩ := Nat.exists_eq_add_of_le hle
    have hi : i < t.entered.length := by
      simp only [layOut, Array.size_append, List.size_toArray, List.length_map] at hlt
      omega
    have hplaced := placed_layOut st ht hleft (List.getElem?_eq_getElem hi)
    exact ⟨_, List.getElem_mem hi, _, hplaced.functions_le, hplaced.scope⟩
  function_old _ hf := function_of_append rfl hf
  function_new f hle hlt := by
    obtain ⟨j, rfl⟩ := Nat.exists_eq_add_of_le hle
    have hj : j < (t.left.flatMap (st.twinFunctions t.entered)).length := by
      simp only [layOut, Array.size_append, List.size_toArray] at hlt
      omega
    obtain ⟨c, hc, hmem⟩ := List.mem_flatMap.1 (List.getElem_mem hj)
    obtain ⟨e, he, heq⟩ := List.mem_map.1 hmem
    refine ⟨c, hleft.mem_iff.1 hc, e, he, ?_⟩
    rw [function_layOut_of_le, List.getElem?_eq_getElem hj, Option.getD_some, heq]

end

/-- The events of a copy change only the journal. -/
theorem foldl_report (l : List Instance) (event : Instance → Log.Event) (st : State) :
    l.foldl (fun s d => s.report (event d)) st =
      { st with journal := l.foldl (fun j d => j.report (event d)) st.journal } := by
  induction l generalizing st with
  | nil => rfl
  | cons d l ih => exact ih (st.report (event d))

/-- A copy lays out what the walk met, and reports. -/
theorem copy_eq (st : State) (c : Instance) :
    ∃ journal, (st.copy c).2 = { st.layOut (st.tourFrom c) with journal } :=
  ⟨_, foldl_report _ _ _⟩

theorem tourFrom_grows (st : State) (c : Instance) :
    (st.tourFrom c).Distinct ∧ (st.tourFrom c).left.Perm (st.tourFrom c).entered := by
  obtain ⟨⟨new, gone, hentered, hleft, hperm⟩, hdistinct⟩ :=
    st.tour_grows (st.scopes.size + 1) c ⟨[], []⟩ List.nodup_nil
  exact ⟨hdistinct, by rw [tourFrom, hentered, hleft]; exact hperm⟩

/-- What copying leaves behind. -/
theorem copy_laidOut (st : State) (c : Instance) :
    LaidOut st (st.tourFrom c).entered (st.copy c).2 ∧
      (st.copy c).2.scopes.size = st.scopes.size + (st.tourFrom c).entered.length ∧
      (st.copy c).2.lastId = st.lastId + (st.tourFrom c).entered.length := by
  obtain ⟨hdistinct, hleft⟩ := st.tourFrom_grows c
  have hlaid := laidOut_layOut st hdistinct hleft
  obtain ⟨journal, hcopy⟩ := st.copy_eq c
  rw [hcopy]
  exact ⟨⟨hlaid.scopes, hlaid.functions, hlaid.scope_old, hlaid.scope_new, hlaid.function_old,
    hlaid.function_new⟩, by simp [layOut], rfl⟩

/-- Copies stand in the order of the walk. -/
theorem copy_placed_at {st : State} {c r : Instance} {i : Nat}
    (hi : (st.tourFrom c).entered[i]? = some r) :
    ∃ first, Placed st (st.tourFrom c).entered (st.copy c).2 r (st.scopes.size + i) first := by
  obtain ⟨hdistinct, hleft⟩ := st.tourFrom_grows c
  have hplaced := placed_layOut st hdistinct hleft hi
  obtain ⟨journal, hcopy⟩ := st.copy_eq c
  rw [hcopy]
  exact ⟨_, hplaced.place_lt, hplaced.scope, hplaced.first_le, hplaced.functions_le,
    hplaced.function⟩

/-- Each copy stands at the place that was foretold for it. -/
theorem copy_placed {st : State} {c r : Instance} (hr : r ∈ (st.tourFrom c).entered) :
    ∃ first, Placed st (st.tourFrom c).entered (st.copy c).2 r
      (st.twin (st.tourFrom c).entered r).scope first := by
  have hlt := rank_lt hr
  apply copy_placed_at
  rw [List.getElem?_eq_getElem hlt]
  exact congrArg some ((st.tourFrom_grows c).1.eq (List.getElem_mem hlt) hr (id_get_rank hlt))

/-- Every new scope is that of a copy. -/
theorem exists_placed_of_new {st : State} {c : Instance} {s : Nat} (hs : st.scopes.size ≤ s)
    (hlt : s < (st.copy c).2.scopes.size) :
    ∃ r ∈ (st.tourFrom c).entered, ∃ first,
      Placed st (st.tourFrom c).entered (st.copy c).2 r s first := by
  obtain ⟨i, rfl⟩ := Nat.exists_eq_add_of_le hs
  rw [(copy_laidOut st c).2.1] at hlt
  have hi : i < (st.tourFrom c).entered.length := by omega
  exact ⟨_, List.getElem_mem hi, copy_placed_at (List.getElem?_eq_getElem hi)⟩

end State

end Quartz
