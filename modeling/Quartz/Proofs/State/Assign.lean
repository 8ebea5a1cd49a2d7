import Mathlib.Data.List.Perm.Subperm
import Mathlib.Logic.Relation
import Quartz.Proofs.State.Tidy

/-!
# `Quartz.Proofs.State.Assign`: an assignment changes the visible binding and no other

`State.Search` is a search for a frame as it is meant: along the parents of a frame, then from the
root of the outer scope, and so on, with no bound on the steps. It relates a place to the frames
that are passed and to the frame that is found, and it holds only if the search comes to an end.
One that follows parents which lie below their frames does (`State.exists_search`). The search of
`State.seek` has as many steps as a scope has live frames. That is enough: a search that ends
passes no frame twice (`State.Search.seek_eq`).

`State.Updates` says that two states differ in one binding, and who sees the difference: lookups
whose search comes to the changed frame before it finds another binding of the name.
-/

set_option autoImplicit false

namespace Quartz

/-! ### Parents -/

namespace Scope

variable {sc : Scope} {i : Int} {f : Frame}

/-- A live frame, and its parent. -/
def Link (sc : Scope) (i j : Int) : Prop := ∃ f, sc.live? i = some f ∧ f.parent = j

/-- From a frame on, every parent lies below its frame. -/
def Descends (sc : Scope) (i : Int) : Prop :=
  ∀ j k, Relation.ReflTransGen sc.Link i j → sc.Link j k → k < j

theorem Descends.parent (h : sc.Descends i) (hf : sc.live? i = some f) :
    f.parent < i ∧ sc.Descends f.parent :=
  ⟨h i _ .refl ⟨f, hf, rfl⟩, fun j k hj => h j k (.head ⟨f, hf, rfl⟩ hj)⟩

theorem descends_of_parents (h : ∀ i : Nat, i < sc.live → (sc.frame i).parent < i) (i : Int) :
    sc.Descends i := by
  rintro j k - ⟨f, hf, rfl⟩
  obtain ⟨hpos, hlt, rfl⟩ := live?_eq_some hf
  have hparent := h j.toNat (by omega)
  omega

/-- A search ends in a root frame. -/
theorem descends_root (h : (sc.frame 0).parent < 0) : sc.Descends 0 := by
  intro j k hreach hlink
  rcases hreach.cases_head with rfl | ⟨c, ⟨f, hf, rfl⟩, hrest⟩
  · obtain ⟨f, hf, rfl⟩ := hlink
    obtain ⟨-, -, rfl⟩ := live?_eq_some hf
    exact h
  · -- The parent of the root is no frame, so nothing is linked to it.
    obtain ⟨-, -, rfl⟩ := live?_eq_some hf
    have hdead : sc.live? (sc.frame (0 : Int).toNat).parent = none := live?_of_neg h
    rcases hrest.cases_head with rfl | ⟨_, ⟨g, hg, _⟩, _⟩
    · obtain ⟨g, hg, _⟩ := hlink
      rw [hdead] at hg
      cases hg
    · rw [hdead] at hg
      cases hg

end Scope

/-! ### Searches -/

namespace State

/-- A search from a frame of a scope passes some frames and finds one with the property, or finds
nothing in any of the scopes. -/
inductive Search (st : State) (has : Site → Prop) :
    ScopeId → Int → List Site → Option Site → Prop
  | found {s : ScopeId} {i : Int} {f : Frame} (hlive : (st.scope s).live? i = some f)
      (hhas : has ⟨s, i.toNat⟩) : Search st has s i [] (some ⟨s, i.toNat⟩)
  | parent {s : ScopeId} {i : Int} {f : Frame} {passed : List Site} {r : Option Site}
      (hlive : (st.scope s).live? i = some f) (hhas : ¬ has ⟨s, i.toNat⟩)
      (h : Search st has s f.parent passed r) : Search st has s i (⟨s, i.toNat⟩ :: passed) r
  | outer {s : ScopeId} {i : Int} {o : ScopeId} {passed : List Site} {r : Option Site}
      (hdead : (st.scope s).live? i = none) (houter : (st.scope s).outer = some o)
      (h : Search st has o 0 passed r) : Search st has s i passed r
  | missing {s : ScopeId} {i : Int} (hdead : (st.scope s).live? i = none)
      (houter : (st.scope s).outer = none) : Search st has s i [] none

/-- The frame at a site binds a variable of a name. -/
def Binds (st : State) (name : Bytes) (site : Site) : Prop :=
  (st.frameAt site).vars.contains name = true

variable {st : State} {has : Site → Prop} {s : ScopeId} {i : Int} {passed : List Site}
  {r : Option Site}

namespace Search

theorem unique (h : st.Search has s i passed r) {passed' : List Site} {r' : Option Site}
    (h' : st.Search has s i passed' r') : passed' = passed ∧ r' = r := by
  induction h generalizing passed' r' with
  | found hlive hhas =>
    cases h' with
    | found => exact ⟨rfl, rfl⟩
    | parent _ hnot => exact absurd hhas hnot
    | outer hdead => rw [hlive] at hdead; cases hdead
    | missing hdead => rw [hlive] at hdead; cases hdead
  | parent hlive hnot _ ih =>
    cases h' with
    | found _ hhas => exact absurd hhas hnot
    | parent hlive' _ hrest =>
      cases hlive.symm.trans hlive'
      obtain ⟨rfl, rfl⟩ := ih hrest
      exact ⟨rfl, rfl⟩
    | outer hdead => rw [hlive] at hdead; cases hdead
    | missing hdead => rw [hlive] at hdead; cases hdead
  | outer hdead houter _ ih =>
    cases h' with
    | found hlive => rw [hdead] at hlive; cases hlive
    | parent hlive => rw [hdead] at hlive; cases hlive
    | outer _ houter' hrest =>
      cases houter.symm.trans houter'
      exact ih hrest
    | missing _ hnone => rw [houter] at hnone; cases hnone
  | missing hdead hnone =>
    cases h' with
    | found hlive => rw [hdead] at hlive; cases hlive
    | parent hlive => rw [hdead] at hlive; cases hlive
    | outer _ houter => rw [hnone] at houter; cases houter
    | missing => exact ⟨rfl, rfl⟩

theorem has_of_some {x : Site} (h : st.Search has s i passed (some x)) : has x := by
  generalize hr : some x = r at h
  induction h with
  | found _ hhas => cases hr; exact hhas
  | parent _ _ _ ih => exact ih hr
  | outer _ _ _ ih => exact ih hr
  | missing => cases hr

/-- What is found is a live frame, of the scope at hand or of one outside it. -/
theorem live_of_some (ht : st.Tidy) {x : Site} (h : st.Search has s i passed (some x)) :
    x.scope ≤ s ∧ x.frame < (st.scope x.scope).live := by
  generalize hr : some x = r at h
  induction h with
  | found hlive _ =>
    cases hr
    obtain ⟨hpos, hlt, -⟩ := Scope.live?_eq_some hlive
    exact ⟨Nat.le_refl _, (Int.toNat_lt hpos).2 hlt⟩
  | parent _ _ _ ih => exact ih hr
  | @outer s i o _ _ _ houter _ ih =>
    have hlt := (ht s).outer_lt o houter
    exact ⟨Nat.le_trans (ih hr).1 (Nat.le_of_lt hlt), (ih hr).2⟩
  | missing => cases hr

/-- A search for more that does not find more is the search for less. -/
theorem narrow {has' : Site → Prop} (h : st.Search has s i passed r) (hle : ∀ x, has' x → has x)
    (hr : ∀ x, r = some x → has' x) : st.Search has' s i passed r := by
  induction h with
  | found hlive _ => exact .found hlive (hr _ rfl)
  | parent hlive hnot _ ih => exact .parent hlive (fun h => hnot (hle _ h)) (ih hr)
  | outer hdead houter _ ih => exact .outer hdead houter (ih hr)
  | missing hdead houter => exact .missing hdead houter

theorem congr {has' : Site → Prop} (h : st.Search has s i passed r)
    (hiff : ∀ x, has' x ↔ has x) : st.Search has' s i passed r := by
  rwa [funext fun x => propext (hiff x)]

end Search

/-- A search that descends comes to an end. -/
theorem exists_search {w : World} (hg : st.Grounded w) (ht : st.Tidy) (has : Site → Prop)
    (hdesc : (st.scope s).Descends i) : ∃ passed r, st.Search has s i passed r := by
  -- Outwards the scopes get older, and inside a scope the frames lie further below.
  induction s using Nat.strongRecOn generalizing i with
  | _ s ihScope =>
    induction hn : (i + 1).toNat using Nat.strongRecOn generalizing i with
    | _ n ihFrame =>
      cases hlive : (st.scope s).live? i with
      | none =>
        cases houter : (st.scope s).outer with
        | none => exact ⟨[], none, .missing hlive houter⟩
        | some o =>
          have hroot : (st.scope o).Descends 0 := Scope.descends_root (hg.root_parent o)
          obtain ⟨passed, r, h⟩ := ihScope o ((ht s).outer_lt o houter) hroot
          exact ⟨passed, r, .outer hlive houter h⟩
      | some f =>
        by_cases hhas : has ⟨s, i.toNat⟩
        · exact ⟨[], some _, .found hlive hhas⟩
        · obtain ⟨hlt, hrest⟩ := hdesc.parent hlive
          have hpos := (Scope.live?_eq_some hlive).1
          obtain ⟨passed, r, h⟩ := ihFrame (f.parent + 1).toNat (by omega) hrest rfl
          exact ⟨_ :: passed, r, .parent hlive hhas h⟩

/-! ### The bound on the steps -/

/-- What a search in a scope comes to: a frame there, or else a search from the root of the scope
outside. -/
def resume (st : State) (has : Frame → Bool) (s : ScopeId) : Option Nat → Option Site
  | some j => some ⟨s, j⟩
  | none =>
    match (st.scope s).outer with
    | none => none
    | some o => if o < s then st.seek has o 0 else none

theorem seek_eq_resume (st : State) (has : Frame → Bool) (s : ScopeId) (i : Int) :
    st.seek has s i = st.resume has s ((st.scope s).seek has (st.scope s).live i) := by
  rw [seek]
  cases (st.scope s).seek has (st.scope s).live i <;> rfl

theorem resume_none_of_outer {has : Frame → Bool} {o : ScopeId}
    (houter : (st.scope s).outer = some o) (hlt : o < s) :
    st.resume has s none = st.seek has o 0 := by
  simp only [resume, houter, if_pos hlt]

theorem resume_none_of_outermost {has : Frame → Bool} (houter : (st.scope s).outer = none) :
    st.resume has s none = none := by
  simp only [resume, houter]

/-- Frames of a scope that a search passed before it has only `passed` to pass. Each had further
to go. -/
structure Used (st : State) (has : Site → Prop) (s : ScopeId) (passed : List Site)
    (used : List Nat) : Prop where
  nodup : used.Nodup
  lt_live : ∀ u ∈ used, u < (st.scope s).live
  longer : ∀ u ∈ used, ∃ passed' r', passed.length < passed'.length ∧
    st.Search has s (u : Nat) passed' r'

namespace Used

variable {used : List Nat} {f : Frame}

theorem nil (st : State) (has : Site → Prop) (s : ScopeId) (passed : List Site) :
    Used st has s passed [] := ⟨List.nodup_nil, by simp, by simp⟩

/-- A search comes to no frame again, so some frames are left as long as it comes to one. -/
theorem room (hu : Used st has s passed used) (h : st.Search has s i passed r)
    (hlive : (st.scope s).live? i = some f) :
    i.toNat ∉ used ∧ used.length < (st.scope s).live := by
  obtain ⟨hpos, hlt, -⟩ := Scope.live?_eq_some hlive
  have hnot : i.toNat ∉ used := by
    intro hmem
    obtain ⟨passed', r', hlen, h'⟩ := hu.longer _ hmem
    rw [Int.toNat_of_nonneg hpos] at h'
    rw [(h.unique h').1] at hlen
    exact Nat.lt_irrefl _ hlen
  have hsub : i.toNat :: used ⊆ List.range (st.scope s).live := by
    intro u hmem
    rcases List.mem_cons.1 hmem with rfl | hmem
    · exact List.mem_range.2 ((Int.toNat_lt hpos).2 hlt)
    · exact List.mem_range.2 (hu.lt_live u hmem)
  have hle := ((List.nodup_cons.2 ⟨hnot, hu.nodup⟩).subperm hsub).length_le
  rw [List.length_range] at hle
  exact ⟨hnot, hle⟩

theorem cons {x : Site} (hu : Used st has s (x :: passed) used)
    (h : st.Search has s i (x :: passed) r) (hlive : (st.scope s).live? i = some f) :
    Used st has s passed (i.toNat :: used) := by
  obtain ⟨hpos, hlt, -⟩ := Scope.live?_eq_some hlive
  refine ⟨List.nodup_cons.2 ⟨(hu.room h hlive).1, hu.nodup⟩, ?_, ?_⟩
  · intro u hmem
    rcases List.mem_cons.1 hmem with rfl | hmem
    · exact (Int.toNat_lt hpos).2 hlt
    · exact hu.lt_live u hmem
  · intro u hmem
    rcases List.mem_cons.1 hmem with rfl | hmem
    · exact ⟨x :: passed, r, Nat.lt_succ_self _, by rwa [Int.toNat_of_nonneg hpos]⟩
    · obtain ⟨passed', r', hlen, h'⟩ := hu.longer u hmem
      exact ⟨passed', r', Nat.lt_of_succ_lt hlen, h'⟩

end Used

theorem scope_seek_of_dead {sc : Scope} {has : Frame → Bool} {i : Int} (h : sc.live? i = none)
    (steps : Nat) : sc.seek has steps i = none := by
  cases steps with
  | zero => rfl
  | succ steps => simp only [Scope.seek, h]

section

variable {has : Frame → Bool} (ht : st.Tidy)
  (h : st.Search (fun x => has (st.frameAt x) = true) s i passed r)
include ht h

/-- Induction over the search. The frames that were passed in the scope at hand have used up as
many steps, and those that are left suffice. -/
theorem Search.resume_eq {used : List Nat}
    (hu : Used st (fun x => has (st.frameAt x) = true) s passed used) :
    st.resume has s ((st.scope s).seek has ((st.scope s).live - used.length) i) = r := by
  induction h generalizing used with
  | @found s i f hlive hhas =>
    have hroom := (hu.room (.found hlive hhas) hlive).2
    obtain ⟨n, hn⟩ : ∃ n, (st.scope s).live - used.length = n + 1 :=
      Nat.exists_eq_add_one.2 (Nat.sub_pos_of_lt hroom)
    have hf : has f = true := by
      rw [(Scope.live?_eq_some hlive).2.2]
      exact hhas
    rw [hn]
    simp only [Scope.seek, hlive, if_pos hf, resume]
  | @parent s i f passed r hlive hnot hrest ih =>
    have hsearch := Search.parent hlive hnot hrest
    have hroom := (hu.room hsearch hlive).2
    have hn : (st.scope s).live - used.length =
        (st.scope s).live - (i.toNat :: used).length + 1 := by
      rw [List.length_cons]
      omega
    have hf : ¬ has f = true := by
      rw [(Scope.live?_eq_some hlive).2.2]
      exact hnot
    rw [hn]
    simp only [Scope.seek, hlive, if_neg hf]
    exact ih (hu.cons hsearch hlive)
  | outer hdead houter _ ih =>
    rw [scope_seek_of_dead hdead, resume_none_of_outer houter ((ht _).outer_lt _ houter),
      seek_eq_resume]
    exact ih (.nil _ _ _ _)
  | missing hdead houter =>
    rw [scope_seek_of_dead hdead, resume_none_of_outermost houter]

/-- The bounded search finds what the search finds, if that comes to an end. -/
theorem Search.seek_eq : st.seek has s i = r := by
  rw [seek_eq_resume]
  exact h.resume_eq ht (.nil _ _ _ _)

end

section

variable {name : Bytes} {j : Site} (ht : st.Tidy)
  (h : st.Search (st.Binds name) j.scope j.frame passed r)
include ht h

theorem Search.holder?_eq : st.holder? j name = r :=
  Search.seek_eq ht h

theorem Search.value?_eq : st.value? j name = r.bind fun x => (st.frameAt x).vars.get? name := by
  rw [value?, h.holder?_eq ht]

end

/-! ### One binding changed -/

/-- The second state binds a name to a value in one frame. Apart from that it is the first state:
all other bindings, the functions, the frames and their parents, the scopes, and the rest. -/
structure Rebinds (st : State) (slot : Site) (name : Bytes) (v : Value) (st' : State) : Prop where
  bound : (st'.frameAt slot).vars.get? name = some v
  others : ∀ x m, (x = slot → m ≠ name) →
    (st'.frameAt x).vars.get? m = (st.frameAt x).vars.get? m
  funcs : ∀ x, (st'.frameAt x).funcs = (st.frameAt x).funcs
  parent : ∀ x, (st'.frameAt x).parent = (st.frameAt x).parent
  live : ∀ s, (st'.scope s).live = (st.scope s).live
  outer : ∀ s, (st'.scope s).outer = (st.scope s).outer
  limit : ∀ s, (st'.scope s).limit = (st.scope s).limit
  size : st'.scopes.size = st.scopes.size
  rest : { st' with scopes := st.scopes } = st

theorem rebinds_declare {w : World} (hg : st.Grounded w) {slot : Site} (hslot : slot.Live st)
    (name : Bytes) (v : Value) : st.Rebinds slot name v (st.declare slot name v) := by
  have hin : slot.frame < (st.scope slot.scope).slots.size :=
    Nat.lt_of_lt_of_le hslot.2 (hg.live_le slot.scope)
  have hframe : ∀ x, (st.declare slot name v).frameAt x =
      if x = slot then (st.frameAt slot).declare name v else st.frameAt x := by
    intro x
    rw [declare, frameAt_modifyFrame]
    simp only [hslot.1, hin, and_true]
  have hsame : ∀ {α : Type} (p : Frame → α), (∀ fr, p (Frame.declare fr name v) = p fr) →
      ∀ x, p ((st.declare slot name v).frameAt x) = p (st.frameAt x) := by
    intro α p hp x
    rw [hframe]
    split
    · next hx => rw [hx, hp]
    · rfl
  exact
    { bound := by
        rw [hframe, if_pos rfl]
        exact (Bindings.get?_set _ _ _ _).trans (if_pos rfl)
      others := by
        intro x m hm
        rw [hframe]
        split
        · next hx =>
            rw [hx]
            exact (Bindings.get?_set _ _ _ _).trans (if_neg (hm hx))
        · rfl
      funcs := hsame Frame.funcs fun _ => rfl
      parent := hsame Frame.parent fun _ => rfl
      live := st.live_modifyFrame slot _
      outer := st.outer_modifyFrame slot _
      limit := st.limit_modifyFrame slot _
      size := st.size_modifyScope slot.scope _
      rest := rfl }

namespace Rebinds

variable {st' : State} {slot : Site} {name : Bytes} {v : Value}

variable (h : st.Rebinds slot name v st')
include h

theorem binds_iff (m : Bytes) (x : Site) : st'.Binds m x ↔ st.Binds m x ∨ x = slot ∧ m = name := by
  unfold Binds Bindings.contains
  by_cases hx : x = slot ∧ m = name
  · obtain ⟨rfl, rfl⟩ := hx
    simp [h.bound]
  · rw [h.others x m (fun hslot hm => hx ⟨hslot, hm⟩)]
    simp [hx]

/-- Searches take the same way in both states. -/
theorem search (hs : st.Search has s i passed r) : st'.Search has s i passed r := by
  have hnone : ∀ {s : ScopeId} {i : Int}, (st.scope s).live? i = none →
      (st'.scope s).live? i = none := by
    intro s i hdead
    unfold Scope.live? at hdead ⊢
    rw [h.live]
    split
    · next hi => rw [if_pos hi] at hdead; cases hdead
    · rfl
  have hsome : ∀ {s : ScopeId} {i : Int} {f : Frame}, (st.scope s).live? i = some f →
      ∃ f', (st'.scope s).live? i = some f' ∧ f'.parent = f.parent := by
    intro s i f hlive
    obtain ⟨hpos, hlt, rfl⟩ := Scope.live?_eq_some hlive
    refine ⟨(st'.scope s).frame i.toNat, ?_, h.parent ⟨s, i.toNat⟩⟩
    rw [Scope.live?, h.live, if_pos ⟨hpos, hlt⟩]
  induction hs with
  | found hlive hhas =>
    obtain ⟨f', hlive', _⟩ := hsome hlive
    exact .found hlive' hhas
  | parent hlive hnot _ ih =>
    obtain ⟨f', hlive', hparent⟩ := hsome hlive
    exact .parent hlive' hnot (hparent ▸ ih)
  | outer hdead houter _ ih => exact .outer (hnone hdead) ((h.outer _).trans houter) ih
  | missing hdead houter => exact .missing (hnone hdead) ((h.outer _).trans houter)

/-- A lookup sees the new value if its search comes to the changed frame first. Otherwise it finds
what it found before. -/
theorem value?_eq (ht : st.Tidy) (ht' : st'.Tidy) {m : Bytes} {j : Site}
    (hs : st.Search (fun x => st.Binds m x ∨ x = slot ∧ m = name) j.scope j.frame passed r) :
    st'.value? j m = if m = name ∧ r = some slot then some v else st.value? j m := by
  have hs' : st'.Search (st'.Binds m) j.scope j.frame passed r :=
    (h.search hs).congr (h.binds_iff m)
  rw [hs'.value?_eq ht']
  split
  · next hseen =>
      rw [hseen.2, hseen.1]
      exact h.bound
  · next hunseen =>
      -- What was found was bound before, and so the old search finds it too.
      have hold : ∀ x, r = some x → st.Binds m x := by
        rintro x rfl
        rcases hs.has_of_some with hx | ⟨rfl, rfl⟩
        · exact hx
        · exact absurd ⟨rfl, rfl⟩ hunseen
      rw [(hs.narrow (fun _ => .inl) hold).value?_eq ht]
      cases r with
      | none => rfl
      | some x =>
        exact h.others x m fun hx hm => hunseen ⟨hm, by rw [hx]⟩

end Rebinds

/-- One binding is changed or added. A lookup whose search ends sees it exactly if its name is the
bound one and the search comes to the changed frame before it finds another binding of the name.
Otherwise it gives what it gave before. -/
structure Updates (st : State) (slot : Site) (name : Bytes) (v : Value) (st' : State) : Prop extends
    st.Rebinds slot name v st' where
  lookup : ∀ (j : Site) (m : Bytes) (passed : List Site) (r : Option Site),
    st.Search (fun x => st.Binds m x ∨ x = slot ∧ m = name) j.scope j.frame passed r →
      st'.value? j m = if m = name ∧ r = some slot then some v else st.value? j m

section

variable {built : List Instance} {slot site : Site}

theorem updates_declare (hst : Reachable built st) (hslot : slot.Live st) (name : Bytes)
    (v : Value) : st.Updates slot name v (st.declare slot name v) := by
  have hrebinds := rebinds_declare hst.sound.grounded hslot name v
  exact ⟨hrebinds, fun j m passed r hs =>
    hrebinds.value?_eq hst.tidy (hst.tidy.declare slot name v) hs⟩

/-- A frame comes first in a search from it. -/
theorem Updates.value?_slot {st' : State} {name : Bytes} {v : Value}
    (h : st.Updates site name v st') (hlive : site.Live st) : st'.value? site name = some v := by
  have hframe : (st.scope site.scope).live? site.frame = some (st.frameAt site) := by
    have hlt := hlive.2
    rw [Scope.live?, if_pos (by omega)]
    rfl
  have hs : st.Search (fun x => st.Binds name x ∨ x = site ∧ name = name) site.scope site.frame []
      (some site) := .found hframe (.inr ⟨rfl, rfl⟩)
  rw [h.lookup site name [] (some site) hs, if_pos ⟨rfl, rfl⟩]

/-- **An assignment updates exactly the visible binding.** Let a live frame be given from which
every parent lies below its frame. If a search from there finds a frame that binds the name, the
assignment changes that binding; otherwise it adds a binding to the frame itself. Nothing else
changes. A lookup from the frame then gives the value. A lookup of any name from any frame of any
scope gives what it gave before, unless it is for this name and comes to the changed frame first.

A declaration does the same to the given frame, whatever a search would find, and so hides what is
bound further out. -/
theorem assign_updates_visible_slot (hst : Reachable built st) (hlive : site.Live st)
    (hdesc : (st.scope site.scope).Descends site.frame) (name : Bytes) (v : Value) :
    (∃ passed r, st.Search (st.Binds name) site.scope site.frame passed r ∧
      st.Updates (r.getD site) name v (st.assign site name v) ∧
      (st.assign site name v).value? site name = some v) ∧
    st.Updates site name v (st.declare site name v) ∧
    (st.declare site name v).value? site name = some v := by
  have hdeclare := updates_declare hst hlive name v
  refine ⟨?_, hdeclare, hdeclare.value?_slot hlive⟩
  obtain ⟨passed, r, hs⟩ := exists_search hst.sound.grounded hst.tidy (st.Binds name) hdesc
  refine ⟨passed, r, hs, ?_⟩
  rw [assign, hs.holder?_eq hst.tidy]
  cases r with
  | none => exact ⟨hdeclare, hdeclare.value?_slot hlive⟩
  | some slot =>
    obtain ⟨hle, hframe⟩ := hs.live_of_some hst.tidy
    have hupdates := updates_declare hst ⟨Nat.lt_of_le_of_lt hle hlive.1, hframe⟩ name v
    refine ⟨hupdates, ?_⟩
    -- The frame is found already, so it may be searched for as well.
    have hs' : st.Search (fun x => st.Binds name x ∨ x = slot ∧ name = name) site.scope
        site.frame passed (some slot) := by
      refine hs.congr fun x => or_iff_left_of_imp ?_
      rintro ⟨rfl, -⟩
      exact hs.has_of_some
    exact (hupdates.lookup site name passed _ hs').trans (if_pos ⟨rfl, rfl⟩)

/-- A frame above the root of a scope inside another one. A name that is bound in the outer root is
changed there, and another name is bound in the frame. -/
theorem assign_updates_visible_slot_nested :
    let x := utf8 "x"
    let y := utf8 "y"
    let v := Value.bool true
    let site : Site := ⟨1, 1⟩
    let st := (((({} : State).newScope none).2.declare ⟨0, 0⟩ x .null).newScope (some 0)).2.push 1 0
    Reachable [] st ∧ site.Live st ∧ (st.scope 1).Descends 1 ∧
      st.Updates ⟨0, 0⟩ x v (st.assign site x v) ∧ (st.assign site x v).value? site x = some v ∧
      st.Updates site y v (st.assign site y v) ∧ (st.assign site y v).value? site y = some v ∧
      st.Updates site x v (st.declare site x v) := by
  intro x y v site st
  have hst : Reachable [] st := by
    have hroot : Reachable [] (({} : State).newScope none).2 :=
      .step (.initial rfl rfl) (.newScope none none (by simp))
    have hlive : Site.Live (({} : State).newScope none).2 ⟨0, 0⟩ :=
      ⟨Nat.zero_lt_one, Nat.zero_lt_one⟩
    have hnull : Value.null.Valid ((({} : State).newScope none).2.world []) := trivial
    have hbound := hroot.step (.script (.declare hlive x hnull))
    have hinner := hbound.step (.newScope (some 0) none (by rintro o ⟨⟩; decide))
    exact hinner.step (.script (.push (by decide) (by decide) 0))
  have hlive : site.Live st := ⟨by decide, by decide⟩
  have hdesc : (st.scope 1).Descends 1 := Scope.descends_of_parents (by decide) 1
  have hx : st.holder? site x = some ⟨0, 0⟩ := by decide +kernel
  have hy : st.holder? site y = none := by decide +kernel
  obtain ⟨⟨_, r, hs, hassign, hvalue⟩, hdeclare, -⟩ :=
    assign_updates_visible_slot hst hlive hdesc x v
  obtain ⟨⟨_, r', hs', hassign', hvalue'⟩, -⟩ := assign_updates_visible_slot hst hlive hdesc y v
  cases (hs.holder?_eq hst.tidy).symm.trans hx
  cases (hs'.holder?_eq hst.tidy).symm.trans hy
  exact ⟨hst, hlive, hdesc, hassign, hvalue, hassign', hvalue', hdeclare⟩

end

end State

end Quartz
