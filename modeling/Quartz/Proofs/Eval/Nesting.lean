import Mathlib.Algebra.Order.BigOperators.Group.Finset
import Mathlib.Algebra.Ring.Int.Defs
import Quartz.Proofs.Eval.Course

/-!
# `Quartz.Proofs.Eval.Nesting`: how deep calls nest

Every call of a function with a body pushes a frame and releases it at the end, and the
journal reports both. The entries of a journal therefore tell how many calls are in progress
at each point of a run (`Log.inProgress`).

A scope takes no frame beyond its limit, but each scope counts only its own frames, and a
call may go from one scope to another. So the limit bounds the calls in progress scope by
scope, and all together only as many times as there are scopes: one for the script and one
for each instance. `Uniform` is the invariant behind this bound, and `Moves.uniform` says
that no run of a script breaks it.
-/

set_option autoImplicit false

namespace Quartz

/-! ### Calls in progress -/

namespace Log

/-- By how much an entry changes the number of calls in progress. -/
def Entry.nesting : Entry → Int
  | .event (.framePushed _ _) => 1
  | .event (.frameReleased _ _) => -1
  | _ => 0

/-- The number of calls in progress after some entries of a journal. -/
def inProgress (l : List Entry) : Int := (l.map Entry.nesting).sum

theorem inProgress_append (l l' : List Entry) :
    inProgress (l ++ l') = inProgress l + inProgress l' := by
  simp [inProgress]

theorem inProgress_of_quiet {l : List Entry} (h : ∀ e ∈ l, e.nesting = 0) : inProgress l = 0 := by
  induction l with
  | nil => rfl
  | cons e l ih =>
    obtain ⟨he, hl⟩ := List.forall_mem_cons.1 h
    have hrest : inProgress l = 0 := ih hl
    rw [inProgress, List.map_cons, List.sum_cons, he]
    exact (Int.zero_add _).trans hrest

/-- A journal goes on without a call that starts or ends. -/
structure Journal.Quiet (j j' : Journal) : Prop where
  threshold : j'.threshold = j.threshold
  entries : ∃ l, j'.entries.toList = j.entries.toList ++ l ∧ ∀ e ∈ l, e.nesting = 0

namespace Journal

theorem Quiet.refl (j : Journal) : j.Quiet j := ⟨rfl, [], by simp, by simp⟩

theorem Quiet.trans {j j' j'' : Journal} (h : j.Quiet j') (h' : j'.Quiet j'') : j.Quiet j'' := by
  obtain ⟨ht, l, hl, hq⟩ := h
  obtain ⟨ht', l', hl', hq'⟩ := h'
  refine ⟨ht'.trans ht, l ++ l', by rw [hl', hl, List.append_assoc], fun e he => ?_⟩
  rcases List.mem_append.1 he with he | he
  · exact hq e he
  · exact hq' e he

theorem quiet_report (j : Journal) {e : Event} (he : e.isFrame = false) : j.Quiet (j.report e) := by
  have hzero : Entry.nesting (.event e) = 0 := by
    cases e <;> first | rfl | exact nomatch he
  unfold report
  split
  · exact .refl j
  · split
    · exact ⟨rfl, [.event e], by simp, by simpa using hzero⟩
    · exact .refl j

/-- At the most detailed level every event is kept. -/
theorem entries_report {j : Journal} (h : j.threshold = some .debug) (e : Event) :
    (j.report e).entries.toList = j.entries.toList ++ [.event e] ∧
      (j.report e).threshold = some .debug := by
  have hadmits : Level.debug.admits e.record = true := by
    cases e <;> rfl
  unfold report
  rw [h]
  dsimp only
  rw [if_pos hadmits]
  exact ⟨by simp, rfl⟩

end Journal

end Log

/-- The events of a copy are about instances. -/
theorem State.quiet_copy (st : State) (c : Instance) : st.journal.Quiet (st.copy c).2.journal := by
  have hreports : ∀ (l : List Instance) (event : Instance → Log.Event) (s : State),
      (∀ d, (event d).isFrame = false) →
      s.journal.Quiet (l.foldl (fun s d => s.report (event d)) s).journal := by
    intro l event s hevent
    induction l generalizing s with
    | nil => exact .refl _
    | cons d l ih => exact (s.journal.quiet_report (hevent d)).trans (ih (s.report (event d)))
  exact hreports (st.tourFrom c).left _ (st.layOut (st.tourFrom c)) fun _ => rfl

/-! ### The invariant -/

/-- The number of live frames above the roots. -/
def State.framesInUse (st : State) : Nat :=
  ∑ s ∈ Finset.range st.scopes.size, ((st.scope s).live - 1)

/-- Beside the first scope there is one for each instance. Every scope has the same limit and
keeps to it, every function has a home, and the journal counts the live frames. At no point
of the journal did the count exceed what all scopes together allow. -/
structure Uniform (m : Nat) (st : State) : Prop where
  threshold : st.journal.threshold = some .debug
  scopes : st.scopes.size = st.lastId + 1
  limit : ∀ s, s < st.scopes.size → (st.scope s).limit = m
  live_le : ∀ s, s < st.scopes.size → (st.scope s).live ≤ m
  housed : ∀ f, f < st.functions.size → (st.function f).home ≠ none
  count : Log.inProgress st.journal.entries.toList = st.framesInUse
  bound : ∀ k, Log.inProgress (st.journal.entries.toList.take k) ≤ ((m - 1) * st.scopes.size : Nat)

namespace Uniform

variable {m : Nat} {st st' : State}

theorem framesInUse_le (h : ∀ s, s < st.scopes.size → (st.scope s).live ≤ m) :
    st.framesInUse ≤ (m - 1) * st.scopes.size := by
  -- Each scope has at most `m - 1` frames above its root.
  calc st.framesInUse ≤ ∑ _s ∈ Finset.range st.scopes.size, (m - 1) :=
        Finset.sum_le_sum fun s hs => Nat.sub_le_sub_right (h s (Finset.mem_range.1 hs)) 1
    _ = st.scopes.size * (m - 1) := by
        rw [Finset.sum_const_nat fun _ _ => rfl, Finset.card_range]
    _ = (m - 1) * st.scopes.size := Nat.mul_comm _ _

/-- One entry more. -/
theorem bound_append {l : List Log.Entry} {b : Int} (h : ∀ k, Log.inProgress (l.take k) ≤ b)
    {e : Log.Entry} (he : Log.inProgress (l ++ [e]) ≤ b) (k : Nat) :
    Log.inProgress ((l ++ [e]).take k) ≤ b := by
  by_cases hk : k ≤ l.length
  · rw [List.take_append_of_le_length hk]
    exact h k
  · rw [List.take_of_length_le (by simp; omega)]
    exact he

variable (h : Uniform m st)
include h

/-- A change that neither pushes nor releases a frame. Scopes that are added have the same
limit and a root only. -/
theorem quiet (hj : st.journal.Quiet st'.journal) (hsize : st.scopes.size ≤ st'.scopes.size)
    (hscopes : st'.scopes.size = st'.lastId + 1)
    (hold : ∀ s, s < st.scopes.size →
      (st'.scope s).live = (st.scope s).live ∧ (st'.scope s).limit = (st.scope s).limit)
    (hnew : ∀ s, st.scopes.size ≤ s → s < st'.scopes.size →
      (st'.scope s).live = 1 ∧ (st'.scope s).limit = m) (hm : 1 ≤ m)
    (hhoused : ∀ f, f < st'.functions.size → (st'.function f).home ≠ none) : Uniform m st' := by
  obtain ⟨ht, l, hl, hq⟩ := hj
  -- The scopes that are added hold nothing above their roots, so the sum stays.
  have huse : st'.framesInUse = st.framesInUse := by
    have hsame : st.framesInUse
        = ∑ s ∈ Finset.range st.scopes.size, ((st'.scope s).live - 1) := by
      refine Finset.sum_congr rfl fun s hs => ?_
      rw [(hold s (Finset.mem_range.1 hs)).1]
    rw [hsame]
    refine (Finset.sum_subset (Finset.range_subset_range.2 hsize) fun s hs hs' => ?_).symm
    rw [(hnew s (by simpa using hs') (Finset.mem_range.1 hs)).1, Nat.sub_self]
  have hcases : ∀ s, s < st'.scopes.size →
      (st'.scope s).limit = m ∧ (st'.scope s).live ≤ m := by
    intro s hs
    by_cases hlt : s < st.scopes.size
    · rw [(hold s hlt).1, (hold s hlt).2]
      exact ⟨h.limit s hlt, h.live_le s hlt⟩
    · obtain ⟨hlive, hlimit⟩ := hnew s (Nat.le_of_not_lt hlt) hs
      exact ⟨hlimit, by omega⟩
  constructor
  · rw [ht]
    exact h.threshold
  · exact hscopes
  · exact fun s hs => (hcases s hs).1
  · exact fun s hs => (hcases s hs).2
  · exact hhoused
  · rw [hl, Log.inProgress_append, Log.inProgress_of_quiet hq, huse, h.count]
    exact Int.add_zero _
  · intro k
    have hmono : ((m - 1) * st.scopes.size : Nat) ≤ (m - 1) * st'.scopes.size :=
      Nat.mul_le_mul_left _ hsize
    -- Up to the old end the bound is the old one, and behind it nothing is counted.
    have hrest : Log.inProgress (l.take (k - st.journal.entries.toList.length)) = 0 :=
      Log.inProgress_of_quiet fun e he => hq e (List.mem_of_mem_take he)
    have hbound := h.bound k
    rw [hl, List.take_append, Log.inProgress_append, hrest]
    omega

/-- A frame is pushed or released in one scope, and this is reported. -/
theorem framed {s : Nat} (hs : s < st.scopes.size) (hsize : st'.scopes.size = st.scopes.size)
    (hlast : st'.lastId = st.lastId) (hother : ∀ t, t ≠ s → st'.scope t = st.scope t)
    (hlimit : (st'.scope s).limit = (st.scope s).limit) (hle : (st'.scope s).live ≤ m)
    {e : Log.Event} (hj : st'.journal = st.journal.report e)
    (he : Log.Entry.nesting (.event e)
      = (((st'.scope s).live - 1 : Nat) : Int) - ((st.scope s).live - 1 : Nat))
    (hf : st'.functions = st.functions) : Uniform m st' := by
  have hfunction : ∀ f, st'.function f = st.function f := fun f => by simp [State.function, hf]
  obtain ⟨hentries, hthreshold⟩ := Log.Journal.entries_report h.threshold e
  rw [← hj] at hentries hthreshold
  have hlimits : ∀ t, t < st'.scopes.size → (st'.scope t).limit = m := by
    intro t ht
    by_cases hts : t = s
    · rw [hts, hlimit]
      exact h.limit s hs
    · rw [hother t hts]
      exact h.limit t (hsize ▸ ht)
  have hlives : ∀ t, t < st'.scopes.size → (st'.scope t).live ≤ m := by
    intro t ht
    by_cases hts : t = s
    · rw [hts]
      exact hle
    · rw [hother t hts]
      exact h.live_le t (hsize ▸ ht)
  -- The sum changes by as much as the one scope does.
  have huse : (st'.framesInUse : Int) = st.framesInUse + Log.Entry.nesting (.event e) := by
    have hmem : s ∈ Finset.range st.scopes.size := Finset.mem_range.2 hs
    have hafter : ((st'.scope s).live - 1)
        + ∑ t ∈ (Finset.range st.scopes.size).erase s, ((st.scope t).live - 1)
          = st'.framesInUse := by
      rw [State.framesInUse, hsize, ← Finset.add_sum_erase _ _ hmem]
      refine congrArg _ (Finset.sum_congr rfl fun t ht => ?_)
      rw [hother t (Finset.ne_of_mem_erase ht)]
    have hbefore : ((st.scope s).live - 1)
        + ∑ t ∈ (Finset.range st.scopes.size).erase s, ((st.scope t).live - 1)
          = st.framesInUse := Finset.add_sum_erase _ (fun t => (st.scope t).live - 1) hmem
    rw [he]
    omega
  -- The one entry that is added is counted as much as the scope has changed.
  have hcount : Log.inProgress st'.journal.entries.toList = st'.framesInUse := by
    rw [hentries, Log.inProgress_append, h.count, huse]
    simp [Log.inProgress]
  constructor
  · exact hthreshold
  · rw [hsize, hlast]
    exact h.scopes
  · exact hlimits
  · exact hlives
  · simpa only [hfunction, hf] using h.housed
  · exact hcount
  · intro k
    have hbound := framesInUse_le hlives
    rw [hentries] at hcount ⊢
    rw [hsize] at hbound ⊢
    exact bound_append h.bound (by omega) k

/-! #### Moves -/

theorem declare (hm : 1 ≤ m) (site : Site) (name : Bytes) (v : Value) :
    Uniform m (st.declare site name v) := by
  have hsize : (st.declare site name v).scopes.size = st.scopes.size := by
    simp [State.declare, State.modifyFrame]
  refine h.quiet (.refl _) (Nat.le_of_eq hsize.symm) (hsize.trans h.scopes) (fun s _ => ?_)
    (fun s h₁ h₂ => ?_) hm h.housed
  · simp [State.declare]
  · omega

theorem register (hm : 1 ≤ m) (site : Site) {fn : Function} : Uniform m (st.register site fn) := by
  have hsize : (st.register site fn).scopes.size = st.scopes.size := by
    simp [State.register, State.define, State.modifyFrame, State.settle, State.addFunction]
  refine h.quiet (.refl _) (Nat.le_of_eq hsize.symm) (hsize.trans h.scopes) (fun s _ => ?_)
    (fun s h₁ h₂ => ?_) hm fun f hf => ?_
  · simp only [State.register, State.define, State.live_modifyFrame, State.limit_modifyFrame]
    exact ⟨rfl, rfl⟩
  · omega
  · -- The new function gets the scope of the site, and the others have homes already.
    have hsettled : (st.register site fn).function f =
        ((st.addFunction fn).2.settle st.functions.size site.scope).function f := rfl
    rw [hsettled, State.function_settle]
    split
    · simp
    · next hne =>
        have hsize : (st.register site fn).functions.size = st.functions.size + 1 := by
          simp [State.register, State.define, State.modifyFrame, State.settle,
            State.addFunction]
        rw [State.function_addFunction]
        split
        · next heq =>
            subst heq
            intro hnone
            refine hne ⟨rfl, by simp [State.addFunction], ?_⟩
            rw [State.function_addFunction, if_pos rfl]
            exact hnone
        · next hf' =>
            refine h.housed f (Nat.lt_of_le_of_ne (Nat.le_of_lt_succ ?_) hf')
            exact hf.trans_eq hsize

theorem allot (hm : 1 ≤ m) {outer : ScopeId} (ho : outer < st.scopes.size) :
    Uniform m (st.nextId.2.newScope (some outer)).2 := by
  have hscope : ∀ s, (st.nextId.2.newScope (some outer)).2.scope s =
      if s = st.scopes.size then Scope.fresh (some outer) (st.scope outer).limit
      else st.scope s := fun s => st.scope_addScope _ s
  have hsize : (st.nextId.2.newScope (some outer)).2.scopes.size = st.scopes.size + 1 := by
    simp [State.newScope, State.addScope, State.nextId]
  refine h.quiet (.refl _) (by omega) (hsize.trans (congrArg (· + 1) h.scopes)) (fun s hs => ?_)
    (fun s h₁ h₂ => ?_) hm h.housed
  · rw [hscope, if_neg (Nat.ne_of_lt hs)]
    exact ⟨rfl, rfl⟩
  · rw [hscope, if_pos (Nat.le_antisymm (Nat.le_of_lt_succ (h₂.trans_eq hsize)) h₁)]
    exact ⟨rfl, h.limit outer ho⟩

theorem copy (hm : 1 ≤ m) {built : List Instance} (hst : st.Sound built) {c : Instance}
    (hc : c ∈ built) : Uniform m (st.copy c).2 := by
  obtain ⟨hwithin, _, _⟩ := State.tourFrom_complete hst.closed hst.counted.length_le hc
  obtain ⟨hlaid, hsize, hlast⟩ := State.copy_laidOut st c
  have hquiet := st.quiet_copy c
  generalize (st.copy c).2 = st' at hlaid hsize hlast hquiet ⊢
  have hscopes := h.scopes
  refine h.quiet hquiet hlaid.scopes (by omega) (fun s hs => ?_) (fun s h₁ h₂ => ?_) hm
    fun f hf => ?_
  · rw [hlaid.scope_old s hs]
    exact ⟨rfl, rfl⟩
  · -- A copied scope has the limit of its original, which belongs to an instance.
    obtain ⟨d, hd, first, _, hs⟩ := hlaid.scope_new s h₁ h₂
    rw [hs]
    exact ⟨rfl, h.limit d.scope (hst.counted.scope_lt d (hwithin.subset hd))⟩
  · by_cases hold : f < st.functions.size
    · rw [hlaid.function_old f hold]
      exact h.housed f hold
    · obtain ⟨d, _, _, _, hg⟩ := hlaid.function_new f (Nat.le_of_not_lt hold) hf
      rw [hg]
      exact nofun

theorem push {s : ScopeId} (hs : s < st.scopes.size) (hf : (st.scope s).full = false)
    (hpos : 0 < (st.scope s).live) (parent : Int) : Uniform m (st.push s parent) := by
  have hscope : (st.push s parent).scope s = (st.scope s).pushed parent := by
    rw [State.scope_push, if_pos ⟨rfl, hs⟩]
  -- There is room below the limit of the scope, and that limit is `m`.
  have hroom : (st.scope s).live < m := by
    have hlimit := h.limit s hs
    simp only [Scope.full, decide_eq_false_iff_not] at hf
    omega
  refine h.framed hs (st.size_push s parent) rfl (fun t ht => ?_) ?_ ?_ rfl ?_ rfl
  · rw [State.scope_push, if_neg fun hc => ht hc.1]
  · rw [hscope]
    rfl
  · rw [hscope]
    exact hroom
  · rw [hscope]
    simp only [Log.Entry.nesting, Scope.pushed]
    omega

theorem release {s : ScopeId} {i : Nat} (hs : s < st.scopes.size) (hpos : 0 < i)
    (hl : (st.scope s).live = i + 1) : Uniform m (st.release s i) := by
  -- The frame is the topmost one and not the root, so it is released.
  have hreleasable : (st.scope s).releasable i = true := by
    simp only [Scope.releasable, Bool.and_eq_true, decide_eq_true_eq]
    omega
  have hscope : (st.release s i).scope s = { st.scope s with live := i } := by
    rw [State.scope_release, if_pos ⟨rfl, hs⟩, Scope.release, if_pos hreleasable]
    rfl
  have hjournal : (st.release s i).journal = st.journal.report (.frameReleased i i) := by
    rw [State.release, if_pos hreleasable]
    rfl
  have hle := h.live_le s hs
  refine h.framed hs (st.size_release s i) (st.lastId_release s i) (fun t ht => ?_) ?_ ?_
    hjournal ?_ (st.functions_release s i)
  · rw [State.scope_release, if_neg fun hc => ht hc.1]
  · rw [hscope]
  · rw [hscope]
    dsimp only
    omega
  · rw [hscope, hl]
    simp only [Log.Entry.nesting]
    omega

/-- Only the output or the journal changes. -/
theorem aside (hm : 1 ≤ m) (hj : st.journal.Quiet st'.journal) (hs : st'.scopes = st.scopes)
    (hf : st'.functions = st.functions) (hi : st'.lastId = st.lastId) : Uniform m st' := by
  have hscope : ∀ s, st'.scope s = st.scope s := fun s => by simp [State.scope, hs]
  have hfunction : ∀ f, st'.function f = st.function f := fun f => by simp [State.function, hf]
  refine h.quiet hj (by rw [hs]) (by rw [hs, hi, h.scopes]) (fun s _ => ?_)
    (fun s h₁ h₂ => ?_) hm ?_
  · rw [hscope]
    exact ⟨rfl, rfl⟩
  · rw [hs] at h₂
    omega
  · simpa only [hfunction, hf] using h.housed

theorem report (hm : 1 ≤ m) {e : Log.Event} (he : e.isFrame = false) : Uniform m (st.report e) :=
  h.aside hm (st.journal.quiet_report he) rfl rfl rfl

end Uniform

/-! ### Runs -/

section

variable {m : Nat} {built built' : List Instance} {st st' : State}

theorem Move.uniform (h : Move built st built' st') (hst : st.Sound built) (hm : 1 ≤ m)
    (hu : Uniform m st) : Uniform m st' := by
  cases h with
  | declare hs name hv => exact hu.declare hm _ name _
  | register hs hh hn => exact hu.register hm _
  | allot ho name body => exact hu.allot hm ho
  | copy hc => exact hu.copy hm hst hc
  -- Every function has a home, so none is given a scope of its own.
  | shelter hf hh => exact absurd hh (hu.housed _ hf)
  | push hs hf parent => exact hu.push hs hf (hst.grounded.live_pos _) parent
  | release hs hpos hl => exact hu.release hs hpos hl
  | print line => exact hu.aside hm (.refl _) rfl rfl rfl
  | report he => exact hu.report hm he

theorem Moves.uniform (h : Moves built st built' st') (hst : st.Sound built) (hm : 1 ≤ m)
    (hu : Uniform m st) : Uniform m st' := by
  induction h with
  | refl => exact hu
  | step hmoves hmove ih => exact hmove.uniform (hmoves.sound hst) hm ih

end

end Quartz
