import Quartz.Proofs.State.Lookup

/-!
# `Quartz.Proofs.State.Alike`: states that a run cannot tell apart

A scope holds a root frame and above it the frames of the calls in progress. Two states are
`Alike` above a base if they differ at most in the frames between the roots and the base, which
are those of the callers at some point of a run. Roots, frames that were pushed since, the
functions, the ids, what was printed and the journal are the same.

Nothing that a run does depends on the journal either. `Akin` is about both: states that differ
in such frames, with the same journal, or in their journals, with the same scopes. Names mean the
same in such states wherever a callee can look from (`Akin.meaning`), and every change that a
callee makes leads to such states again.
-/

set_option autoImplicit false

namespace Quartz

variable {site : Site} {i : Nat}

/-! ### Scopes -/

/-- Two scopes that differ at most in the frames between the root and a base. -/
structure Scope.Alike (base : Nat) (sc sc' : Scope) : Prop where
  live : sc'.live = sc.live
  outer : sc'.outer = sc.outer
  limit : sc'.limit = sc.limit
  frame : ∀ i, i = 0 ∨ base ≤ i → i < sc.live → sc'.frame i = sc.frame i
  base_le : base ≤ sc.live
  live_le : sc.live ≤ sc.slots.size
  live_le' : sc'.live ≤ sc'.slots.size

namespace Scope.Alike

variable {base : Nat} {sc sc' : Scope}

theorem refl (hbase : base ≤ sc.live) (hlive : sc.live ≤ sc.slots.size) : sc.Alike base sc where
  live := rfl
  outer := rfl
  limit := rfl
  frame _ _ _ := rfl
  base_le := hbase
  live_le := hlive
  live_le' := hlive

variable (h : sc.Alike base sc')
include h

theorem full : sc'.full = sc.full := by
  rw [Scope.full, h.limit, h.live, Scope.full]

/-- A frame in sight changes in both scopes. -/
theorem modify (hi : i = 0 ∨ base ≤ i) (f : Frame → Frame) :
    (sc.modify i f).Alike base (sc'.modify i f) where
  live := h.live
  outer := h.outer
  limit := h.limit
  frame j hj hlive := by
    have hlive : j < sc.live := hlive
    have hle := h.live_le
    have hle' := h.live_le'
    have hlive' := h.live
    rw [Scope.frame_modify, Scope.frame_modify, h.frame j hj hlive]
    by_cases hji : j = i
    · subst hji
      rw [if_pos ⟨rfl, by omega⟩, if_pos ⟨rfl, by omega⟩, h.frame j hj hlive]
    · rw [if_neg fun hc => hji hc.1, if_neg fun hc => hji hc.1]
  base_le := h.base_le
  live_le := by simpa using h.live_le
  live_le' := by simpa using h.live_le'

theorem pushed (parent : Int) : (sc.pushed parent).Alike base (sc'.pushed parent) where
  live := congrArg (· + 1) h.live
  outer := h.outer
  limit := h.limit
  frame i hi hlive := by
    have hlive : i < sc.live + 1 := hlive
    rw [sc.frame_pushed h.live_le, sc'.frame_pushed h.live_le', h.live]
    split
    · rfl
    · exact h.frame i hi (by omega)
  base_le := Nat.le_succ_of_le h.base_le
  live_le := sc.size_pushed h.live_le parent
  live_le' := sc'.size_pushed h.live_le' parent

/-- Releasing frames above the base. -/
theorem release (hi : base ≤ i) : (sc.release i).Alike base (sc'.release i) := by
  have hreleasable : sc'.releasable i = sc.releasable i := by
    rw [Scope.releasable, h.live, Scope.releasable]
  have hle := h.live_le
  have hle' := h.live_le'
  have hlive := h.live
  unfold Scope.release
  rw [hreleasable]
  cases hr : sc.releasable i with
  | false => exact h
  | true =>
    simp only [Scope.releasable, Bool.and_eq_true, decide_eq_true_eq] at hr
    constructor
    · rfl
    · exact h.outer
    · exact h.limit
    · intro j hj hlt
      have hlt : j < i := hlt
      exact h.frame j hj (by omega)
    · exact hi
    · show i ≤ sc.slots.size
      omega
    · show i ≤ sc'.slots.size
      omega

/-! #### Searching -/

/-- From a frame in sight whose parent is the root, a search takes the same way in the two
scopes. -/
theorem seek (hroot : (sc.frame 0).parent < 0) (hi : i = 0 ∨ base ≤ i) (hlive : i < sc.live)
    (hparent : i = 0 ∨ (sc.frame i).parent = 0) (has : Frame → Bool) (steps : Nat) :
    sc'.seek has steps i = sc.seek has steps i := by
  have hsame := h.live
  -- In the root the search ends.
  have hend : ∀ steps, sc'.seek has steps 0 = sc.seek has steps 0 := by
    intro steps
    have hpos : 0 < sc.live := by omega
    cases steps with
    | zero => rfl
    | succ steps =>
      have hframe : sc'.root = sc.root := h.frame 0 (.inl rfl) hpos
      rw [Scope.seek_root has hpos hroot, Scope.seek_root has (hsame ▸ hpos) (hframe ▸ hroot), hframe]
  rcases hparent with rfl | hparent
  · exact hend steps
  · cases steps with
    | zero => rfl
    | succ steps =>
      rw [Scope.seek_of_live has hlive, Scope.seek_of_live has (hsame ▸ hlive), h.frame i hi hlive,
        hparent, hend steps]

end Scope.Alike

/-! ### States -/

/-- Two states that differ at most in the frames between the roots and a base in each scope. -/
structure State.Alike (base : ScopeId → Nat) (st st' : State) : Prop where
  size : st'.scopes.size = st.scopes.size
  scope : ∀ s, (st.scope s).Alike (base s) (st'.scope s)
  others : st' = { st with scopes := st'.scopes }

/-- Two states that differ at most in the frames between the roots and a base in each scope, or,
if they are not `logged` alike, at most in their journals. -/
structure State.Akin (base : ScopeId → Nat) (logged : Bool) (st st' : State) : Prop where
  size : st'.scopes.size = st.scopes.size
  scope : ∀ s, (st.scope s).Alike (base s) (st'.scope s)
  others : st' = { st with scopes := st'.scopes, journal := st'.journal }
  journal : logged = true → st'.journal = st.journal
  scopes : logged = false → st'.scopes = st.scopes

theorem State.Alike.function {base : ScopeId → Nat} {st st' : State} (h : st.Alike base st')
    (f : FunctionId) : st'.function f = st.function f := by
  rw [h.others]
  rfl

theorem State.Alike.akin {base : ScopeId → Nat} {st st' : State} (h : st.Alike base st') :
    st.Akin base true st' where
  size := h.size
  scope := h.scope
  others := by rw [h.others]
  journal _ := by rw [h.others]
  scopes hlogged := absurd hlogged (by decide)

namespace State.Akin

variable {base : ScopeId → Nat} {logged : Bool} {st st' : State}

theorem alike (h : st.Akin base true st') : st.Alike base st' where
  size := h.size
  scope := h.scope
  others := by rw [h.others, h.journal rfl]

/-- A state with another journal. -/
theorem ofJournal {w : World} (hst : st.Grounded w) (j : Log.Journal) :
    st.Akin (fun _ => 0) false { st with journal := j } where
  size := rfl
  scope s := .refl (Nat.zero_le _) (hst.live_le s)
  others := rfl
  journal hlogged := absurd hlogged (by decide)
  scopes _ := rfl

/-! #### Parts of the states -/

section

variable (h : Akin base logged st st')
include h

theorem functions : st'.functions = st.functions := by rw [h.others]

theorem function (f : FunctionId) : st'.function f = st.function f := by
  rw [State.function, h.functions, State.function]

theorem lastId : st'.lastId = st.lastId := by rw [h.others]

theorem order : st'.order = st.order := by rw [h.others]

theorem frameAt (hi : site.frame = 0 ∨ base site.scope ≤ site.frame)
    (hlive : site.frame < (st.scope site.scope).live) : st'.frameAt site = st.frameAt site :=
  (h.scope site.scope).frame site.frame hi hlive

theorem display (v : Value) : st'.display v = st.display v := by
  cases v with
  | function f => rw [State.display, h.function, State.display]
  | _ => rfl

end

/-! #### Names -/

variable {w : World}

section

variable (h : Akin base logged st st')
include h

section

variable (hst : st.Grounded w)
include hst

/-- From a shallow site in sight a search ends in the same frame. -/
theorem seek (hs : site.Shallow st) (hi : site.frame = 0 ∨ base site.scope ≤ site.frame)
    (has : Frame → Bool) :
    st'.seek has site.scope site.frame = st.seek has site.scope site.frame := by
  -- On the scope, since the search goes on in the root of an older one.
  induction hk : site.scope using Nat.strongRecOn generalizing site with
  | _ s ih =>
    subst hk
    have hscope := (h.scope site.scope).seek (hst.root_parent _) hi hs.live.2 hs.parent has
      (st.scope site.scope).live
    rw [State.seek, State.seek, (h.scope site.scope).live, hscope, (h.scope site.scope).outer]
    cases (st.scope site.scope).seek has (st.scope site.scope).live site.frame with
    | some frame => rfl
    | none =>
      cases (st.scope site.scope).outer with
      | none => rfl
      | some o =>
        dsimp only
        split
        · next hlt =>
            have hroot : Site.Shallow st ⟨o, 0⟩ :=
              ⟨⟨Nat.lt_trans hlt hs.live.1, hst.live_pos o⟩, .inl rfl⟩
            exact ih o hlt hroot (.inl rfl) rfl
        · rfl

theorem holder? (hs : site.Shallow st) (hi : site.frame = 0 ∨ base site.scope ≤ site.frame)
    (name : Bytes) : st'.holder? site name = st.holder? site name := h.seek hst hs hi _

/-- The frame in which a search ends is in sight. -/
theorem frameAt_of_seek (hs : site.Shallow st)
    (hi : site.frame = 0 ∨ base site.scope ≤ site.frame) {has : Frame → Bool} {found : Site}
    (hfound : st.seek has site.scope site.frame = some found) :
    st'.frameAt found = st.frameAt found := by
  rcases hst.seek_shallow hs has hfound with rfl | ⟨hroot, _⟩
  · exact h.frameAt hi hs.live.2
  · refine h.frameAt (.inl hroot) ?_
    rw [hroot]
    exact hst.live_pos _

/-- Names mean the same. -/
theorem meaning (hs : site.Shallow st) (hi : site.frame = 0 ∨ base site.scope ≤ site.frame)
    (name : Bytes) : st'.meaning site name = st.meaning site name := by
  have hbound : ∀ {α : Type} (has : Frame → Bool) (read : Frame → Option α),
      ((st'.seek has site.scope site.frame).bind fun holder => read (st'.frameAt holder)) =
        (st.seek has site.scope site.frame).bind fun holder => read (st.frameAt holder) := by
    intro α has read
    rw [h.seek hst hs hi has]
    cases hseek : st.seek has site.scope site.frame with
    | none => rfl
    | some found =>
      rw [Option.bind_some, Option.bind_some, h.frameAt_of_seek hst hs hi hseek]
  have hvalue : st'.value? site name = st.value? site name :=
    hbound (fun f => f.vars.contains name) fun f => f.vars.get? name
  have hfunction : st'.function? site name = st.function? site name :=
    hbound (fun f => f.funcs.contains name) fun f => f.funcs.get? name
  rw [State.meaning, State.meaning, hvalue, hfunction]

end

theorem outermost (s : ScopeId) : st'.outermost s = st.outermost s := by
  induction s using Nat.strongRecOn with
  | _ s ih =>
    rw [State.outermost, State.outermost, (h.scope s).outer]
    cases (st.scope s).outer with
    | none => rfl
    | some o =>
      dsimp only
      split
      · next hlt => exact ih o hlt
      · rfl

/-! #### Changes -/

/-- A change that leaves the scopes and the journal alone. -/
theorem aside {f : State → State}
    (hf : ∀ (s : State) (scopes : Array Scope) (journal : Log.Journal),
      f { s with scopes, journal } = { f s with scopes, journal } ∧ (f s).scopes = s.scopes ∧
        (f s).journal = s.journal) :
    Akin base logged (f st) (f st') := by
  obtain ⟨-, hscopes, hjournal⟩ := hf st #[] {}
  obtain ⟨-, hscopes', hjournal'⟩ := hf st' #[] {}
  constructor
  · rw [hscopes', hscopes, h.size]
  · intro s
    simp only [State.scope, hscopes', hscopes]
    exact h.scope s
  · rw [hscopes', hjournal']
    rw [h.others, (hf st _ _).1]
  · rw [hjournal', hjournal]
    exact h.journal
  · rw [hscopes', hscopes]
    exact h.scopes

/-- A scope changes in both states. -/
theorem modifyScope (s : ScopeId) {f : Scope → Scope}
    (hf : (f (st.scope s)).Alike (base s) (f (st'.scope s))) :
    Akin base logged (st.modifyScope s f) (st'.modifyScope s f) where
  size := by simpa using h.size
  scope t := by
    rw [State.scope_modifyScope, State.scope_modifyScope, h.size]
    split
    · next ht => rw [ht.1]; exact hf
    · exact h.scope t
  others := by rw [h.others]; rfl
  journal := h.journal
  scopes hlogged := congrArg (·.modify s f) (h.scopes hlogged)

/-- A scope is added to both states. -/
theorem addScope {sc : Scope} (hpos : 0 < sc.live) (hle : sc.live ≤ sc.slots.size) :
    Akin base logged (st.addScope sc).2 (st'.addScope sc).2 where
  size := by simp [State.addScope, h.size]
  scope s := by
    rw [State.scope_addScope, State.scope_addScope, h.size]
    split
    · next hs =>
        -- Where no scope was, the base is that of the scope that is read there.
        have hbase := (h.scope st.scopes.size).base_le
        rw [st.scope_of_size_le (Nat.le_refl _)] at hbase
        have hone : (default : Scope).live = 1 := rfl
        rw [hs]
        exact .refl (by omega) hle
    · exact h.scope s
  others := by rw [h.others]; rfl
  journal := h.journal
  scopes hlogged := congrArg (·.push sc) (h.scopes hlogged)

theorem report (e : Log.Event) : Akin base logged (st.report e) (st'.report e) where
  size := h.size
  scope := h.scope
  others := by rw [h.others]; rfl
  journal hlogged := congrArg (·.report e) (h.journal hlogged)
  scopes := h.scopes

theorem modifyFrame (hi : site.frame = 0 ∨ base site.scope ≤ site.frame) (f : Frame → Frame) :
    Akin base logged (st.modifyFrame site f) (st'.modifyFrame site f) :=
  h.modifyScope site.scope ((h.scope site.scope).modify hi f)

theorem register (hi : site.frame = 0 ∨ base site.scope ≤ site.frame) (fn : Function) :
    Akin base logged (st.register site fn) (st'.register site fn) := by
  have hadded : Akin base logged ((st.addFunction fn).2.settle st.functions.size site.scope)
      ((st'.addFunction fn).2.settle st'.functions.size site.scope) :=
    h.aside (f := fun s => (s.addFunction fn).2.settle s.functions.size site.scope)
      fun _ _ _ => ⟨rfl, rfl, rfl⟩
  have hname : ∀ s : State, ((s.addFunction fn).2.function s.functions.size).name = fn.name := by
    intro s
    rw [State.function_addFunction, if_pos rfl]
  show Akin base logged
    (((st.addFunction fn).2.settle st.functions.size site.scope).modifyFrame site fun fr =>
      fr.define ((st.addFunction fn).2.function st.functions.size).name st.functions.size)
    (((st'.addFunction fn).2.settle st'.functions.size site.scope).modifyFrame site fun fr =>
      fr.define ((st'.addFunction fn).2.function st'.functions.size).name st'.functions.size)
  rw [hname, hname, show st'.functions.size = st.functions.size by rw [h.functions]] at *
  exact hadded.modifyFrame hi _

theorem newScope (outer : Option ScopeId) :
    Akin base logged (st.newScope outer).2 (st'.newScope outer).2 := by
  have hlimit : st'.inheritedLimit outer = st.inheritedLimit outer := by
    cases outer with
    | none => rfl
    | some o => exact (h.scope o).limit
  unfold State.newScope
  rw [hlimit]
  exact h.addScope Nat.zero_lt_one (Nat.le_refl 1)

theorem push (s : ScopeId) (parent : Int) :
    Akin base logged (st.push s parent) (st'.push s parent) := by
  unfold State.push
  rw [(h.scope s).live]
  exact (h.modifyScope s ((h.scope s).pushed parent)).report _

theorem release {s : ScopeId} (hi : base s ≤ i) :
    Akin base logged (st.release s i) (st'.release s i) := by
  have hreleasable : (st'.scope s).releasable i = (st.scope s).releasable i := by
    rw [Scope.releasable, (h.scope s).live, Scope.releasable]
  unfold State.release
  rw [hreleasable]
  split
  · exact (h.modifyScope s ((h.scope s).release hi)).report _
  · exact h

/-! #### Copies -/

theorem root (hst : st.Grounded w) (s : ScopeId) : (st'.scope s).root = (st.scope s).root :=
  (h.scope s).frame 0 (.inl rfl) (hst.live_pos _)

theorem membersFor (hst : st.Grounded w) : st'.membersFor = st.membersFor := by
  funext id c
  rw [State.membersFor, State.members, h.root hst, h.order, State.membersFor, State.members]

theorem held (hst : st.Grounded w) : st'.held = st.held := by
  funext id c
  rw [State.held, h.membersFor hst, State.held]

theorem tour (hst : st.Grounded w) (k : Nat) (c : Instance) (t : Tour) :
    st'.tour k c t = st.tour k c t := by
  induction k generalizing c t with
  | zero => rfl
  | succ k ih =>
    have hvisit : st'.visit k = st.visit k := by
      funext t v
      cases v with
      | object d => exact ih d t
      | _ => rfl
    rw [tour_succ, tour_succ, hvisit, h.held hst, h.lastId]

theorem twin (l : List Instance) : st'.twin l = st.twin l := by
  funext c
  rw [State.twin, h.lastId, h.size, State.twin]

/-- The layout of the copies reads only what is the same. -/
theorem twinScope (hst : st.Grounded w) : st'.twinScope = st.twinScope := by
  have hvalue : st'.twinValue = st.twinValue := by
    funext l v
    cases v with
    | object d => rw [State.twinValue, h.twin, State.twinValue]
    | _ => rfl
  funext l first c
  simp only [State.twinScope, State.functionsOf, h.twin, hvalue, h.membersFor hst, h.root hst,
    (h.scope c.scope).outer, (h.scope c.scope).limit]

theorem twinFunctions (hst : st.Grounded w) : st'.twinFunctions = st.twinFunctions := by
  funext l c
  simp only [State.twinFunctions, State.functionsOf, State.rebound, h.root hst, h.twin, h.function]

/-- Scopes are added one behind the other. -/
theorem addScopes (scopes : List Scope)
    (hlive : ∀ s ∈ scopes, 0 < s.live ∧ s.live ≤ s.slots.size) :
    Akin base logged { st with scopes := st.scopes ++ scopes.toArray }
      { st' with scopes := st'.scopes ++ scopes.toArray } := by
  induction scopes generalizing st st' with
  | nil => simpa using h
  | cons s rest ih =>
    obtain ⟨hs, hrest⟩ := List.forall_mem_cons.1 hlive
    have hadded := ih (h.addScope hs.1 hs.2) hrest
    simpa [State.addScope] using hadded

theorem layOut (hst : st.Grounded w) (t : Tour) :
    Akin base logged (st.layOut t) (st'.layOut t) := by
  have hfirst : st'.firstFunction = st.firstFunction := by
    funext t c
    rw [State.firstFunction, h.twinFunctions hst, h.functions, State.firstFunction]
  have hscopes := h.addScopes
    (t.entered.map fun d => st.twinScope t.entered (st.firstFunction t d) d) fun s hs => by
      obtain ⟨d, -, rfl⟩ := List.mem_map.1 hs
      exact ⟨Nat.zero_lt_one, Nat.le_refl 1⟩
  have hmade := hscopes.aside
    (f := fun s => { s with
      functions := s.functions ++ (t.left.flatMap (st.twinFunctions t.entered)).toArray
      lastId := s.lastId + t.entered.length })
    fun _ _ _ => ⟨rfl, rfl, rfl⟩
  simpa only [State.layOut, h.twinScope hst, h.twinFunctions hst, hfirst] using hmade

end

theorem foldl {β : Type} {f : State → β → State}
    (hf : ∀ {st st' : State}, Akin base logged st st' → ∀ b, Akin base logged (f st b) (f st' b))
    (h : Akin base logged st st') (l : List β) :
    Akin base logged (l.foldl f st) (l.foldl f st') := by
  induction l generalizing st st' with
  | nil => exact h
  | cons b l ih => exact ih (hf h b)

/-- Copies of an instance are the same, and are laid out in the same way. -/
theorem copy (h : Akin base logged st st') (hst : st.Grounded w) (c : Instance) :
    (st'.copy c).1 = (st.copy c).1 ∧ Akin base logged (st.copy c).2 (st'.copy c).2 := by
  have htour : st'.tourFrom c = st.tourFrom c := by
    rw [State.tourFrom, h.size, h.tour hst, State.tourFrom]
  unfold State.copy
  dsimp only
  rw [htour, h.twin]
  refine ⟨rfl, ?_⟩
  apply foldl _ (h.layOut hst _)
  intro s s' hs d
  exact hs.report _

end State.Akin

end Quartz
