import Mathlib.Data.Set.Basic
import Quartz.Proofs.State.Tidy

/-!
# `Quartz.Proofs.State.Sealed`: scopes in which nothing from outside runs

A scope is inside a set of scopes if it belongs to the set, or if the scope outside it is inside
(`Inside`). What runs there can change the scopes of the set. The set is `Sealed` if no function
that runs inside can be met outside: none is held by a frame of a scope outside, none by a
member that a copy would carry outside, and none is given away by a native function.

`confined` is the realm of what is outside. A change within this realm `Spares` the set: it
leaves everything inside as it was, takes nothing out of the realm, and keeps the seal. This is
proved once for each kind of change. A copy is one of them, since the copy of an instance lies
inside only if the scope around the instance does.
-/

set_option autoImplicit false

namespace Quartz

variable {s : ScopeId} {site : Site} {st : State} {S : Set ScopeId} {built : List Instance}
  {v : Value} {i : Nat} {outer : Option ScopeId}

namespace State

/-! ### Inside and outside -/

/-- A scope of a set, or a scope with one of them around it. -/
inductive Inside (st : State) (S : Set ScopeId) : ScopeId → Prop
  | here {s : ScopeId} (h : s ∈ S) : Inside st S s
  | outer {s o : ScopeId} (ho : (st.scope s).outer = some o) (h : Inside st S o) : Inside st S s

section

variable {S : Set ScopeId} {st st' : State}

theorem Inside.lt_size (h : st.Inside S s) (hS : ∀ s ∈ S, s < st.scopes.size) :
    s < st.scopes.size := by
  cases h with
  | here h => exact hS s h
  | outer ho _ =>
    by_contra hlt
    rw [st.scope_of_size_le (Nat.le_of_not_lt hlt)] at ho
    exact nomatch ho

/-- Where the scopes around others stay, so does what is inside. -/
theorem inside_iff (ht : st.Tidy)
    (houter : ∀ s, s < st.scopes.size → (st'.scope s).outer = (st.scope s).outer)
    (hs : s < st.scopes.size) : st'.Inside S s ↔ st.Inside S s := by
  constructor
  · intro h
    induction h with
    | here h => exact .here h
    | outer ho _ ih =>
      rw [houter _ hs] at ho
      exact .outer ho (ih (Nat.lt_trans ((ht _).outer_lt _ ho) hs))
  · intro h
    induction h with
    | here h => exact .here h
    | outer ho _ ih =>
      have hlt := (ht _).outer_lt _ ho
      rw [← houter _ hs] at ho
      exact .outer ho (ih (Nat.lt_trans hlt hs))

/-- Scopes that are older than the set are outside. -/
theorem not_inside_of_lt (ht : st.Tidy) {bound s : Nat} (hS : ∀ t ∈ S, bound ≤ t)
    (hs : s < bound) : ¬ st.Inside S s := by
  intro h
  induction h with
  | here h => exact absurd hs (Nat.not_lt.2 (hS _ h))
  | outer ho _ ih => exact ih (Nat.lt_trans ((ht _).outer_lt _ ho) hs)

/-- What is around a scope outside is outside. -/
theorem not_inside_outer {o : ScopeId} (hs : ¬ st.Inside S s) (ho : (st.scope s).outer = some o) :
    ¬ st.Inside S o := fun hin => hs (.outer ho hin)

/-- A search for a name from outside stays outside. -/
theorem not_inside_of_seek {has : Frame → Bool} {i : Int} {holder : Site} (hs : ¬ st.Inside S s)
    (h : st.seek has s i = some holder) : ¬ st.Inside S holder.scope :=
  holds_of_seek (P := fun s => ¬ st.Inside S s) (fun _ _ => not_inside_outer) hs h

theorem Tidy.live_of_seek {has : Frame → Bool} {i : Int} {holder : Site} (ht : st.Tidy)
    (hs : s < st.scopes.size) (h : st.seek has s i = some holder) : holder.Live st :=
  ⟨holds_of_seek (P := (· < st.scopes.size))
    (fun _ o hs ho => Nat.lt_trans ((ht _).outer_lt o ho) hs) hs h, (state_seek_has h).1⟩

theorem not_inside_outermost (hs : ¬ st.Inside S s) : ¬ st.Inside S (st.outermost s) :=
  holds_outermost (P := fun s => ¬ st.Inside S s) (fun _ _ => not_inside_outer) hs

end

/-! ### Sealed sets -/

/-- A function runs in its home, if it has one yet. -/
def RunsOutside (st : State) (S : Set ScopeId) (f : FunctionId) : Prop :=
  ∀ s, (st.function f).home = some s → ¬ st.Inside S s

/-- The realm of what is outside a set of scopes. Every instance may be held there, but only
those outside may run. -/
def confined (st : State) (S : Set ScopeId) (built : List Instance) : Realm where
  function f := f < st.functions.size ∧ st.RunsOutside S f
  scope s := s < st.scopes.size ∧ ¬ st.Inside S s
  object c := c ∈ built
  started c := c ∈ built ∧ ¬ st.Inside S c.scope
  token _ := True
  started_object _ h := h.1

/-- What is outside exists. -/
theorem valid_of_confined (h : v.Within (st.confined S built)) : v.Valid (st.world built) := by
  cases v with
  | function f => exact h.1
  | object c => exact h
  | _ => trivial

/-- A value that exists is outside, unless it is a function that runs inside. -/
theorem within_confined (hv : v.Valid (st.world built))
    (hf : ∀ f, v = .function f → st.RunsOutside S f) : v.Within (st.confined S built) := by
  cases v with
  | function f => exact ⟨hv, hf f rfl⟩
  | object c => exact hv
  | _ => trivial

/-- An instance is replaced by its copy, and any instance may be held outside. -/
theorem within_twinValue {before : State} {l : List Instance}
    (hv : v.Within (st.confined S built)) (hvalid : (before.twinValue l v).Valid (st.world built)) :
    (before.twinValue l v).Within (st.confined S built) := by
  cases v with
  | object c => exact hvalid
  | _ => exact hv

/-- A frame whose variables can be met outside: one of a scope outside, or a root whose copy would
belong to a scope outside. -/
def Exposed (st : State) (S : Set ScopeId) (site : Site) : Prop :=
  ¬ st.Inside S site.scope ∨
    site.frame = 0 ∧ ∀ o, (st.scope site.scope).outer = some o → ¬ st.Inside S o

/-- The variables of some live frames, the functions of some live frames, and what native
functions give are within a realm. -/
structure Holds (vars funcs : Site → Prop) (r : Realm) (st : State) : Prop where
  vars : ∀ site, site.Live st → vars site → ∀ e ∈ (st.frameAt site).vars.entries, e.2.Within r
  funcs : ∀ site, site.Live st → funcs site →
    ∀ e ∈ (st.frameAt site).funcs.entries, r.function e.2
  native : ∀ f v, (st.function f).native = some (.constant v) → v.Within r

/-- Nothing outside a set of scopes can run inside. -/
structure Sealed (S : Set ScopeId) (built : List Instance) (st : State) : Prop where
  sound : st.Sound built
  tidy : st.Tidy
  lt_size : ∀ s ∈ S, s < st.scopes.size
  holds : st.Holds (st.Exposed S) (fun site => ¬ st.Inside S site.scope) (st.confined S built)

/-- A change that leaves what is inside a set of scopes as it was, and keeps the seal. -/
structure Spares (S : Set ScopeId) (built : List Instance) (st : State)
    (built' : List Instance) (st' : State) : Prop where
  inside : ∀ s, st.Inside S s → st'.Inside S s
  scope : ∀ s, st.Inside S s → st'.scope s = st.scope s
  realm_le : st.confined S built ≤ st'.confined S built'
  keeps : st'.Sealed S built'

section

variable {S : Set ScopeId} {built built' built'' : List Instance} {st st' st'' : State}

theorem Spares.refl (h : st.Sealed S built) : Spares S built st built st :=
  ⟨fun _ hs => hs, fun _ _ => rfl, Realm.le_refl _, h⟩

theorem Spares.trans (h : Spares S built st built' st') (h' : Spares S built' st' built'' st'') :
    Spares S built st built'' st'' where
  inside s hs := h'.inside s (h.inside s hs)
  scope s hs := (h'.scope s (h.inside s hs)).trans (h.scope s hs)
  realm_le := Realm.le_trans h.realm_le h'.realm_le
  keeps := h'.keeps

/-! ### Changes that stay outside -/

/-- A change that adds scopes and functions, and touches no scope inside. A function may get
a home outside. -/
structure Skirts (S : Set ScopeId) (st st' : State) : Prop where
  scopes : st.scopes.size ≤ st'.scopes.size
  functions : st.functions.size ≤ st'.functions.size
  outer : ∀ s, s < st.scopes.size → (st'.scope s).outer = (st.scope s).outer
  scope : ∀ s, st.Inside S s → st'.scope s = st.scope s
  home : ∀ f, f < st.functions.size → (st'.function f).home = (st.function f).home ∨
    ∀ s, (st'.function f).home = some s → ¬ st'.Inside S s

namespace Skirts

theorem exposed (hk : Skirts S st st') (h : st.Sealed S built) (hs : site.scope < st.scopes.size)
    (he : st'.Exposed S site) : st.Exposed S site := by
  rcases he with hout | ⟨hroot, hout⟩
  · exact .inl fun hin => hout ((inside_iff h.tidy hk.outer hs).2 hin)
  · refine .inr ⟨hroot, fun o ho hin => ?_⟩
    have hlt := Nat.lt_trans ((h.tidy _).outer_lt o ho) hs
    exact hout o ((hk.outer _ hs).trans ho) ((inside_iff h.tidy hk.outer hlt).2 hin)

/-- What was outside stays outside. -/
theorem confined_le (hk : Skirts S st st') (h : st.Sealed S built) (hb : built ⊆ built') :
    st.confined S built ≤ st'.confined S built' where
  function f hf := by
    refine ⟨Nat.lt_of_lt_of_le hf.1 hk.functions, ?_⟩
    rcases hk.home f hf.1 with hhome | hhome
    · intro s hs hin
      rw [hhome] at hs
      have hlt := h.sound.grounded.home_lt f s hs
      exact hf.2 s hs ((inside_iff h.tidy hk.outer hlt).1 hin)
    · exact hhome
  scope s hs := ⟨Nat.lt_of_lt_of_le hs.1 hk.scopes,
    fun hin => hs.2 ((inside_iff h.tidy hk.outer hs.1).1 hin)⟩
  object _ hc := hb hc
  started c hc := by
    have hlt := h.sound.counted.scope_lt c hc.1
    exact ⟨hb hc.1, fun hin => hc.2 ((inside_iff h.tidy hk.outer hlt).1 hin)⟩
  token _ ht := ht

end Skirts

/-- A change that stays outside spares the set, if what it binds is within the realm after it. -/
theorem Sealed.spares (h : st.Sealed S built) (hk : Skirts S st st') (hb : built ⊆ built')
    (hsound : st'.Sound built') (htidy : st'.Tidy)
    (hholds : ∀ vars funcs, st.Holds vars funcs (st'.confined S built') →
      st'.Holds vars funcs (st'.confined S built')) : Spares S built st built' st' := by
  have hle := hk.confined_le h hb
  have hbefore : st.Holds (st'.Exposed S) (fun site => ¬ st'.Inside S site.scope)
      (st'.confined S built') := by
    constructor
    · intro site hlive hsite e he
      exact (h.holds.vars site hlive (hk.exposed h hlive.1 hsite) e he).mono hle
    · intro site hlive hsite e he
      have hout : ¬ st.Inside S site.scope := fun hin =>
        hsite ((inside_iff h.tidy hk.outer hlive.1).2 hin)
      exact hle.function _ (h.holds.funcs site hlive hout e he)
    · intro f v hv
      exact (h.holds.native f v hv).mono hle
  refine ⟨fun s hs => ?_, hk.scope, hle, hsound, htidy, fun s hs => ?_, hholds _ _ hbefore⟩
  · exact (inside_iff h.tidy hk.outer (hs.lt_size h.lt_size)).2 hs
  · exact Nat.lt_of_lt_of_le (h.lt_size s hs) hk.scopes

/-- A change that builds nothing. -/
theorem Sealed.spares_of_grounded (h : st.Sealed S built) (hk : Skirts S st st')
    (hg : st'.Grounded (st.world built)) (hi : st.lastId ≤ st'.lastId) (htidy : st'.Tidy)
    (hholds : ∀ vars funcs, st.Holds vars funcs (st'.confined S built) →
      st'.Holds vars funcs (st'.confined S built)) : Spares S built st built st' :=
  h.spares hk (List.Subset.refl _)
    (h.sound.ofGrounded hg ⟨hk.functions, hk.scopes, List.Subset.refl _⟩ hi) htidy hholds

end

/-! ### Frames and functions within a realm -/

section

variable {vars funcs : Site → Prop} {r : Realm} {st st' : State}

/-- Live frames were live and stay as they were, or are empty, and native functions stay. -/
theorem Holds.ofFrames (h : st.Holds vars funcs r)
    (hframe : ∀ site : Site, site.Live st' →
      site.Live st ∧ st'.frameAt site = st.frameAt site ∨
        ∃ parent, st'.frameAt site = Frame.fresh parent)
    (hnative : ∀ f, (st'.function f).native = (st.function f).native) :
    st'.Holds vars funcs r := by
  constructor
  · intro site hlive hsite e he
    rcases hframe site hlive with ⟨hlive, hframe⟩ | ⟨parent, hframe⟩
    · rw [hframe] at he
      exact h.vars site hlive hsite e he
    · rw [hframe] at he
      exact nomatch he
  · intro site hlive hsite e he
    rcases hframe site hlive with ⟨hlive, hframe⟩ | ⟨parent, hframe⟩
    · rw [hframe] at he
      exact h.funcs site hlive hsite e he
    · rw [hframe] at he
      exact nomatch he
  · intro f v hv
    rw [hnative] at hv
    exact h.native f v hv

theorem live_modifyFrame_iff (site : Site) (f : Frame → Frame) {t : Site} :
    t.Live (st.modifyFrame site f) ↔ t.Live st := by
  rw [Site.Live, live_modifyFrame, Site.Live]
  simp [State.modifyFrame]

/-- One frame gets bindings within the realm. -/
theorem Holds.modifyFrame (h : st.Holds vars funcs r) (site : Site) (f : Frame → Frame)
    (hvars : ∀ e ∈ (f (st.frameAt site)).vars.entries,
      e.2.Within r ∨ e ∈ (st.frameAt site).vars.entries)
    (hfuncs : ∀ e ∈ (f (st.frameAt site)).funcs.entries,
      r.function e.2 ∨ e ∈ (st.frameAt site).funcs.entries) :
    (st.modifyFrame site f).Holds vars funcs r := by
  constructor
  · intro t hlive ht e he
    replace hlive := (live_modifyFrame_iff site f).1 hlive
    rw [frameAt_modifyFrame] at he
    split at he
    · next hsite =>
        rcases hvars e he with hwithin | hold
        · exact hwithin
        · rw [hsite.1] at ht hlive
          exact h.vars site hlive ht e hold
    · exact h.vars t hlive ht e he
  · intro t hlive ht e he
    replace hlive := (live_modifyFrame_iff site f).1 hlive
    rw [frameAt_modifyFrame] at he
    split at he
    · next hsite =>
        rcases hfuncs e he with hwithin | hold
        · exact hwithin
        · rw [hsite.1] at ht hlive
          exact h.funcs site hlive ht e hold
    · exact h.funcs t hlive ht e he
  · exact h.native

end

/-! ### Each kind of change -/

theorem Skirts.modifyFrame (hout : ¬ st.Inside S site.scope) (f : Frame → Frame) :
    Skirts S st (st.modifyFrame site f) where
  scopes := by simp [State.modifyFrame]
  functions := Nat.le_refl _
  outer s _ := by simp
  scope s hs := by
    rw [State.modifyFrame, scope_modifyScope, if_neg]
    rintro ⟨rfl, -⟩
    exact hout hs
  home _ _ := .inl rfl

theorem Skirts.modifyScope {st' : State} {t : ScopeId} {sc : Scope} (hout : ¬ st.Inside S t)
    (hsize : st'.scopes.size = st.scopes.size) (hf : st'.functions = st.functions)
    (hscope : ∀ s, st'.scope s = if s = t ∧ t < st.scopes.size then sc else st.scope s)
    (houter : sc.outer = (st.scope t).outer) : Skirts S st st' where
  scopes := Nat.le_of_eq hsize.symm
  functions := Nat.le_of_eq (congrArg Array.size hf.symm)
  outer s _ := by
    rw [hscope]
    split
    · next hs => rw [houter, hs.1]
    · rfl
  scope s hs := by
    rw [hscope, if_neg]
    rintro ⟨rfl, -⟩
    exact hout hs
  home f _ := .inl (by simp only [function, hf])

/-- The root frame of an instance is live. -/
theorem Sound.live_root (h : st.Sound built) {c : Instance} (hc : c ∈ built) :
    Site.Live st ⟨c.scope, 0⟩ :=
  ⟨h.counted.scope_lt c hc, h.grounded.live_pos c.scope⟩

namespace Sealed

variable {S : Set ScopeId} {built built' : List Instance} {st : State}

section

variable (h : st.Sealed S built)
include h

/-- A change of neither scopes nor functions. -/
theorem aside {st' : State} (hs : st'.scopes = st.scopes) (hf : st'.functions = st.functions)
    (hi : st.lastId ≤ st'.lastId) : Spares S built st built st' := by
  have hscope : ∀ s, st'.scope s = st.scope s := fun s => by simp only [scope, hs]
  have hfunction : ∀ f, st'.function f = st.function f := fun f => by simp only [function, hf]
  have hskirts : Skirts S st st' := by
    constructor
    · rw [hs]
    · rw [hf]
    · intro s _
      rw [hscope]
    · intro s _
      exact hscope s
    · intro f _
      exact .inl (by rw [hfunction])
  have hgrounded := h.sound.grounded.ofScopes hf fun s => .inl (hscope s)
  have htidy : st'.Tidy := fun s => by
    rw [hscope]
    exact h.tidy s
  refine h.spares_of_grounded hskirts hgrounded hi htidy fun vars funcs hholds => ?_
  refine hholds.ofFrames (fun site hlive => .inl ?_) fun f => by rw [hfunction]
  rw [Site.Live, hs, hscope] at hlive
  rw [frameAt, hscope, frameAt]
  exact ⟨hlive, rfl⟩

theorem declare (hout : ¬ st.Inside S site.scope) (name : Bytes)
    (hv : v.Within (st.confined S built)) : Spares S built st built (st.declare site name v) := by
  have hskirts : Skirts S st (st.declare site name v) := .modifyFrame hout _
  have hv' := hv.mono (hskirts.confined_le h (List.Subset.refl built))
  have hgrounded := h.sound.grounded.declare site name (valid_of_confined hv)
  refine h.spares_of_grounded hskirts hgrounded (Nat.le_refl _) (h.tidy.declare site name v) ?_
  intro vars funcs hholds
  refine hholds.modifyFrame site _ (fun e he => ?_) fun e he => .inr he
  rcases Bindings.mem_put he with rfl | hold
  · exact .inl hv'
  · exact .inr hold

/-- The name of a function is bound. -/
theorem bindFunction (hout : ¬ st.Inside S site.scope) (name : Bytes) {f : FunctionId}
    (hf : (st.confined S built).function f) :
    Spares S built st built (st.modifyFrame site fun fr => fr.define name f) := by
  have hskirts : Skirts S st (st.modifyFrame site fun fr => fr.define name f) :=
    .modifyFrame hout _
  have hf' := (hskirts.confined_le h (List.Subset.refl built)).function f hf
  have hgrounded : (st.modifyFrame site fun fr => fr.define name f).Grounded
      (st.world built) := by
    refine h.sound.grounded.modifyFrame site _ (fun _ => rfl) (h.sound.grounded.vars site) ?_
    intro e he
    rcases Bindings.mem_put he with rfl | hold
    · exact hf.1
    · exact h.sound.grounded.funcs site e hold
  have htidy : (st.modifyFrame site fun fr => fr.define name f).Tidy :=
    h.tidy.modifyFrame site fun _ hfr => hfr.define name f
  refine h.spares_of_grounded hskirts hgrounded (Nat.le_refl _) htidy fun vars funcs hholds => ?_
  refine hholds.modifyFrame site _ (fun e he => .inr he) fun e he => ?_
  rcases Bindings.mem_put he with rfl | hold
  · exact .inl hf'
  · exact .inr hold

theorem addFunction {fn : Function} (hh : fn.home = none) (hn : fn.native = none) :
    Spares S built st built (st.addFunction fn).2 := by
  have hskirts : Skirts S st (st.addFunction fn).2 := by
    constructor
    · exact Nat.le_refl _
    · simp [State.addFunction]
    · intro s _
      rfl
    · intro s _
      rfl
    · intro f hf
      rw [function_addFunction, if_neg (Nat.ne_of_lt hf)]
      exact .inl rfl
  have hnone : ∀ v, fn.native = some (.constant v) → v.Valid (st.world built) :=
    fun v hv => absurd (hn.symm.trans hv) (by simp)
  have hgrounded := h.sound.grounded.addFunction fn hh hnone
  refine h.spares_of_grounded hskirts hgrounded (Nat.le_refl _) h.tidy fun vars funcs hholds => ?_
  refine hholds.ofFrames (fun site hlive => .inl ⟨hlive, rfl⟩) fun f => ?_
  rw [function_addFunction]
  split
  · next hf =>
      rw [hn, st.function_of_size_le (Nat.le_of_eq hf.symm)]
      rfl
  · rfl

/-- A function without a home gets one outside. -/
theorem settle (f : FunctionId) (hs : (st.confined S built).scope s) :
    Spares S built st built (st.settle f s) := by
  have houter : ∀ t, t < st.scopes.size →
      ((st.settle f s).scope t).outer = (st.scope t).outer := fun _ _ => rfl
  have hskirts : Skirts S st (st.settle f s) := by
    constructor
    · exact Nat.le_refl _
    · simp
    · intro t _
      rfl
    · intro t _
      rfl
    · intro g _
      rw [function_settle]
      split
      · refine .inr fun t ht hin => ?_
        cases ht
        exact hs.2 ((inside_iff h.tidy houter hs.1).1 hin)
      · exact .inl rfl
  have hgrounded := h.sound.grounded.settle f hs.1
  refine h.spares_of_grounded hskirts hgrounded (Nat.le_refl _) h.tidy fun vars funcs hholds => ?_
  refine hholds.ofFrames (fun site hlive => .inl ⟨hlive, rfl⟩) fun g => ?_
  rw [function_settle]
  split
  · next hg => rw [hg.1]
  · rfl

/-- A function is declared outside. -/
theorem register (hsite : (st.confined S built).scope site.scope) {fn : Function}
    (hh : fn.home = none) (hn : fn.native = none) :
    Spares S built st built (st.register site fn) := by
  have hadded := h.addFunction hh hn
  have hsettled := hadded.keeps.settle (st.addFunction fn).1 (hadded.realm_le.scope _ hsite)
  have hrealm := Realm.le_trans hadded.realm_le hsettled.realm_le
  have hout := (hrealm.scope _ hsite).2
  -- Its home is the scope of the site, which is outside.
  have hf : (((st.addFunction fn).2.settle (st.addFunction fn).1 site.scope).confined S
      built).function (st.addFunction fn).1 := by
    have hlt : (st.addFunction fn).1 < (st.addFunction fn).2.functions.size := by
      simp [State.addFunction]
    have hfn : (st.addFunction fn).2.function (st.addFunction fn).1 = fn :=
      (st.function_addFunction fn st.functions.size).trans (if_pos rfl)
    refine ⟨by simpa using hlt, fun s hs => ?_⟩
    rw [function_settle, if_pos ⟨rfl, hlt, by rw [hfn]; exact hh⟩] at hs
    cases hs
    exact hout
  exact hadded.trans (hsettled.trans (hsettled.keeps.bindFunction hout _ hf))

section

variable (ho : ∀ o, outer = some o → (st.confined S built).scope o) (limit : Option Int)
include ho

/-- A scope that is added with an outside scope around it is outside. -/
theorem not_inside_newScope : ¬ (st.newScope outer limit).2.Inside S st.scopes.size := by
  have hnew : ((st.newScope outer limit).2.scope st.scopes.size).outer = outer := by
    unfold State.newScope
    rw [scope_addScope, if_pos rfl]
    rfl
  have houter : ∀ s, s < st.scopes.size →
      ((st.newScope outer limit).2.scope s).outer = (st.scope s).outer := by
    intro s hs
    unfold State.newScope
    rw [scope_addScope, if_neg (Nat.ne_of_lt hs)]
  intro hin
  cases hin with
  | here hs => exact Nat.lt_irrefl _ (h.lt_size _ hs)
  | outer heq hin =>
    rw [hnew] at heq
    obtain ⟨hlt, hout⟩ := ho _ heq
    exact hout ((inside_iff h.tidy houter hlt).1 hin)

theorem newScope (hb : built ⊆ built') (hsound : (st.newScope outer limit).2.Sound built') :
    Spares S built st built' (st.newScope outer limit).2 := by
  have hscope : ∀ s, s < st.scopes.size →
      (st.newScope outer limit).2.scope s = st.scope s := by
    intro s hs
    unfold State.newScope
    rw [scope_addScope, if_neg (Nat.ne_of_lt hs)]
  have hskirts : Skirts S st (st.newScope outer limit).2 := by
    constructor
    · simp [State.newScope, addScope]
    · exact Nat.le_refl _
    · intro s hs
      rw [hscope s hs]
    · intro s hs
      exact hscope s (hs.lt_size h.lt_size)
    · intro f _
      exact .inl rfl
  have htidy := h.tidy.newScope (fun o heq => (ho o heq).1) limit
  refine h.spares hskirts hb hsound htidy fun vars funcs hholds => ?_
  refine hholds.ofFrames (fun site hlive => ?_) fun _ => rfl
  by_cases hlt : site.scope < st.scopes.size
  · rw [Site.Live, hscope _ hlt] at hlive
    rw [frameAt, hscope _ hlt]
    exact .inl ⟨⟨hlt, hlive.2⟩, rfl⟩
  · have hnew : site.scope < st.scopes.size + 1 := by
      simpa [State.newScope, addScope] using hlive.1
    have hs := Nat.le_antisymm (Nat.le_of_lt_succ hnew) (Nat.le_of_not_lt hlt)
    simp only [frameAt, State.newScope, scope_addScope, if_pos hs]
    exact .inr ⟨-1, by cases site.frame <;> rfl⟩

end

theorem push (hout : ¬ st.Inside S s) (parent : Int) :
    Spares S built st built (st.push s parent) := by
  have hskirts : Skirts S st (st.push s parent) :=
    .modifyScope hout (by simp) rfl (fun t => st.scope_push s t parent) rfl
  have hgrounded := h.sound.grounded.push s parent
  have htidy := h.tidy.push h.sound.grounded s parent
  refine h.spares_of_grounded hskirts hgrounded (Nat.le_refl _) htidy fun vars funcs hholds => ?_
  refine hholds.ofFrames (fun site hlive => ?_) fun _ => rfl
  simp only [Site.Live, frameAt, scope_push, size_push] at hlive ⊢
  split at hlive
  · next hs =>
      rw [if_pos hs, Scope.frame_pushed _ (h.sound.grounded.live_le s)]
      split
      · exact .inr ⟨parent, rfl⟩
      · next hne =>
          obtain ⟨hlt, hlive⟩ := hlive
          rw [hs.1] at hlt ⊢
          exact .inl ⟨⟨hlt, Nat.lt_of_le_of_ne (Nat.le_of_lt_succ hlive) hne⟩, rfl⟩
  · next hs =>
      rw [if_neg hs]
      exact .inl ⟨hlive, rfl⟩

theorem release (hout : ¬ st.Inside S s) (i : Int) : Spares S built st built (st.release s i) := by
  have houter : ((st.scope s).release i).outer = (st.scope s).outer := by
    unfold Scope.release
    split <;> rfl
  have hskirts : Skirts S st (st.release s i) :=
    .modifyScope hout (by simp) (by simp) (fun t => st.scope_release s t i) houter
  have hgrounded := h.sound.grounded.release s i
  refine h.spares_of_grounded hskirts hgrounded (by simp) (h.tidy.release s i) ?_
  intro vars funcs hholds
  refine hholds.ofFrames (fun site hlive => .inl ?_) fun f => by simp [function]
  simp only [Site.Live, frameAt, scope_release, size_release] at hlive ⊢
  split at hlive
  · next hs =>
      rw [if_pos hs, Scope.frame_release, hs.1]
      exact ⟨⟨hs.2, Nat.lt_of_lt_of_le hlive.2 (Scope.live_release_le _ i)⟩, rfl⟩
  · next hs =>
      rw [if_neg hs]
      exact ⟨hlive, rfl⟩

end

section

variable {st' : State} {l : List Instance} {d : Instance} {place first : Nat}

variable (h : st.Sealed S built)
include h

/-- A copy is inside only if the scope around its original is. -/
theorem inside_of_placed (hplaced : Placed st l st' d place first)
    (hplace : st.scopes.size ≤ place) (hin : st'.Inside S place) :
    ∃ o, (st.scope d.scope).outer = some o ∧ st'.Inside S o := by
  cases hin with
  | here hs => exact absurd (h.lt_size _ hs) (Nat.not_lt.2 hplace)
  | @outer _ o ho hin =>
    rw [hplaced.scope] at ho
    exact ⟨o, ho, hin⟩

/-- What can be met in a copy could be met in its original. -/
theorem exposed_of_placed (hk : Skirts S st st') (hplaced : Placed st l st' d place first)
    (he : st'.Exposed S ⟨place, i⟩) : st.Exposed S ⟨d.scope, 0⟩ := by
  refine .inr ⟨rfl, fun o ho hin => ?_⟩
  have hin' := (inside_iff h.tidy hk.outer (hin.lt_size h.lt_size)).2 hin
  have ho' : (st'.scope place).outer = some o := by
    rw [hplaced.scope]
    exact ho
  rcases he with hout | ⟨_, hout⟩
  · exact hout (.outer ho' hin')
  · exact hout o ho' hin'

theorem vars_of_placed (hk : Skirts S st st') (hb : built ⊆ built') (hsound : st'.Sound built')
    (hd : d ∈ built) (hplaced : Placed st l st' d place first) (hsite : st'.Exposed S ⟨place, i⟩) :
    ∀ e ∈ (st'.frameAt ⟨place, i⟩).vars.entries, e.2.Within (st'.confined S built') := by
  intro e he
  have hvalid := hsound.grounded.vars ⟨place, i⟩ e he
  rw [frameAt, hplaced.scope] at he
  cases i with
  | succ i => cases he
  | zero =>
    obtain ⟨m, hm, rfl⟩ := List.mem_map.1 he
    have hwithin := h.holds.vars ⟨d.scope, 0⟩ (h.sound.live_root hd)
      (h.exposed_of_placed hk hplaced hsite) m (mem_membersFor.1 hm)
    exact within_twinValue (hwithin.mono (hk.confined_le h hb)) hvalid

/-- The functions of a copy run in its scope, so they are outside if it is. -/
theorem funcs_of_placed (hplaced : Placed st l st' d place first) {first' : Nat}
    (htwin : Placed st l st' d (st.twin l d).scope first') (hsite : ¬ st'.Inside S place) :
    ∀ e ∈ (st'.frameAt ⟨place, i⟩).funcs.entries, (st'.confined S built').function e.2 := by
  intro e he
  rw [frameAt, hplaced.scope] at he
  cases i with
  | succ i => cases he
  | zero =>
    obtain ⟨j, hj, rfl⟩ := List.mem_mapIdx.1 he
    refine ⟨Nat.lt_of_lt_of_le (Nat.add_lt_add_left hj first) hplaced.functions_le, ?_⟩
    intro s hs hin
    rw [hplaced.function j _ (List.getElem?_eq_getElem hj)] at hs
    cases hs
    -- The scope around the original is around both.
    obtain ⟨o, ho, hin⟩ := h.inside_of_placed htwin (Nat.le_add_right _ _) hin
    have ho' : (st'.scope place).outer = some o := by
      rw [hplaced.scope]
      exact ho
    exact hsite (.outer ho' hin)

end

theorem copy (h : st.Sealed S built) {c : Instance} (hc : c ∈ built) :
    Spares S built st (built ++ st.copies c) (st.copy c).2 := by
  obtain ⟨hlaid, _, _⟩ := copy_laidOut st c
  have hnew : ∀ s : Nat, st.scopes.size ≤ s → s < (st.copy c).2.scopes.size →
      ∃ d ∈ (st.tourFrom c).entered, ∃ first,
        Placed st (st.tourFrom c).entered (st.copy c).2 d s first :=
    fun s => exists_placed_of_new
  have htwin : ∀ d ∈ (st.tourFrom c).entered, ∃ first,
      Placed st (st.tourFrom c).entered (st.copy c).2 d
        (st.twin (st.tourFrom c).entered d).scope first :=
    fun d => copy_placed
  have hentered := (tourFrom_complete h.sound.closed h.sound.counted.length_le hc).1.subset
  have hsound := h.sound.copy hc
  have htidy := h.tidy.copy h.sound hc
  -- From here on only the layout counts, not how it came about.
  generalize (st.copy c).2 = st' at hlaid hnew htwin hsound htidy ⊢
  have hskirts : Skirts S st st' := by
    constructor
    · exact hlaid.scopes
    · exact hlaid.functions
    · intro s hs
      rw [hlaid.scope_old s hs]
    · intro s hs
      exact hlaid.scope_old s (hs.lt_size h.lt_size)
    · intro f hf
      rw [hlaid.function_old f hf]
      exact .inl rfl
  have hb := List.subset_append_left built (st.copies c)
  have hle := hskirts.confined_le h hb
  have hinside : ∀ s, s < st.scopes.size → (st'.Inside S s ↔ st.Inside S s) :=
    fun s hs => inside_iff h.tidy hskirts.outer hs
  refine ⟨fun s hs => ?_, hskirts.scope, hle, hsound, htidy, fun s hs => ?_, ?_, ?_, ?_⟩
  · exact (hinside s (hs.lt_size h.lt_size)).2 hs
  · exact Nat.lt_of_lt_of_le (h.lt_size s hs) hlaid.scopes
  · rintro ⟨s, i⟩ hlive hsite e he
    by_cases hold : s < st.scopes.size
    · rw [Site.Live, frameAt, hlaid.scope_old s hold] at *
      exact (h.holds.vars ⟨s, i⟩ ⟨hold, hlive.2⟩ (hskirts.exposed h hold hsite) e he).mono hle
    · obtain ⟨d, hd, first, hplaced⟩ := hnew s (Nat.le_of_not_lt hold) hlive.1
      exact h.vars_of_placed hskirts hb hsound (hentered hd) hplaced hsite e he
  · rintro ⟨s, i⟩ hlive hsite e he
    by_cases hold : s < st.scopes.size
    · rw [Site.Live, frameAt, hlaid.scope_old s hold] at *
      have hout : ¬ st.Inside S s := fun hin => hsite ((hinside s hold).2 hin)
      exact hle.function _ (h.holds.funcs ⟨s, i⟩ ⟨hold, hlive.2⟩ hout e he)
    · obtain ⟨d, hd, first, hplaced⟩ := hnew s (Nat.le_of_not_lt hold) hlive.1
      obtain ⟨first', htwin⟩ := htwin d hd
      exact h.funcs_of_placed hplaced htwin hsite e he
  · intro f v hv
    rcases hlaid.function_cases f with hf | ⟨d, _, ⟨_, g⟩, _, hf⟩
    · rw [hf] at hv
      exact (h.holds.native f v hv).mono hle
    · rw [hf] at hv
      exact (h.holds.native g v hv).mono hle

/-- An instance is started outside, or with no scope around it. -/
theorem allot (h : st.Sealed S built) (ho : ∀ o, outer = some o → (st.confined S built).scope o)
    (name : Bytes) (body : List Token) :
    Spares S built st (built ++ [st.nextInstance name body])
        (st.nextId.2.newScope outer).2 ∧
      ¬ (st.nextId.2.newScope outer).2.Inside S st.scopes.size := by
  have hid : Spares S built st built st.nextId.2 := h.aside rfl rfl (Nat.le_succ _)
  have ho' : ∀ o, outer = some o → (st.nextId.2.confined S built).scope o :=
    fun o heq => hid.realm_le.scope o (ho o heq)
  have hnew := hid.keeps.newScope ho' none (List.subset_append_left _ _)
    (h.sound.allot outer name body)
  exact ⟨hid.trans hnew, hid.keeps.not_inside_newScope ho' none⟩

/-- A function without a home gets a scope of its own. -/
theorem shelter (h : st.Sealed S built) (f : FunctionId) :
    Spares S built st built (st.shelter f) ∧
      ((st.shelter f).confined S built).scope st.scopes.size := by
  have hnone : ∀ o, none = some o → (st.confined S built).scope o := fun _ ho => nomatch ho
  have hsize : st.scopes.size < (st.newScope none none).2.scopes.size := by
    simp [State.newScope, addScope]
  have hsound : (st.newScope none none).2.Sound built :=
    h.sound.ofGrounded (h.sound.grounded.newScope none none) (st.world_le_newScope none none)
      (Nat.le_refl _)
  have hnew := h.newScope hnone none (List.Subset.refl _) hsound
  have hscope : ((st.newScope none none).2.confined S built).scope st.scopes.size :=
    ⟨hsize, h.not_inside_newScope hnone none⟩
  have hsettled := hnew.keeps.settle f hscope
  exact ⟨hnew.trans hsettled, hsettled.realm_le.scope _ hscope⟩

end Sealed

end State

end Quartz
