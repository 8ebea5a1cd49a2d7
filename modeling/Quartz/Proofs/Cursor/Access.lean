import Quartz.Proofs.Cursor.Simulation
import Quartz.Proofs.State.Tidy

/-!
# `Quartz.Proofs.Cursor.Access`: scopes, frames and functions that are there

The checks on the state pass in the states that scripts meet. A script runs at a shallow site, so
the walks along the parents of frames and outwards through scopes end and stay among live frames
(`seek_eq`, `globals_eq`), and what they find has a binding for the name (`meaning_eq`). The frame
in which it binds names is live (`simulates_declare`, `simulates_assign`, `simulates_defineAll`).

`Standing` is what these facts rest on. Of the functions that every script can call it says that
they take one argument, which is how they are registered.
-/

set_option autoImplicit false

namespace Quartz

/-! ### Functions that every script can call -/

/-- Whether a native function reads its first argument without asking if there is one. -/
def Native.readsArgument : Native → Bool
  | .print | .typeOf | .create => true
  | _ => false

/-- Native functions that read an argument are there with one parameter. -/
def State.Equipped (st : State) : Prop :=
  ∀ f native, (st.function f).native = some native → native.readsArgument = true →
    (st.function f).params.length = 1

namespace State.Equipped

variable {st st' : State}

variable (h : st.Equipped)
include h

/-- Each function has a body, or is native like one from before. -/
theorem ofFunctions
    (hf : ∀ f, (st'.function f).native = none ∨ ∃ g,
      (st'.function f).native = (st.function g).native ∧
        (st'.function f).params = (st.function g).params) : st'.Equipped := by
  intro f native hnative hreads
  rcases hf f with hnone | ⟨g, hg, hparams⟩
  · rw [hnone] at hnative
    cases hnative
  · rw [hparams]
    rw [hg] at hnative
    exact h g native hnative hreads

theorem ofEq (hf : st'.functions = st.functions) : st'.Equipped := by
  apply h.ofFunctions
  intro f
  have hfunction : st'.function f = st.function f := by
    rw [State.function, hf, State.function]
  exact .inr ⟨f, by rw [hfunction], by rw [hfunction]⟩

theorem settle (f : FunctionId) (s : ScopeId) : (st.settle f s).Equipped := by
  apply h.ofFunctions
  intro g
  rw [State.function_settle]
  split
  · exact .inr ⟨f, rfl, rfl⟩
  · exact .inr ⟨g, rfl, rfl⟩

theorem addFunction {fn : Function}
    (hfn : ∀ native, fn.native = some native → native.readsArgument = true → fn.params.length = 1) :
    (st.addFunction fn).2.Equipped := by
  intro f native hnative hreads
  rw [State.function_addFunction] at hnative ⊢
  split
  · next hf =>
      rw [if_pos hf] at hnative
      exact hfn native hnative hreads
  · next hf =>
      rw [if_neg hf] at hnative
      exact h f native hnative hreads

/-- A function is registered. -/
theorem register (site : Site) {fn : Function}
    (hfn : ∀ native, fn.native = some native → native.readsArgument = true → fn.params.length = 1) :
    (st.register site fn).Equipped :=
  ((h.addFunction hfn).settle _ _).ofEq rfl

theorem copy (c : Instance) : (st.copy c).2.Equipped := by
  have hlaid := (copy_laidOut st c).1
  generalize (st.copy c).2 = st' at hlaid ⊢
  apply h.ofFunctions
  intro f
  -- The functions of a copy are those of the original, at home elsewhere.
  rcases hlaid.function_cases f with hf | ⟨d, _, ⟨_, g⟩, _, hf⟩
  · exact .inr ⟨f, by rw [hf], by rw [hf]⟩
  · exact .inr ⟨g, by rw [hf]; rfl, by rw [hf]; rfl⟩

end State.Equipped

section

variable {built built' : List Instance} {st st' : State}

theorem Move.equipped (h : Move built st built' st') (he : st.Equipped) : st'.Equipped := by
  cases h with
  | declare hs name hv => exact he.ofEq rfl
  | register hs hh hn =>
    apply he.register
    intro native hnative
    rw [hn] at hnative
    cases hnative
  | allot ho name body => exact he.ofEq rfl
  | copy hc => exact he.copy _
  | @shelter f hf hh =>
    have hadded : (st.newScope none).2.Equipped := he.ofEq rfl
    exact hadded.settle f _
  | push hs hf parent => exact he.ofEq rfl
  | release hs hpos hl => exact he.ofEq (by simp)
  | print line => exact he.ofEq rfl
  | report hr => exact he.ofEq rfl

theorem Moves.equipped (h : Moves built st built' st') (he : st.Equipped) : st'.Equipped := by
  induction h with
  | refl => exact he
  | step _ hm ih => exact hm.equipped ih

theorem Moves.tidy (h : Moves built st built' st') (hst : st.Sound built) (ht : st.Tidy) :
    st'.Tidy := by
  induction h with
  | refl => exact ht
  | step hbefore hm ih => exact hm.tidy (hbefore.sound hst) ih

/-! ### States that scripts meet -/

/-- What the checks of a run at a site rest on. -/
structure Standing (built : List Instance) (st : State) (site : Site) : Prop where
  sound : st.Sound built
  tidy : st.Tidy
  equipped : st.Equipped
  shallow : site.Shallow st

namespace Standing

variable {site : Site}

variable (h : Standing built st site)
include h

theorem ofReaches {own : Option Site} (hreach : Reaches own built st built' st') :
    Standing built' st' site where
  sound := hreach.moves.sound h.sound
  tidy := hreach.moves.tidy h.sound h.tidy
  equipped := hreach.moves.equipped h.equipped
  shallow := hreach.keeps.shallow h.shallow

/-- The root frame of another scope. -/
theorem atRoot {s : ScopeId} (hs : s < st.scopes.size) : Standing built st ⟨s, 0⟩ :=
  { h with shallow := h.sound.shallow_root hs }

/-- A step of a script, and what follows it. -/
theorem bind {α β γ δ : Type} {R : α → β → Prop} {R' : γ → δ → Prop} {P : Realm → β → Prop}
    {x : Guarded α} {y : Eval β} {f : α → Guarded γ} {g : β → Eval δ} {call : Caller}
    {writes : Bool} (hcall : call.Keeping) (hy : Stepwise call writes (st.world built) site P y)
    (hx : Simulates R st x y)
    (hf : ∀ a b built' st', Standing built' st' site → st.world built ≤ st'.world built' →
      P (st'.world built') b → R a b → Simulates R' st' (f a) (g b)) :
    Simulates R' st (x >>= f) (y >>= g) := by
  apply hx.bind (hy.leads hcall built st rfl h.sound fun _ => h.shallow)
  intro a b built' st' hreach hb hab
  exact hf a b built' st' (h.ofReaches hreach) hreach.moves.world_le hb hab

/-- A step that checks nothing, and what follows it. -/
theorem bindEval {β γ δ : Type} {R' : γ → δ → Prop} {P : Realm → β → Prop} {y : Eval β}
    {f : β → Guarded γ} {g : β → Eval δ} {call : Caller} (hcall : call.Keeping)
    (hy : Stepwise call false (st.world built) site P y)
    (hf : ∀ b built' st', Standing built' st' site → st.world built ≤ st'.world built' →
      P (st'.world built') b → Simulates R' st' (f b) (g b)) :
    Simulates R' st (Guarded.ofEval y >>= f) (y >>= g) := by
  apply h.bind hcall hy (.ofEval y)
  rintro b _ built' st' hst' hle hb rfl
  exact hf b built' st' hst' hle hb

end Standing

end

/-! ### Frames and scopes -/

namespace Cursor

variable {st : State} {w : World} {s : ScopeId} {site : Site}

theorem scopeAt_eq (hs : s < st.scopes.size) : scopeAt s st = .ok (st.scope s) st := by
  unfold scopeAt
  rw [Guarded.bind_of_ok (Guarded.demand_of hs)]
  rfl

theorem frameAt_eq (h : site.Live st) : frameAt site st = .ok (st.frameAt site) st := by
  unfold frameAt
  rw [Guarded.bind_of_ok (scopeAt_eq h.1), if_pos h.2]
  rfl

/-- A search that goes below the frames finds nothing. -/
theorem seekFrame_of_neg (hs : s < st.scopes.size) (has : Frame → Bool) {i : Int} (hi : i < 0) :
    seekFrame has s i st = .ok none st := by
  rw [seekFrame, Guarded.bind_of_ok (scopeAt_eq hs), if_neg (by omega)]
  rfl

/-- One step of a search, at a live frame. -/
theorem seekFrame_of_live (has : Frame → Bool) {i : Nat} (h : Site.Live st ⟨s, i⟩)
    (hparent : (st.frameAt ⟨s, i⟩).parent < i) :
    seekFrame has s i st =
      if has (st.frameAt ⟨s, i⟩) then .ok (some i) st
      else seekFrame has s (st.frameAt ⟨s, i⟩).parent st := by
  have hlive : i < (st.scope s).live := h.2
  have hs : s < st.scopes.size := h.1
  rw [seekFrame, Guarded.bind_of_ok (scopeAt_eq hs), if_pos ⟨by omega, by omega⟩]
  refine (Guarded.bind_of_ok (frameAt_eq h)).trans ?_
  split
  · rfl
  · rw [Guarded.ensure_eq hparent, pure_bind]

/-- A search from the root looks at the root only. -/
theorem seekFrame_root (hg : st.Grounded w) (hs : s < st.scopes.size) (has : Frame → Bool)
    (steps : Nat) :
    seekFrame has s 0 st = .ok ((st.scope s).seek has (steps + 1) 0) st := by
  have hlive : Site.Live st ⟨s, 0⟩ := ⟨hs, hg.live_pos s⟩
  have hparent : (st.frameAt ⟨s, 0⟩).parent < 0 := hg.root_parent s
  refine (seekFrame_of_live has hlive hparent).trans ?_
  rw [seekFrame_of_neg hs has hparent, Scope.seek_root has hlive.2 hparent]
  show (if has (st.scope s).root then _ else _) = _
  split <;> rfl

/-- A search from a shallow site looks at the site and at the root, so it has steps enough. -/
theorem seekFrame_eq (hg : st.Grounded w) (h : site.Shallow st) (has : Frame → Bool) :
    seekFrame has site.scope site.frame st =
      .ok ((st.scope site.scope).seek has (st.scope site.scope).live site.frame) st := by
  obtain ⟨s, i⟩ := site
  have hlive : i < (st.scope s).live := h.live.2
  obtain ⟨steps, hsteps⟩ : ∃ steps, (st.scope s).live = steps + 1 :=
    ⟨(st.scope s).live - 1, by omega⟩
  cases i with
  | zero =>
    dsimp only
    rw [hsteps]
    exact seekFrame_root hg h.live.1 has steps
  | succ i =>
    have hparent : (st.frameAt ⟨s, i + 1⟩).parent = 0 := by
      rcases h.parent with hroot | hparent
      · cases hroot
      · exact hparent
    obtain ⟨more, hmore⟩ : ∃ more, steps = more + 1 := ⟨steps - 1, by omega⟩
    have hsearch := Scope.seek_of_live has hlive steps
    change _ = if has (st.frameAt ⟨s, i + 1⟩) then _ else
      (st.scope s).seek has steps (st.frameAt ⟨s, i + 1⟩).parent at hsearch
    dsimp only
    rw [hsteps, seekFrame_of_live has h.live (by omega), hsearch, hparent, hmore,
      seekFrame_root hg h.live.1 has more]
    split <;> rfl

/-- A search goes outwards through older and older scopes, from root to root. -/
theorem seek_eq (hg : st.Grounded w) (ht : st.Tidy) (h : site.Shallow st) (has : Frame → Bool) :
    seek has site.scope site.frame st = .ok (st.seek has site.scope site.frame) st := by
  induction hs : site.scope using Nat.strongRecOn generalizing site with
  | _ s ih =>
    subst hs
    rw [seek, State.seek, Guarded.bind_of_ok (seekFrame_eq hg h has)]
    cases (st.scope site.scope).seek has (st.scope site.scope).live site.frame with
    | some j => rfl
    | none =>
      dsimp only
      rw [Guarded.bind_of_ok (scopeAt_eq h.live.1)]
      cases houter : (st.scope site.scope).outer with
      | none => rfl
      | some o =>
        have hlt := (ht site.scope).outer_lt o houter
        have hroot : Site.Shallow st ⟨o, 0⟩ :=
          ⟨⟨Nat.lt_trans hlt h.live.1, hg.live_pos o⟩, .inl rfl⟩
        dsimp only
        rw [if_pos hlt, Guarded.ensure_eq hlt, pure_bind]
        exact ih o hlt hroot rfl

theorem globals_eq (ht : st.Tidy) (hs : s < st.scopes.size) :
    globals s st = .ok (st.outermost s) st := by
  induction s using Nat.strongRecOn with
  | _ s ih =>
    rw [globals, State.outermost, Guarded.bind_of_ok (scopeAt_eq hs)]
    cases houter : (st.scope s).outer with
    | none => rfl
    | some o =>
      have hlt := (ht s).outer_lt o houter
      dsimp only
      rw [if_pos hlt, Guarded.ensure_eq hlt, pure_bind]
      exact ih o hlt (Nat.lt_trans hlt hs)

/-! ### Names -/

/-- A name is bound where the search for it ends. -/
theorem lookUp_eq {α : Type} (table : Frame → Bindings α) (hg : st.Grounded w) (ht : st.Tidy)
    (h : site.Shallow st) (name : Bytes) :
    lookUp table site name st =
      .ok ((st.seek (fun f => (table f).contains name) site.scope site.frame).bind fun holder =>
        (table (st.frameAt holder)).get? name) st := by
  unfold lookUp
  rw [Guarded.bind_of_ok (seek_eq hg ht h _)]
  cases hseek : st.seek (fun f => (table f).contains name) site.scope site.frame with
  | none => rfl
  | some holder =>
    have hlive : holder.Live st := by
      rcases hg.seek_shallow h _ hseek with rfl | ⟨hframe, hle⟩
      · exact h.live
      · refine ⟨Nat.lt_of_le_of_lt hle h.live.1, ?_⟩
        rw [hframe]
        exact hg.live_pos _
    obtain ⟨a, ha⟩ := Option.isSome_iff_exists.1 (state_seek_has hseek).2
    have ha' : (table (st.frameAt holder)).get? name = some a := ha
    refine (Guarded.bind_of_ok (frameAt_eq hlive)).trans ?_
    rw [ha', Option.bind_some, ha']
    rfl

theorem meaning_eq (hg : st.Grounded w) (ht : st.Tidy) (h : site.Shallow st) (name : Bytes) :
    meaning site name st = .ok (st.meaning site name) st := by
  have hvars : lookUp Frame.vars site name st = .ok (st.value? site name) st :=
    lookUp_eq Frame.vars hg ht h name
  have hfuncs : lookUp Frame.funcs site name st = .ok (st.function? site name) st :=
    lookUp_eq Frame.funcs hg ht h name
  unfold meaning State.meaning
  rw [Guarded.bind_of_ok hvars]
  cases st.value? site name with
  | some v => rfl
  | none =>
    dsimp only
    rw [Guarded.bind_of_ok hfuncs]
    cases st.function? site name <;> rfl

/-! ### Bindings -/

theorem simulates_declare (h : site.Live st) (name : Bytes) (v : Value) :
    Simulates Eq st (declare site name v) (modify (·.declare site name v)) :=
  .ofOk (frameAt_eq h) ⟨(), rfl, rfl⟩

theorem simulates_assign (hg : st.Grounded w) (ht : st.Tidy) (h : site.Shallow st) (name : Bytes)
    (v : Value) : Simulates Eq st (assign site name v) (modify (·.assign site name v)) := by
  have hlive := (hg.holder?_of_shallow h name).1
  have hseek : seek (fun f => f.vars.contains name) site.scope site.frame st =
      .ok (st.holder? site name) st := seek_eq hg ht h _
  apply Simulates.ofOk hseek
  show Simulates Eq st _ (modify fun st' => st'.assign site name v)
  have hassign : (modify (·.assign site name v) : Eval Unit) st =
      (modify (·.declare ((st.holder? site name).getD site) name v) : Eval Unit) st := rfl
  unfold Simulates
  rw [hassign]
  cases hholder : st.holder? site name with
  | none =>
    rw [hholder] at hlive
    exact simulates_declare hlive name v
  | some holder =>
    rw [hholder] at hlive
    exact simulates_declare hlive name v

theorem simulates_store (hg : st.Grounded w) (ht : st.Tidy) (h : site.Shallow st) (shadow : Bool)
    (name : Bytes) (v : Value) :
    Simulates Eq st (store site shadow name v) (Quartz.store site shadow name v) := by
  unfold store Quartz.store
  cases shadow with
  | true => exact simulates_declare h.live name v
  | false => exact simulates_assign hg ht h name v

theorem simulates_defineAll {call : Quartz.Caller} (hcall : call.Keeping) {owner : Nat}
    (ds : List FunctionDecl) {built : List Instance} (h : Standing built st site)
    (ho : (st.world built).realm.Owner site owner) :
    Simulates Eq st (defineAll site owner ds) (Quartz.defineAll site owner ds) := by
  induction ds generalizing built st with
  | nil => exact .pure rfl
  | cons d ds ih =>
    have hstep : Stepwise call true (st.world built) site (fun _ _ => True)
        (modify (·.register site { d.function with owner })) :=
      .register rfl rfl rfl (World.reads _ d.body) ho
    apply Simulates.ofOk (frameAt_eq h.shallow.live)
    apply h.bind hcall hstep (R := Eq) ⟨(), rfl, rfl⟩
    intro _ _ built' st' hst' hle _ _
    exact ih hst' (ho.mono (World.realm_mono hle))

/-- A scope is handed out with a live root frame. -/
theorem simulates_allot {outer : ScopeId} (ho : outer < st.scopes.size) (name : Bytes)
    (body : List Token) :
    Simulates Eq st (allot outer name body) (Quartz.allot (some outer) name body) := by
  have hroot : Site.Live (st.nextId.2.newScope (some outer)).2 ⟨st.scopes.size, 0⟩ := by
    have hscope : (st.nextId.2.newScope (some outer)).2.scope st.scopes.size =
        Scope.fresh (some outer) (st.scope outer).limit :=
      (st.nextId.2.scope_addScope _ st.scopes.size).trans (if_pos rfl)
    constructor
    · simp [State.newScope, State.addScope, State.nextId]
    · rw [hscope]
      exact Nat.zero_lt_one
  have hid : (modifyGet (·.nextId) : Guarded Nat) st =
      .ok (st.lastId + 1) st.nextId.2 := rfl
  have hnew : (modifyGet (·.newScope (some outer)) : Guarded ScopeId) st.nextId.2 =
      .ok st.scopes.size (st.nextId.2.newScope (some outer)).2 := rfl
  have hallot : Quartz.allot (some outer) name body st =
      .ok (st.nextInstance name body) (st.nextId.2.newScope (some outer)).2 := rfl
  unfold Simulates allot
  rw [hallot, Guarded.bind_of_ok (scopeAt_eq ho), Guarded.bind_of_ok hid,
    Guarded.bind_of_ok hnew, Guarded.bind_of_ok (frameAt_eq hroot)]
  exact ⟨_, rfl, rfl⟩

end Cursor

end Quartz
