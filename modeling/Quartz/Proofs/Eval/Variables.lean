import Quartz.Proofs.Eval.Names
import Quartz.Proofs.Eval.Surroundings
import Quartz.Proofs.Eval.Trace

/-!
# `Quartz.Proofs.Eval.Variables`: the members that a variables block declares

A variables block is a list of settings: a name by itself, `x;`, or a name with a value,
`x = e;`. The two declare their names in different ways. With a value, the name is bound in the
root frame of the instance, whatever it means elsewhere. By itself it is an expression like any
other if it means something already, and only a name that means nothing becomes a member, which
is null then. So a member without a value is declared only if no global and no function of the
instance has its name (`members_of_variables`). `members_of_bare_global` is a class in which one
is not.

The proof follows the names in the root of the instance through the block. `State.Gains` says
which ones are added by a step, with those of the scopes outside and of the functions unchanged.
The right side of a setting may call anything, which changes no names (`retains_evaluate`).
-/

set_option autoImplicit false

namespace Quartz

/-! ### Settings -/

/-- A statement of a variables block: a name by itself, or a name with a value. -/
inductive Setting where
  | bare (name semi : Token) (hname : name.kind = .ident) (hsemi : semi.kind = .semicolon)
  | valued (name sign : Token) (right : List Token) (semi : Token) (hname : name.kind = .ident)
      (hsign : sign.kind = .assign) (hright : ∀ t ∈ right, t.kind ≠ .semicolon)
      (hsemi : semi.kind = .semicolon)

namespace Setting

/-- The tokens of a setting. -/
def render : Setting → List Token
  | bare name semi _ _ => [name, semi]
  | valued name sign right semi _ _ _ _ => name :: sign :: (right ++ [semi])

/-- The name that is set. -/
def name : Setting → Bytes
  | bare name _ _ _ => name.literal
  | valued name _ _ _ _ _ _ _ => name.literal

/-- Whether the name gets a value. -/
def isValued : Setting → Bool
  | bare _ _ _ _ => false
  | valued _ _ _ _ _ _ _ _ => true

end Setting

theorem State.Meaning.isSome_value? (m : Meaning) : m.value?.isSome = m.known := by
  cases m <;> rfl

section

variable {call : Caller} {site : Site} {shadow : Bool} {ends : Int} {p : Progress}
  {name sign semi : Token} {right rest : List Token} {st st' : State} {flow : Flow}

section

variable (hname : name.kind = .ident) (hsemi : semi.kind = .semicolon) (hp : p.pending = none)
include hname hsemi hp

/-- A name by itself that means something is an expression, and changes nothing. -/
theorem run_bare_of_known (hknown : (st.meaning site name.literal).known = true) :
    ∃ v, run call site shadow ends p (name :: semi :: rest) st =
      run call site shadow ends ⟨none, some v⟩ rest st := by
  have hnot : opensParen (semi :: rest) = false := by simp [opensParen, hsemi]
  rw [← State.Meaning.isSome_value?] at hknown
  obtain ⟨v, hv⟩ := Option.isSome_iff_exists.1 hknown
  rw [State.Meaning.isSome_value?] at hknown
  have hphrase : phrase call site ends (name :: semi :: rest) st = .ok (v, semi :: rest) st := by
    rw [phrase, Eval.bind_of_ok (bare_operand_value call site ends _ hname (.inl hnot) hv),
      bare_binary_cons, hsemi]
    rfl
  have hassign : opensAssignment (semi :: rest) = false := by simp [opensAssignment, hsemi]
  have hnone : p.pending.isSome = false := by rw [hp]; rfl
  refine ⟨v, ?_⟩
  rw [run_of_phrase hnone (fun _ => ⟨hassign, by rw [hknown, Bool.true_or]⟩) hphrase, run_cons,
    hsemi]
  rfl

/-- A name by itself that means nothing is declared. -/
theorem run_bare_of_unknown (hunknown : (st.meaning site name.literal).known = false) :
    run call site shadow ends p (name :: semi :: rest) st =
      run call site shadow ends ⟨none, some .null⟩ rest
        (st.declare site name.literal .null) := by
  have hassign : opensAssignment (semi :: rest) = false := by simp [opensAssignment, hsemi]
  have hnot : opensParen (semi :: rest) = false := by simp [opensParen, hsemi]
  have hnone : p.pending.isSome = false := by rw [hp]; rfl
  rw [run_cons, hname]
  dsimp only
  rw [hassign, if_neg (by simp), Eval.get_bind_apply, mention, hunknown, hnot, if_neg (by simp),
    Eval.bind_of_ok (Progress.require_of_none hnone _ _ st)]
  have hdeclare : (modify (·.declare site name.literal .null) : Eval Unit) st =
      .ok () (st.declare site name.literal .null) := rfl
  rw [Eval.bind_of_ok hdeclare, bare_binary_cons, hsemi]
  show run call site shadow ends ⟨some .null, p.last⟩ (semi :: rest) _ = _
  rw [run_cons, hsemi]
  rfl

end

/-- A name with a value: the value is evaluated, and bound in the frame at hand. -/
theorem exists_of_run_valued (hname : name.kind = .ident) (hsign : sign.kind = .assign)
    (hright : ∀ t ∈ right, t.kind ≠ .semicolon) (hsemi : semi.kind = .semicolon)
    (hp : p.pending = none)
    (h : run call site true ends p (name :: sign :: (right ++ semi :: rest)) st = .ok flow st') :
    ∃ v mid, evaluate call site right st = .ok v mid ∧
      run call site true ends ⟨none, some v⟩ rest (mid.declare site name.literal v) =
        .ok flow st' := by
  have hassign : opensAssignment (sign :: (right ++ semi :: rest)) = true := by
    simp [opensAssignment, hsign]
  have hnone : p.pending.isSome = false := by rw [hp]; rfl
  have hcut : Bracket.terminated? (right ++ semi :: rest) = some (right, rest) :=
    Bracket.terminated?_eq_some_iff.2 ⟨semi, hsemi, rfl, hright⟩
  rw [run_cons, hname] at h
  dsimp only at h
  rw [hassign, if_pos rfl, assignment,
    Eval.bind_of_ok (Progress.require_of_none hnone _ _ st), hcut] at h
  cases right with
  | nil => cases h
  | cons t right =>
    obtain ⟨v, mid, hv, h⟩ := Eval.bind_eq_ok.1 h
    exact ⟨v, mid, hv, h⟩

end

/-! ### Names that an instance gains -/

/-- From the first state to the second, the root of scope `n` has gained the variables in `P` and
the functions in `F`. Nothing else about names has changed in the scopes up to `n`. -/
structure State.Gains (n : ScopeId) (P F : Bytes → Prop) (st st' : State) : Prop where
  rooted : st'.Rooted (n + 1)
  names : ∀ s, s < n → (st.scope s).SameNames (st'.scope s)
  outer : (st'.scope n).outer = (st.scope n).outer
  vars : ∀ x, (st'.scope n).root.vars.contains x = true ↔
    (st.scope n).root.vars.contains x = true ∨ P x
  funcs : ∀ x, (st'.scope n).root.funcs.contains x = true ↔
    (st.scope n).root.funcs.contains x = true ∨ F x

theorem State.Rooted.mono {base base' : Nat} {st : State} (h : st.Rooted base)
    (hle : base' ≤ base) : st.Rooted base' :=
  ⟨Nat.le_trans hle h.size, fun s hs => h.scope s (Nat.lt_of_lt_of_le hs hle)⟩

namespace State.Gains

variable {n : ScopeId} {P Q F G : Bytes → Prop} {st st' st'' : State}

theorem ofRetains (h : st.Retains (n + 1) st') :
    Gains n (fun _ => False) (fun _ => False) st st' where
  rooted := h.rooted
  names s hs := h.names s (Nat.lt_succ_of_lt hs)
  outer := (h.names n (Nat.lt_succ_self n)).outer
  vars x := by simp [(h.names n (Nat.lt_succ_self n)).vars x]
  funcs x := by simp [(h.names n (Nat.lt_succ_self n)).funcs x]

theorem trans (h : Gains n P F st st') (h' : Gains n Q G st' st'') :
    Gains n (fun x => P x ∨ Q x) (fun x => F x ∨ G x) st st'' where
  rooted := h'.rooted
  names s hs := (h.names s hs).trans (h'.names s hs)
  outer := h'.outer.trans h.outer
  vars x := by rw [h'.vars, h.vars, or_assoc]
  funcs x := by rw [h'.funcs, h.funcs, or_assoc]

/-- The same names, said in another way. A variable that was there before is no gain. -/
theorem congr (h : Gains n P F st st')
    (hvars : ∀ x, (st.scope n).root.vars.contains x = false → (P x ↔ Q x))
    (hfuncs : ∀ x, F x ↔ G x) : Gains n Q G st st' := by
  refine { h with vars := fun x => (h.vars x).trans ?_, funcs := fun x => ?_ }
  · cases hx : (st.scope n).root.vars.contains x with
    | true => simp
    | false => simp [hvars x hx]
  · rw [h.funcs, hfuncs]

variable (h : st.Rooted (n + 1))
include h

/-- The root of the scope is changed. -/
theorem modifyFrame {f : Frame → Frame} (hparent : ∀ fr, (f fr).parent = fr.parent)
    (hvars : ∀ fr x, (f fr).vars.contains x = true ↔ fr.vars.contains x = true ∨ P x)
    (hfuncs : ∀ fr x, (f fr).funcs.contains x = true ↔ fr.funcs.contains x = true ∨ F x) :
    Gains n P F st (st.modifyFrame ⟨n, 0⟩ f) := by
  have hscope := h.scope n (Nat.lt_succ_self n)
  have hsize : n < st.scopes.size := h.size
  have hslot : 0 < (st.scope n).slots.size := Nat.lt_of_lt_of_le hscope.live_pos hscope.live_le
  have hroot : ((st.modifyFrame ⟨n, 0⟩ f).scope n).root = f (st.scope n).root :=
    (st.frameAt_modifyFrame ⟨n, 0⟩ ⟨n, 0⟩ f).trans (if_pos ⟨rfl, hsize, hslot⟩)
  have hbelow : st.Retains n (st.modifyFrame ⟨n, 0⟩ f) :=
    .modifyFrame (h.mono (Nat.le_succ n)) hparent (.inr (.inl (Nat.le_refl n)))
  refine ⟨⟨by simpa [State.modifyFrame] using h.size, ?_⟩, hbelow.names, by simp, ?_, ?_⟩
  · intro s hs
    by_cases hn : s < n
    · exact hbelow.rooted.scope s hn
    · obtain rfl : s = n := by omega
      refine ⟨by simpa using hscope.live_pos, by simpa using hscope.live_le, ?_⟩
      rw [hroot, hparent]
      exact hscope.parent
  · intro x
    rw [hroot, hvars]
  · intro x
    rw [hroot, hfuncs]

theorem declare (name : Bytes) (v : Value) :
    Gains n (fun x => x = name) (fun _ => False) st (st.declare ⟨n, 0⟩ name v) := by
  refine modifyFrame h (fun _ => rfl) (fun fr x => ?_) fun fr x => by simp [Frame.declare]
  show (fr.vars.set name v).contains x = true ↔ _
  rw [Bindings.contains_set]
  by_cases hx : x = name <;> simp [hx]

theorem register (fn : Function) :
    Gains n (fun _ => False) (fun x => x = fn.name) st (st.register ⟨n, 0⟩ fn) := by
  have hname : ((st.addFunction fn).2.function st.functions.size).name = fn.name := by
    rw [function_addFunction, if_pos rfl]
  have hadded : st.Retains (n + 1) ((st.addFunction fn).2.settle st.functions.size n) :=
    .ofScopes h h.size fun _ _ => rfl
  have hbound : Gains n (fun _ => False) (fun x => x = fn.name)
      ((st.addFunction fn).2.settle st.functions.size n) (st.register ⟨n, 0⟩ fn) := by
    refine modifyFrame hadded.rooted (fun _ => rfl) (fun fr x => by simp [Frame.define]) ?_
    intro fr x
    show (fr.funcs.set ((st.addFunction fn).2.function st.functions.size).name
      st.functions.size).contains x = true ↔ _
    rw [hname, Bindings.contains_set]
    by_cases hx : x = fn.name <;> simp [hx]
  exact ((ofRetains hadded).trans hbound).congr (fun x _ => by simp) fun x => by simp

/-- What is known outside stays known, and nothing becomes known there. -/
theorem knownOutside (h' : Gains n P F st st') (x : Bytes) :
    st'.knownOutside n x = st.knownOutside n x := by
  have hbelow : st.Retains n st' := ⟨h'.rooted.mono (Nat.le_succ n), h'.names⟩
  exact knownOutside_congr h'.outer fun o ho => hbelow.known (h.mono (Nat.le_succ n)) ho x

end State.Gains

/-! ### The names of a block -/

/-- Whether a setting makes its name a member: always with a value, and otherwise only if the
name is none of a function of the instance, and means nothing outside. -/
def Setting.Declares (st : State) (n : ScopeId) (s : Setting) (x : Bytes) : Prop :=
  s.name = x ∧ (s.isValued = true ∨
    (st.knownOutside n x = false ∧ ¬ (st.scope n).root.funcs.contains x = true))

section

variable {call : Caller} {n : ScopeId} {ends : Int} {p : Progress} {st st' : State} {flow : Flow}

/-- The functions of the class are the first names of the instance. -/
theorem gains_of_defineAll (hst : st.Rooted (n + 1)) (owner : Nat) (ds : List FunctionDecl)
    (h : defineAll ⟨n, 0⟩ owner ds st = .ok () st') :
    State.Gains n (fun _ => False) (fun x => ∃ d ∈ ds, d.name = x) st st' := by
  induction ds generalizing st with
  | nil =>
    cases h
    exact (State.Gains.ofRetains (.refl hst)).congr (fun _ _ => Iff.rfl) fun x => by simp
  | cons d ds ih =>
    have hfirst := State.Gains.register hst { d.function with owner }
    refine (hfirst.trans (ih hfirst.rooted h)).congr (fun x _ => by simp) fun x => ?_
    rw [List.exists_mem_cons_iff]
    exact or_congr_left eq_comm

/-- Whether a setting declares its name is settled before the block. -/
theorem State.Gains.declares {P : Bytes → Prop} (h : st.Rooted (n + 1))
    (h' : Gains n P (fun _ => False) st st') (s : Setting) (x : Bytes) :
    s.Declares st' n x ↔ s.Declares st n x := by
  unfold Setting.Declares
  rw [h'.knownOutside h, h'.funcs, or_false]

/-- A name by itself becomes a member if it means nothing. -/
theorem gains_of_bare (hst : st.Rooted (n + 1)) {name semi : Token} (hname : name.kind = .ident)
    (hsemi : semi.kind = .semicolon) {rest : List Token} (hp : p.pending = none)
    (h : run call ⟨n, 0⟩ true ends p (name :: semi :: rest) st = .ok flow st') :
    ∃ q mid, q.pending = none ∧ State.Gains n ((Setting.bare name semi hname hsemi).Declares st n)
      (fun _ => False) st mid ∧ run call ⟨n, 0⟩ true ends q rest mid = .ok flow st' := by
  have hknown := State.known_root (hst.scope n (Nat.lt_succ_self n)) name.literal
  cases hm : (st.meaning ⟨n, 0⟩ name.literal).known with
  | true =>
    obtain ⟨v, hrun⟩ := @run_bare_of_known call _ true ends _ _ _ rest _ hname hsemi hp hm
    rw [hrun] at h
    refine ⟨_, st, rfl, (State.Gains.ofRetains (.refl hst)).congr (fun x hx => ?_)
      fun _ => Iff.rfl, h⟩
    -- What is known and no variable of the instance is a function of it, or known outside.
    rw [hm] at hknown
    refine iff_of_false id ?_
    rintro ⟨rfl, hvalued | ⟨houtside, hfuncs⟩⟩
    · cases hvalued
    · change (st.scope n).root.vars.contains name.literal = false at hx
      change st.knownOutside n name.literal = false at houtside
      change ¬ (st.scope n).root.funcs.contains name.literal = true at hfuncs
      simp [hx, houtside, hfuncs] at hknown
  | false =>
    rw [run_bare_of_unknown hname hsemi hp hm] at h
    refine ⟨_, _, rfl, (State.Gains.declare hst name.literal .null).congr (fun x _ => ?_)
      fun _ => Iff.rfl, h⟩
    have hunknown := hknown.symm.trans hm
    simp only [Bool.or_eq_false_iff] at hunknown
    constructor
    · rintro rfl
      exact ⟨rfl, .inr ⟨hunknown.2, by simp [hunknown.1.2]⟩⟩
    · exact fun hx => hx.1.symm

variable (hcall : call.Retaining (n + 1)) (hst : st.Rooted (n + 1))
include hcall hst

/-- A name with a value becomes a member, whatever the value calls. -/
theorem gains_of_valued {name sign semi : Token} {right : List Token} (hname : name.kind = .ident)
    (hsign : sign.kind = .assign) (hright : ∀ t ∈ right, t.kind ≠ .semicolon)
    (hsemi : semi.kind = .semicolon) {rest : List Token} (hp : p.pending = none)
    (h : run call ⟨n, 0⟩ true ends p (name :: sign :: (right ++ semi :: rest)) st = .ok flow st') :
    ∃ q mid, q.pending = none ∧ State.Gains n
      ((Setting.valued name sign right semi hname hsign hright hsemi).Declares st n)
      (fun _ => False) st mid ∧ run call ⟨n, 0⟩ true ends q rest mid = .ok flow st' := by
  obtain ⟨v, mid, hv, hrun⟩ := exists_of_run_valued hname hsign hright hsemi hp h
  obtain ⟨_, hmid, _⟩ := Eval.Ends.exists_of_ok (retains_evaluate hcall _ right st hst) hv
  have hgains := (State.Gains.ofRetains hmid).trans (.declare hmid.rooted name.literal v)
  refine ⟨_, _, rfl, hgains.congr (fun x _ => ?_) fun x => by simp, hrun⟩
  rw [false_or]
  exact ⟨fun hx => ⟨hx.symm, .inl rfl⟩, fun hx => hx.1.symm⟩

theorem gains_of_setting (s : Setting) {rest : List Token} (hp : p.pending = none)
    (h : run call ⟨n, 0⟩ true ends p (s.render ++ rest) st = .ok flow st') :
    ∃ q mid, q.pending = none ∧ State.Gains n (s.Declares st n) (fun _ => False) st mid ∧
      run call ⟨n, 0⟩ true ends q rest mid = .ok flow st' := by
  cases s with
  | bare name semi hname hsemi => exact gains_of_bare hst hname hsemi hp h
  | valued name sign right semi hname hsign hright hsemi =>
    apply gains_of_valued hcall hst hname hsign hright hsemi hp
    simpa [Setting.render] using h

/-- A block of settings: the instance gains what they declare. -/
theorem gains_of_settings (settings : List Setting) (hp : p.pending = none)
    (h : run call ⟨n, 0⟩ true ends p (settings.flatMap Setting.render) st = .ok flow st') :
    State.Gains n (fun x => ∃ s ∈ settings, s.Declares st n x) (fun _ => False) st st' := by
  induction settings generalizing p st with
  | nil =>
    rw [List.flatMap_nil, run_nil] at h
    cases h
    exact (State.Gains.ofRetains (.refl hst)).congr (fun x _ => by simp) fun _ => Iff.rfl
  | cons s settings ih =>
    rw [List.flatMap_cons] at h
    obtain ⟨q, mid, hq, hgains, hrun⟩ := gains_of_setting hcall hst s hp h
    refine (hgains.trans (ih hgains.rooted hq hrun)).congr (fun x _ => ?_) fun x => by simp
    have hsame : (∃ u ∈ settings, u.Declares mid n x) ↔ ∃ u ∈ settings, u.Declares st n x := by
      simp only [hgains.declares hst]
    rw [hsame, List.exists_mem_cons_iff]

theorem gains_of_setUp {name : Bytes} {settings : List Setting}
    (h : setUp call name n (some (settings.flatMap Setting.render)) st = .ok () st') :
    State.Gains n (fun x => ∃ s ∈ settings, s.Declares st n x) (fun _ => False) st st' := by
  obtain ⟨flow, mid, hrun, h⟩ := Eval.bind_eq_ok.1 h
  have hblock := Eval.mapFault_eq_ok.1 hrun
  cases flow with
  | returned v offset => cases h
  | finished q =>
    cases h
    exact gains_of_settings hcall hst settings rfl hblock

end

/-! ### The members of a new instance -/

section

variable {built : List Instance} {st st' : State} {globals : Option ScopeId}

/-- Whether a name means anything to a class that is built against a scope. -/
def State.knows (st : State) (globals : Option ScopeId) (x : Bytes) : Bool :=
  match globals with
  | none => false
  | some g => (st.meaning ⟨g, 0⟩ x).known

/-- In reachable states all scopes are rooted. -/
theorem Reachable.rooted (h : Reachable built st) : st.Rooted st.scopes.size :=
  have hg := h.sound.grounded
  ⟨Nat.le_refl _, fun s _ => ⟨hg.live_pos s, hg.live_le s, hg.root_parent s⟩⟩

/-- The scope of a new instance has no names yet, and knows outside what the globals know. -/
theorem Reachable.allot (h : Reachable built st)
    (hglobals : ∀ g, globals = some g → g < st.scopes.size) :
    (st.nextId.2.newScope globals).2.Rooted (st.scopes.size + 1) ∧
      ((st.nextId.2.newScope globals).2.scope st.scopes.size).root = Frame.fresh (-1) ∧
      ∀ x, (st.nextId.2.newScope globals).2.knownOutside st.scopes.size x = st.knows globals x := by
  have hid : st.Retains st.scopes.size st.nextId.2 :=
    .ofScopes h.rooted (Nat.le_refl _) fun _ _ => rfl
  have hnew := hid.trans (State.Retains.newScope hid.rooted globals)
  have hscope : ∃ limit, (st.nextId.2.newScope globals).2.scope st.scopes.size =
      Scope.fresh globals limit := ⟨_, (st.nextId.2.scope_addScope _ _).trans (if_pos rfl)⟩
  obtain ⟨limit, hscope⟩ := hscope
  refine ⟨⟨?_, fun s hs => ?_⟩, by rw [hscope]; rfl, fun x => ?_⟩
  · simp [State.newScope, State.addScope, State.nextId]
  · by_cases hlt : s < st.scopes.size
    · exact hnew.rooted.scope s hlt
    · obtain rfl : s = st.scopes.size := by omega
      rw [hscope]
      exact ⟨Nat.zero_lt_one, Nat.le_refl 1, (by decide : (-1 : Int) < 0)⟩
  · unfold State.knownOutside State.knows
    rw [hscope]
    cases globals with
    | none => rfl
    | some g =>
      have hg := hglobals g rfl
      show (decide (g < st.scopes.size) && _) = _
      rw [hnew.known h.rooted hg, decide_eq_true hg, Bool.true_and]

/-- One scope, with one global in it. -/
theorem Reachable.global (limit : Nat) (name : Bytes) :
    Reachable [] ((({} : State).newScope none (some limit)).2.declare ⟨0, 0⟩ name .null) := by
  have hscope : Reachable [] (({} : State).newScope none (some limit)).2 :=
    .step (.initial rfl rfl) (.newScope none (some limit) (by simp))
  exact hscope.step (.script (.declare ⟨Nat.zero_lt_one, Nat.zero_lt_one⟩ name trivial))

/-- A variable in the root of an instance is what its name means there. -/
theorem State.meaning_root {s : ScopeId} (h : (st.scope s).Rooted) {x : Bytes} {v : Value}
    (hx : (st.scope s).root.vars.get? x = some v) : st.meaning ⟨s, 0⟩ x = .variable v := by
  have hhas : (st.scope s).root.vars.contains x = true := by simp [Bindings.contains, hx]
  have hholder : st.holder? ⟨s, 0⟩ x = some ⟨s, 0⟩ := by
    show st.seek (fun f => f.vars.contains x) s (0 : Nat) = _
    rw [State.seek, Int.natCast_zero, h.seek, if_pos hhas]
  have hvalue : st.value? ⟨s, 0⟩ x = some v := by
    rw [State.value?, hholder]
    exact hx
  rw [State.meaning, hvalue]

/-- **The members of a new instance.** Let the variables block of a class be made of statements
`x;` and `x = e;`, and let an instance be built against a scope, with any variables and functions
in it, or against none. Then the variables of the instance are these: every name that gets a
value in the block, and those names by themselves that mean nothing in the scope and are not
names of functions of the class. In the instance, a name of a variable means this variable,
whatever it means outside. -/
theorem members_of_variables (h : Reachable built st)
    (hglobals : ∀ g, globals = some g → g < st.scopes.size) {name : Bytes} {body : List Token}
    {m : Members} (hscan : Members.scan body = .ok m) {settings : List Setting}
    (hblock : m.block = some (settings.flatMap Setting.render)) {c : Instance}
    (hok : newInstance name body globals st = .ok c st') :
    (∀ x, ((st'.members c).vars.get? x).isSome = true ↔ ∃ s ∈ settings, s.name = x ∧
      (s.isValued = true ∨ (st.knows globals x = false ∧ ∀ d ∈ m.functions, d.name ≠ x))) ∧
    ∀ x v, (st'.members c).vars.get? x = some v → st'.meaning ⟨c.scope, 0⟩ x = .variable v := by
  rw [newInstance_apply] at hok
  obtain ⟨rfl, m', defined, prepared, hscan', hdefine, hsetUp, hscopes⟩ := exists_of_furnish hok
  obtain rfl : m' = m := Except.ok.inj (hscan'.symm.trans hscan)
  rw [hblock] at hsetUp
  obtain ⟨hrooted, hroot, houtside⟩ := h.allot hglobals
  have hcall := retains_callAt (st.scopes.size + 1)
    ((st.scope (globals.getD 0)).limit + spareLevels)
  have hdefined := gains_of_defineAll hrooted _ _ hdefine
  have hprepared := gains_of_setUp hcall hdefined.rooted hsetUp
  have hscope : ∀ s, st'.scope s = prepared.scope s := fun s => by
    rw [State.scope, hscopes, State.scope]
  -- The functions of the class are all that the instance has when the block starts.
  have hfuncs : ∀ x, (defined.scope st.scopes.size).root.funcs.contains x = true ↔
      ∃ d ∈ m'.functions, d.name = x := by
    intro x
    rw [hdefined.funcs, hroot]
    simp [Frame.fresh, Bindings.contains]
  have hdeclares : ∀ s x, Setting.Declares defined st.scopes.size s x ↔ s.name = x ∧
      (s.isValued = true ∨ (st.knows globals x = false ∧ ∀ d ∈ m'.functions, d.name ≠ x)) := by
    intro s x
    unfold Setting.Declares
    rw [hdefined.knownOutside hrooted, houtside, hfuncs]
    simp
  constructor
  · intro x
    show (st'.scope st.scopes.size).root.vars.contains x = true ↔ _
    rw [hscope, hprepared.vars, hdefined.vars, hroot]
    simp [Frame.fresh, Bindings.contains, hdeclares]
  · intro x v hx
    apply State.meaning_root _ hx
    rw [hscope]
    exact hprepared.rooted.scope _ (Nat.lt_succ_self _)

/-- With globals `k` and `j`: a value makes `k` a member, `j` by itself is none, and `n` is. -/
theorem members_of_variables_mixed :
    let token (kind : Kind) (literal : String) : Token := ⟨kind, utf8 literal, 0⟩
    let settings : List Setting :=
      [.valued (token .ident "k") (token .assign "=") [token .keyword "true"] (token .semicolon ";")
          rfl rfl (by decide) rfl,
        .bare (token .ident "j") (token .semicolon ";") rfl rfl,
        .bare (token .ident "n") (token .semicolon ";") rfl rfl]
    let body := token .keyword "variables" :: token .leftBrace "\x7b" ::
      (settings.flatMap Setting.render ++ [token .rightBrace "\x7d"])
    let st := ((({} : State).newScope none (some 4)).2.declare ⟨0, 0⟩ (utf8 "k") .null).declare
      ⟨0, 0⟩ (utf8 "j") .null
    Reachable [] st ∧ Members.scan body = .ok ⟨[], some (settings.flatMap Setting.render)⟩ ∧
      ∃ c st', newInstance (utf8 "A") body (some 0) st = .ok c st' ∧
        (st'.members c).vars.names = [utf8 "k", utf8 "n"] ∧
        ∀ x, ((st'.members c).vars.get? x).isSome = true ↔ ∃ s ∈ settings, s.name = x ∧
          (s.isValued = true ∨
            (st.knows (some 0) x = false ∧ ∀ d ∈ [], FunctionDecl.name d ≠ x)) := by
  intro token settings body st
  have hst : Reachable [] st := (Reachable.global 4 (utf8 "k")).step
    (.script (.declare ⟨by decide, by decide⟩ (utf8 "j") trivial))
  have hscan : Members.scan body = .ok ⟨[], some (settings.flatMap Setting.render)⟩ := by
    decide +kernel
  have hnames : (result? (newInstance (utf8 "A") body (some 0) st)).map (fun c =>
      (((newInstance (utf8 "A") body (some 0)).after st).members c).vars.names) =
        some [utf8 "k", utf8 "n"] := by decide +kernel
  obtain ⟨c, st', hok, hmembers⟩ :=
    exists_of_map_result? (f := fun c st' => (st'.members c).vars.names) hnames
  exact ⟨hst, hscan, c, st', hok, hmembers,
    (members_of_variables hst (fun g hg => by cases hg; decide) hscan rfl hok).1⟩

/-- A global is named by itself in the block, and does not become a member. -/
theorem members_of_bare_global :
    let token (kind : Kind) (literal : String) : Token := ⟨kind, utf8 literal, 0⟩
    let setting : Setting := .bare (token .ident "x") (token .semicolon ";") rfl rfl
    let body := token .keyword "variables" :: token .leftBrace "\x7b" ::
      (setting.render ++ [token .rightBrace "\x7d"])
    let st := (({} : State).newScope none (some 4)).2.declare ⟨0, 0⟩ (utf8 "x") .null
    Reachable [] st ∧ Members.scan body = .ok ⟨[], some setting.render⟩ ∧
      ∃ c st', newInstance (utf8 "A") body (some 0) st = .ok c st' ∧
        (st'.members c).vars.names = [] := by
  intro token setting body st
  have hst : Reachable [] st := Reachable.global 4 (utf8 "x")
  have hscan : Members.scan body = .ok ⟨[], some setting.render⟩ := by decide +kernel
  have hnames : (result? (newInstance (utf8 "A") body (some 0) st)).map (fun c =>
      (((newInstance (utf8 "A") body (some 0)).after st).members c).vars.names) = some [] := by
    decide +kernel
  obtain ⟨c, st', hok, hmembers⟩ :=
    exists_of_map_result? (f := fun c st' => (st'.members c).vars.names) hnames
  exact ⟨hst, hscan, c, st', hok, hmembers⟩

end

end Quartz
