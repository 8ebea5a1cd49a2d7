import Quartz.Proofs.Eval.Independence
import Quartz.Proofs.Program.CallDepth
import Quartz.Proofs.Program.Terminate
import Quartz.Proofs.State.Owned

/-!
# `Quartz.Proofs.Program.Session`: what a host can make of a scope

A session starts with a new scope. In it a host evaluates sources, executes tokens, calls functions,
builds, copies and changes instances, and calls their members, one after the other, whether this
succeeds or fails (`HostAction`). It can use whatever values it was given before, and whatever it
finds in a frame (`Known`).

Ownership of functions is a regime that no script can break (`lawful_owning`), so each action keeps
it (`HostAction.answers`). What this means for the instances and the functions of a session is
`Session.instances_own_functions`.
-/

set_option autoImplicit false

namespace Quartz

/-! ### The regime -/

/-- States in which functions run in the scopes of the instances to which they belong. -/
def owning : Regime (List Instance) where
  holds built st := st.Owned built
  realm built st := st.confined ∅ built

namespace State

variable {built built' : List Instance} {st st' : State}

theorem Owned.onward (h : st'.Owned built') (hs : Spares ∅ built st built' st') :
    ∃ built', owning.Onward built st built' st' := ⟨built', h, hs.realm_le⟩

/-- No script can break ownership. Lookups need nothing but the seal. -/
theorem lawful_owning : owning.Lawful where
  meaning h := (lawful_sparing ∅ _ _).meaning (.refl h.isSealed)
  declare h site hs name _ hv := (h.declare site name hv).onward (h.isSealed.declare hs.2 name hv)
  assign h _ hs name _ hv := (h.declare _ name hv).onward (h.isSealed.assign hs name hv)
  register h _ hs _ hh hn _ ho := (h.register hs.1 hh hn ho).onward (h.isSealed.register hs hh hn)
  outermost h := (lawful_sparing ∅ _ _).outermost (.refl h.isSealed)
  allot h _ ho name body := by
    have hspares := (h.isSealed.allot ho name body).1
    have howned := h.allot (fun o heq => (ho o heq).1) name body
    exact ⟨_, ⟨howned, hspares.realm_le⟩, List.mem_append_right _ List.mem_cons_self,
      not_inside_empty _ _⟩
  started h := (lawful_sparing ∅ _ _).started (.refl h.isSealed)
  aside h hs hf hi :=
    (h.aside hs hf (Nat.le_of_eq hi.symm)).onward (h.isSealed.aside hs hf (Nat.le_of_eq hi.symm))
  copy h c hc := by
    have hsound := h.isSealed.sound
    obtain ⟨_, hmem, _⟩ := tourFrom_complete hsound.closed hsound.counted.length_le hc
    exact ⟨_, ⟨h.copy hc, (h.isSealed.copy hc).realm_le⟩,
      List.mem_append_right _ (Sound.mem_copies hmem)⟩
  member h := (lawful_sparing ∅ _ _).member (.refl h.isSealed)
  native h := (lawful_sparing ∅ _ _).native (.refl h.isSealed)
  body h := (lawful_sparing ∅ _ _).body (.refl h.isSealed)
  home h := (lawful_sparing ∅ _ _).home (.refl h.isSealed)
  shelter h f _ hh := by
    obtain ⟨hspares, hscope⟩ := h.isSealed.shelter f
    exact ⟨_, ⟨h.shelter hh, hspares.realm_le⟩, hscope⟩
  push h s hs := (h.push s 0).onward (h.isSealed.push hs.2 0)
  release h s hs i := (h.release s i).onward (h.isSealed.release hs.2 i)

end State

/-! ### Actions -/

/-- The value that a run gives, if it succeeds, and the state in which it ends. -/
def Eval.outcome {α : Type} (x : Eval α) (st : State) : Option α × State :=
  match x st with
  | .ok a st' => (some a, st')
  | .error _ st' => (none, st')

/-- The value of a run that succeeded. -/
def Ending.value? : Ending → Option Value
  | some (.ok v) => some v
  | _ => none

/-- What a host does. -/
inductive HostAction where
  /-- Evaluates a source, which may have the name of a file. -/
  | eval (s : ScopeId) (name source : Bytes)
  | execute (s : ScopeId) (ts : List Token)
  | call (f : FunctionId) (args : List Value)
  | invoke (f : FunctionId) (args : List Value)
  /-- Builds an instance from the body of a class. -/
  | build (globals : Option ScopeId) (name : Bytes) (body : List Token)
  | create (c : Instance)
  /-- Sets a member variable. -/
  | set (c : Instance) (name : Bytes) (v : Value)
  | member (c : Instance) (name : Bytes) (args : List Value)

/-- What an action gives, if it succeeds, and the state in which it ends. -/
def HostAction.perform (st : State) : HostAction → Option Value × State
  | .eval s name source =>
    let (ending, st) := Program.runSource name source s st
    (ending.value?, st)
  | .execute s ts => (Quartz.execute s ts).outcome st
  | .call f args => (callFunction f args).outcome st
  | .invoke f args => (invokeFunction f args).outcome st
  | .build globals name body =>
    Eval.outcome (do
      let c ← newInstance name body globals
      pure (.object c)) st
  | .create c =>
    Eval.outcome (do
      let d ← copyInstance c
      pure (.object d)) st
  | .set c name v => (none, st.declare ⟨c.scope, 0⟩ name v)
  | .member c name args => (callMember c name args).outcome st

/-- The values that a host can use: values that refer to nothing, those that it was given, and those
that it finds in a frame. -/
inductive Known (held : List Value) (st : State) : Value → Prop
  | plain {v : Value} (h : v.Plain) : Known held st v
  | held {v : Value} (h : v ∈ held) : Known held st v
  | bound {site : Site} {name : Bytes} {v : Value}
      (h : (name, v) ∈ (st.frameAt site).vars.entries) : Known held st v
  | function {site : Site} {name : Bytes} {f : FunctionId}
      (h : (name, f) ∈ (st.frameAt site).funcs.entries) : Known held st (.function f)

/-- An action that uses only scopes that exist and values that the host can use. -/
def HostAction.Given (held : List Value) (st : State) : HostAction → Prop
  | .eval s _ _ => s < st.scopes.size
  | .execute s _ => s < st.scopes.size
  | .call f args => Known held st (.function f) ∧ ∀ v ∈ args, Known held st v
  | .invoke f args => Known held st (.function f) ∧ ∀ v ∈ args, Known held st v
  | .build globals _ _ => ∀ s, globals = some s → s < st.scopes.size
  | .create c => Known held st (.object c)
  | .set c _ v => Known held st (.object c) ∧ Known held st v
  | .member c _ args => Known held st (.object c) ∧ ∀ v ∈ args, Known held st v

/-- The states that a host can bring about from a new scope, with the values that it was given on
the way. -/
inductive Session : List Value → State → Prop
  /-- A new scope with nothing in it. -/
  | bare {st : State} (hs : st.scopes = #[]) (hf : st.functions = #[]) (limit : Option Int) :
      Session [] (st.newScope none limit).2
  /-- A new scope with the functions that every script can call. -/
  | equipped {st : State} (hs : st.scopes = #[]) (hf : st.functions = #[]) (limit : Int) :
      Session [] (st.host limit)
  | step {held : List Value} {st : State} (h : Session held st) {action : HostAction}
      (hgiven : action.Given held st) :
      Session (held ++ (action.perform st).1.toList) (action.perform st).2

/-! ### What actions keep -/

/-- The property holds after an action, and what it gives is within the realm. -/
def Regime.Answers {κ : Type} (R : Regime κ) (k : κ) (st : State) (r : Option Value × State) :
    Prop :=
  ∃ k', R.Onward k st k' r.2 ∧ ∀ v, r.1 = some v → v.Within (R.realm k' r.2)

section

variable {κ : Type} {R : Regime κ} {k : κ} {st : State}

theorem Regime.Runs.answers {x : Eval Value} (hx : R.Runs k st (fun w v => v.Within w) x) :
    R.Answers k st (x.outcome st) := by
  unfold Regime.Runs Eval.Ends at hx
  unfold Regime.Answers Eval.outcome
  cases hrun : x st with
  | ok a st' =>
    rw [hrun] at hx
    obtain ⟨k', hon, ha⟩ := hx
    refine ⟨k', hon, fun v hv => ?_⟩
    cases hv
    exact ha
  | error stop st' =>
    rw [hrun] at hx
    obtain ⟨k', hon, _⟩ := hx
    refine ⟨k', hon, fun v hv => ?_⟩
    cases hv

/-- Where a failure is located does not matter for the value and the state. -/
theorem Eval.outcome_ending (x : Eval Value) (locate : Fault → Failure) (st : State) :
    (Ending.value? (x.ending locate st).1, (x.ending locate st).2) = x.outcome st := by
  unfold Eval.ending Eval.outcome
  cases x st with
  | ok v st' => rfl
  | error stop st' => cases stop <;> rfl

/-- A source that does not compile changes nothing, and any other is run. -/
theorem Program.runSource_cases (name source : Bytes) (s : ScopeId) (st : State) :
    (∃ f, runSource name source s st = (some (.error f), st)) ∨
      ∃ p : Program, runSource name source s st = p.run s st := by
  unfold runSource
  dsimp only
  split
  · next f _ => exact .inl ⟨f, rfl⟩
  · next p _ => exact .inr ⟨p, rfl⟩

end

section

variable {held : List Value} {built : List Instance} {st : State}

/-- Values that the host was given stay within the realm, and so all that it can use is. -/
theorem Known.within (h : st.Owned built) (hheld : ∀ v ∈ held, v.Within (st.confined ∅ built))
    {v : Value} (hv : Known held st v) : v.Within (st.confined ∅ built) := by
  cases hv with
  | plain hv => exact hv.within _
  | held hv => exact hheld v hv
  | bound hv =>
    exact State.within_confined (h.isSealed.sound.grounded.vars _ _ hv)
      fun _ _ s _ => st.not_inside_empty s
  | function hv =>
    exact ⟨h.isSealed.sound.grounded.funcs _ _ hv, fun s _ => st.not_inside_empty s⟩

/-- An action that is given what it uses keeps ownership, whether it succeeds or fails, and gives a
value that exists. -/
theorem HostAction.answers (h : st.Owned built)
    (hheld : ∀ v ∈ held, v.Within (st.confined ∅ built)) {action : HostAction}
    (hgiven : action.Given held st) : owning.Answers built st (action.perform st) := by
  have hlaw := State.lawful_owning
  have hscope : ∀ s, s < st.scopes.size → (st.confined ∅ built).scope s :=
    fun s hs => ⟨hs, st.not_inside_empty s⟩
  have hreads : ∀ ts, (owning.realm built st).Reads ts := fun _ _ _ => trivial
  have hknown : ∀ {v}, Known held st v → v.Within (owning.realm built st) := Known.within h hheld
  have hcall : ∀ n, (callAt n).Under owning := hlaw.under_callAt
  cases action with
  | eval s name source =>
    show owning.Answers built st (Ending.value? (Program.runSource name source s st).1,
      (Program.runSource name source s st).2)
    rcases Program.runSource_cases name source s st with ⟨f, hrun⟩ | ⟨p, hrun⟩
    · rw [hrun]
      exact ⟨built, .refl h, fun v hv => by cases hv⟩
    · rw [hrun, Program.run, Eval.outcome_ending]
      exact (hlaw.runs_program h (hscope s hgiven) (fun d _ => hreads d.body)
        (fun d _ => hreads d.body) (hreads p.main)).answers
  | execute s ts => exact (hlaw.runs_execute h (hscope s hgiven) (hreads ts)).answers
  | call f args =>
    have hrun := hcall ((st.scope (st.homeOrFirst f)).limit + spareLevels) f args built st h
      (hknown hgiven.1) fun v hv => hknown (hgiven.2 v hv)
    exact (Regime.Runs.get hrun).answers
  | invoke f args =>
    have hrun := hlaw.under_invoke (hcall ((st.scope (st.homeOrFirst f)).limit + spareLevels)) f
      args built st h (hknown hgiven.1) fun v hv => hknown (hgiven.2 v hv)
    exact (Regime.Runs.get hrun).answers
  | build globals name body =>
    have hrun := hlaw.runs_newInstance h (fun s hs => hscope s (hgiven s hs)) name (hreads body)
    exact (hrun.bind fun c _ _ hon hc => .pure hon.holds hc.1).answers
  | create c =>
    have hrun : owning.Runs built st (fun w d => w.object d) (copyInstance c) :=
      hlaw.copy h (hknown hgiven)
    exact (hrun.bind fun d _ _ hon hd => .pure hon.holds hd).answers
  | set c name v =>
    have hc : c ∈ built := hknown hgiven.1
    have hsite := hscope c.scope (h.isSealed.sound.counted.scope_lt c hc)
    obtain ⟨built', hon⟩ := @hlaw.declare _ _ h ⟨c.scope, 0⟩ hsite name v (hknown hgiven.2)
    exact ⟨built', hon, fun v hv => by cases hv⟩
  | member c name args =>
    have hc : c ∈ built := hknown hgiven.1
    have hsite := hscope c.scope (h.isSealed.sound.counted.scope_lt c hc)
    rw [← h.isSealed.sound.counted.table c hc] at hsite
    exact (hlaw.runs_callMember h hsite name fun v hv => hknown (hgiven.2 v hv)).answers

end

/-! ### Sessions -/

/-- A state that can come about without instances, with a first scope, and in which no function
belongs to an instance. -/
structure State.Unowned (st : State) : Prop where
  reachable : Reachable [] st
  size_pos : 0 < st.scopes.size
  owner : ∀ f, (st.function f).owner = 0

namespace State.Unowned

variable {st : State}

theorem newScope (hs : st.scopes = #[]) (hf : st.functions = #[]) (limit : Option Int) :
    (st.newScope none limit).2.Unowned where
  reachable := .step (.initial hs hf) (.newScope none limit (by simp))
  size_pos := by simp [State.newScope, State.addScope]
  owner f := by
    rw [State.function_of_size_le _ (by simp [State.newScope, State.addScope, hf])]
    rfl

theorem provide (h : st.Unowned) (name : Bytes) (native : Native)
    (hn : ∀ v, native ≠ .constant v) : (st.provide name native).Unowned where
  reachable := h.reachable.provide h.size_pos name native hn
  size_pos := by
    simpa [State.provide, State.register, State.define, State.modifyFrame, State.settle,
      State.addFunction] using h.size_pos
  owner f := by
    rw [State.provide, State.function_register _ _ rfl]
    split
    · rfl
    · exact h.owner f

theorem report (h : st.Unowned) (e : Log.Event) : (st.report e).Unowned :=
  ⟨h.reachable.step (.report e), h.size_pos, h.owner⟩

theorem host (hs : st.scopes = #[]) (hf : st.functions = #[]) (limit : Int) :
    (st.host limit).Unowned := by
  have hprint := (newScope hs hf (some limit)).provide (utf8 "print") .print (by simp)
  have htypeOf := hprint.provide (utf8 "typeof") .typeOf (by simp)
  have hcreate := htypeOf.provide (utf8 "create") .create (by simp)
  have hhost : st.host limit = ((((st.newScope none (some limit)).2.provide (utf8 "print")
      .print).provide (utf8 "typeof") .typeOf).provide (utf8 "create") .create).report
        (.builtinsRegistered 3) := by
    have hsize : st.scopes.size = 0 := by simp [hs]
    rw [State.host, hsize]
    rfl
  rw [hhost]
  exact hcreate.report _

theorem owned (h : st.Unowned) : st.Owned [] :=
  .ofNone h.reachable.sound h.reachable.tidy h.owner

end State.Unowned

/-- Throughout a session functions run in the scopes of the instances to which they belong, and the
host is given only what exists. -/
theorem Session.owned {held : List Value} {st : State} (h : Session held st) :
    ∃ built, st.Owned built ∧ ∀ v ∈ held, v.Within (st.confined ∅ built) := by
  induction h with
  | bare hs hf limit => exact ⟨[], (State.Unowned.newScope hs hf limit).owned, by simp⟩
  | equipped hs hf limit => exact ⟨[], (State.Unowned.host hs hf limit).owned, by simp⟩
  | step _ hgiven ih =>
    obtain ⟨built, hst, hheld⟩ := ih
    obtain ⟨built', hon, hanswer⟩ := HostAction.answers hst hheld hgiven
    refine ⟨built', hon.holds, fun v hv => ?_⟩
    rcases List.mem_append.1 hv with hv | hv
    · exact (hheld v hv).mono hon.realm_le
    · exact hanswer v (Option.mem_toList.1 hv)

/-- What holds of an instance in a state. -/
structure Instance.Consistent (st : State) (c : Instance) : Prop where
  id_pos : 0 < c.id
  id_le : c.id ≤ st.lastId
  scope_lt : c.scope < st.scopes.size
  /-- The functions that can be called as members are those of the root frame of its scope. -/
  table : ∀ name f, (st.functionsOf c).get? name = some f ↔
    (name, f) ∈ (st.frameAt ⟨c.scope, 0⟩).funcs.entries
  visible : ∀ name f, (st.functionsOf c).get? name = some f →
    st.function? ⟨c.scope, 0⟩ name = some f
  /-- Each of them has the name under which it stands, runs in the scope of the instance, and
  belongs to the instance or to none. -/
  function : ∀ name f, (st.functionsOf c).get? name = some f → (st.function f).MemberOf c name

theorem State.Owned.consistent {built : List Instance} {st : State} (h : st.Owned built)
    {c : Instance} (hc : c ∈ built) : c.Consistent st := by
  have hcounted := h.isSealed.sound.counted
  have htable := hcounted.functionsOf_eq hc
  constructor
  · exact h.id_pos c hc
  · exact hcounted.id_le c hc
  · exact hcounted.scope_lt c hc
  · intro name f
    rw [htable]
    exact Bindings.get?_eq_some_iff ((h.isSealed.tidy c.scope).keyed 0).funcs name f
  · intro name f hf
    exact h.isSealed.sound.grounded.function?_root (htable ▸ hf)
  · intro name f hf
    exact h.member c hc (name, f) (Bindings.mem_of_get? (htable ▸ hf))

/-- The instance that a value is. -/
def Value.instance? : Value → Option Instance
  | .object c => some c
  | _ => none

/-- An action that gave an instance gave it to the host. -/
theorem mem_held_of_instance? {given : Option Value} {c : Instance}
    (h : given.bind Value.instance? = some c) (held : List Value) :
    .object c ∈ held ++ given.toList := by
  obtain ⟨v, rfl, hv⟩ := Option.bind_eq_some_iff.1 h
  cases v with
  | object d =>
    cases hv
    simp
  | _ => cases hv

/-- **Instances own their functions.** In every state of a session, whatever the host did and
however it ended, all instances that the host can use are consistent, instances with the same id or
the same scope are the same, and functions that belong to the same instance run in the same
scope. -/
theorem Session.instances_own_functions {held : List Value} {st : State} (h : Session held st) :
    (∀ c, Known held st (.object c) → c.Consistent st) ∧
    (∀ c d, Known held st (.object c) → Known held st (.object d) →
      c.id = d.id ∨ c.scope = d.scope → c = d) ∧
    ∀ f g, (st.function f).owner ≠ 0 → (st.function f).owner = (st.function g).owner →
      ∃ s, (st.function f).home = some s ∧ (st.function g).home = some s := by
  obtain ⟨built, hst, hheld⟩ := h.owned
  have hbuilt : ∀ c, Known held st (.object c) → c ∈ built := fun c hc => hc.within hst hheld
  have hids := hst.isSealed.sound.counted.ids
  refine ⟨fun c hc => hst.consistent (hbuilt c hc), fun c d hc hd hsame => ?_, fun f g hf hfg => ?_⟩
  · rcases hsame with hid | hscope
    · exact hids c (hbuilt c hc) d (hbuilt d hd) hid
    · exact hst.scopes c (hbuilt c hc) d (hbuilt d hd) hscope
  · obtain ⟨c, hc, hcf, hhome⟩ := hst.owner f hf
    obtain ⟨d, hd, hdg, hhome'⟩ := hst.owner g (hfg ▸ hf)
    -- The same id is that of the same instance.
    have hcd : c = d := hids c hc d hd (by rw [← hcf, hfg, hdg])
    exact ⟨c.scope, hhome, hcd ▸ hhome'⟩

/-- An instance with a function of its own and one that its variables block declares, its copy,
which gets a reference back to it and is called, and a class that fails behind its functions. The
copy owns both of its functions, and the class that failed has used up an id. -/
theorem Session.instances_own_functions_copied :
    let body := Lexer.tokenize (utf8 ("function f() \x7b return n; \x7d " ++
      "variables \x7b n = true; function g() \x7b return f; \x7d \x7d"))
    let c : Instance := ⟨utf8 "C", 1, body, 1, 1⟩
    let d : Instance := ⟨utf8 "C", 2, body, 2, 2⟩
    let functions := [(utf8 "print", 0, some 0), (utf8 "typeof", 0, some 0),
      (utf8 "create", 0, some 0), (utf8 "f", 1, some 1), (utf8 "g", 0, some 1),
      (utf8 "f", 2, some 2), (utf8 "g", 2, some 2), (utf8 "h", 3, some 3)]
    let failing := utf8 "crystal D \x7b function h() \x7b \x7d variables \x7b k = nope(); \x7d \x7d"
    let built := (HostAction.build (some 0) (utf8 "C") body).perform (({} : State).host 8)
    let copied := (HostAction.create c).perform built.2
    let linked := (HostAction.set d (utf8 "n") (.object c)).perform copied.2
    let called := (HostAction.member d (utf8 "g") []).perform linked.2
    let failed := (HostAction.eval 0 [] failing).perform called.2
    ∃ held, Session held failed.2 ∧ Known held failed.2 (.object c) ∧
      Known held failed.2 (.object d) ∧ failed.1.isNone = true ∧ failed.2.lastId = 3 ∧
      failed.2.functions.toList.map (fun fn => (fn.name, fn.owner, fn.home)) = functions ∧
      c.Consistent failed.2 ∧ d.Consistent failed.2 ∧
      (∀ a, Known held failed.2 (.object a) → a.id = 2 → a = d) ∧
      ∃ s, (failed.2.function 5).home = some s ∧ (failed.2.function 6).home = some s := by
  intro body c d functions failing built copied linked called failed
  have hruns : built.1.bind Value.instance? = some c ∧ copied.1.bind Value.instance? = some d ∧
      0 < (({} : State).host 8).scopes.size ∧ 0 < called.2.scopes.size ∧
      (failed.2.function 5).owner ≠ 0 ∧
      (failed.2.function 5).owner = (failed.2.function 6).owner ∧
      failed.1.isNone = true ∧ failed.2.lastId = 3 ∧
      failed.2.functions.toList.map (fun fn => (fn.name, fn.owner, fn.home)) = functions := by
    decide +kernel
  have hbuild : (HostAction.build (some 0) (utf8 "C") body).perform (({} : State).host 8) = built :=
    rfl
  have hcopy : (HostAction.create c).perform built.2 = copied := rfl
  have hlink : (HostAction.set d (utf8 "n") (.object c)).perform copied.2 = linked := rfl
  have hcall : (HostAction.member d (utf8 "g") []).perform linked.2 = called := rfl
  have hfail : (HostAction.eval 0 [] failing).perform called.2 = failed := rfl
  -- From here on only what was computed counts.
  clear_value failed called linked copied built
  obtain ⟨hgaveC, hgaveD, hsize, hsize', howner, howners, hnone, hlast, hfunctions⟩ :=
    hruns
  have hc := mem_held_of_instance? hgaveC []
  have hd := mem_held_of_instance? hgaveD ([] ++ built.1.toList)
  have hstart : Session [] (({} : State).host 8) := .equipped rfl rfl 8
  have hbuilt := @Session.step _ _ hstart (.build (some 0) (utf8 "C") body)
    fun s hs => Option.some.inj hs ▸ hsize
  rw [hbuild] at hbuilt
  have hcopied := @Session.step _ _ hbuilt (.create c) (.held hc)
  rw [hcopy] at hcopied
  have hlinked := @Session.step _ _ hcopied (.set d (utf8 "n") (.object c))
    ⟨.held hd, .held (List.mem_append_left _ hc)⟩
  rw [hlink] at hlinked
  have hcalled := @Session.step _ _ hlinked (.member d (utf8 "g") [])
    ⟨.held (List.mem_append_left _ hd), by simp⟩
  rw [hcall] at hcalled
  have hfailed := @Session.step _ _ hcalled (.eval 0 [] failing) hsize'
  rw [hfail] at hfailed
  obtain ⟨held, hsub, hst⟩ : ∃ held, [] ++ built.1.toList ++ copied.1.toList ⊆ held ∧
      Session held failed.2 :=
    ⟨_, fun _ hv => List.mem_append_left _ (List.mem_append_left _ (List.mem_append_left _ hv)),
      hfailed⟩
  have hknownC : Known held failed.2 (.object c) := .held (hsub (List.mem_append_left _ hc))
  have hknownD : Known held failed.2 (.object d) := .held (hsub hd)
  obtain ⟨hconsistent, hids, hhomes⟩ := Session.instances_own_functions hst
  exact ⟨held, hst, hknownC, hknownD, hnone, hlast, hfunctions, hconsistent c hknownC,
    hconsistent d hknownD, fun a ha hid => hids a d ha hknownD (.inl hid),
    hhomes 5 6 howner howners⟩

end Quartz
