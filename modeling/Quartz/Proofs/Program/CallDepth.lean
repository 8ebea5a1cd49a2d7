import Quartz.Proofs.Eval.Nesting
import Quartz.Proofs.Program.Hoist

/-!
# `Quartz.Proofs.Program.CallDepth`: how deep the calls of a program nest

A program runs in a scope with a limit, and the scopes of its instances take over that
limit. The limit is one of frames per scope, its root among them, so each scope has one call
less in progress at a time. `calls_in_progress_le` bounds the calls of a whole program at
every point of its run, and says which calls are refused.

The bound is not the limit itself: a function of an instance that is left in a variable is
called across scopes, and with a limit of two frames three calls are in progress at a time
(`three_calls_in_progress`).
-/

set_option autoImplicit false

namespace Quartz

open Program

/-! ### The start of a run -/

/-- A state without scopes and functions that keeps every event. -/
def watched : State := { journal := { threshold := some .debug } }

/-- A scope with a limit and the functions that every script can call. -/
def prepared (m : Nat) : State := (registerBuiltins 0).after (watched.newScope none (some m)).2

section

variable {m : Nat}

/-- Registers a native function of one argument in the root frame of the first scope. -/
def State.provide (st : State) (name : Bytes) (native : Native) : State :=
  st.register ⟨0, 0⟩ (.ofNative name [⟨utf8 "value", Param.anyType⟩] native)

theorem prepared_eq (m : Nat) :
    prepared m = ((((watched.newScope none (some m)).2.provide (utf8 "print") .print).provide
      (utf8 "typeof") .typeOf).provide (utf8 "create") .create).report
        (.builtinsRegistered 3) := rfl

theorem Reachable.provide {st : State} (h : Reachable [] st) (hs : 0 < st.scopes.size)
    (name : Bytes) (native : Native) (hn : ∀ v, native ≠ .constant v) :
    Reachable [] (st.provide name native) := by
  have hadded : Reachable []
      (st.addFunction (.ofNative name [⟨utf8 "value", Param.anyType⟩] native)).2 :=
    h.step (.addFunction _ rfl fun v hv => absurd (Option.some.inj hv) (hn v))
  refine hadded.step (.define ⟨hs, h.sound.grounded.live_pos 0⟩ ?_)
  simp [State.addFunction]

theorem reachable_prepared (m : Nat) : Reachable [] (prepared m) := by
  have hstart : Reachable [] (watched.newScope none (some m)).2 :=
    .step (.initial rfl rfl) (.newScope none (some m) (by simp))
  have hprint := hstart.provide Nat.zero_lt_one (utf8 "print") .print nofun
  have htypeOf := hprint.provide Nat.zero_lt_one (utf8 "typeof") .typeOf nofun
  have hcreate := htypeOf.provide Nat.zero_lt_one (utf8 "create") .create nofun
  rw [prepared_eq]
  exact hcreate.step (.report _)

/-- A first scope alone, with its limit. -/
theorem uniform_newScope (hm : 1 ≤ m) : Uniform m (watched.newScope none (some m)).2 := by
  -- A limit of at least one is taken as it is.
  have hlimit : (watched.newScope none (some m)).2 = (watched.addScope (Scope.fresh none m)).2 := by
    unfold State.newScope
    dsimp only
    rw [if_pos (by omega), Int.toNat_natCast]
  have hscope : ∀ s, s < 1 → (watched.addScope (Scope.fresh none m)).2.scope s
      = Scope.fresh none m := by
    intro s hs
    rw [State.scope_addScope]
    exact if_pos (Nat.lt_one_iff.1 hs)
  rw [hlimit]
  constructor
  · rfl
  · rfl
  · intro s hs
    rw [hscope s hs]
    rfl
  · intro s hs
    rw [hscope s hs]
    exact hm
  · exact fun f hf => absurd hf (Nat.not_lt_zero f)
  · rfl
  · intro k
    have hempty : (watched.addScope (Scope.fresh none m)).2.journal.entries.toList = [] := rfl
    rw [hempty, List.take_nil]
    exact Int.natCast_nonneg _

theorem uniform_prepared (hm : 1 ≤ m) : Uniform m (prepared m) := by
  rw [prepared_eq]
  exact ((((uniform_newScope hm).register hm _).register hm _).register hm _).report hm rfl

theorem hosts_prepared (hm : 1 ≤ m) : Hosts 0 m [] (prepared m) where
  sound := (reachable_prepared m).sound
  lt_size := Nat.zero_lt_one
  outer := rfl
  limit := (uniform_prepared hm).limit 0 Nat.zero_lt_one

end

/-! ### Whole programs -/

theorem Hosts.leads_program {s : ScopeId} {limit : Nat} {built : List Instance} {st : State}
    (h : Hosts s limit built st) (p : Program) :
    Leads none built st (fun w v => v.Within w) (p.perform s) := by
  -- The three parts of a program in turn, each from a state that still hosts it.
  have hbodies : ∀ d ∈ p.functions, (st.world built).realm.Reads d.body := fun d _ =>
    World.reads _ d.body
  refine .bind (h.leads (n := 0) (stepwise_defineAll ⟨s, 0⟩ (.inl rfl) hbodies))
    fun _ built₁ st₁ hreach₁ _ => ?_
  have h₁ := h.ofReaches hreach₁
  refine .bind (leads_buildClasses p.classes h₁) fun _ built₂ st₂ hreach₂ _ => ?_
  have h₂ := h₁.ofReaches hreach₂
  refine .bind (.modify (.report rfl) (.ofScopes (Nat.le_refl _) fun _ _ => rfl))
    fun _ built₃ st₃ hreach₃ _ => ?_
  have h₃ := h₂.ofReaches hreach₃
  exact leads_execute h₃.sound h₃.lt_size p.main

theorem Eval.ending_snd {α : Type} (x : Eval α) (locate : Fault → Failure) (st : State) :
    (x.ending locate st).2 = x.after st := by
  unfold Eval.ending Eval.after
  cases x st with
  | ok a st' => rfl
  | error stop st' => cases stop <;> rfl

/-- A source runs by moves. -/
theorem Hosts.moves_runSource {s : ScopeId} {limit : Nat} {built : List Instance} {st : State}
    (h : Hosts s limit built st) (name source : Bytes) :
    ∃ built', Moves built st built' (runSource name source s st).2 := by
  unfold runSource
  dsimp only
  -- A source that does not compile changes nothing.
  split
  · exact ⟨built, .refl⟩
  · next p _ =>
      obtain ⟨built', hreach⟩ := (h.leads_program p).reaches_after
      rw [Program.run, Eval.ending_snd]
      exact ⟨built', hreach.moves⟩

/-! ### Calls that are refused -/

/-- A function body at a site that was made for it. -/
def runBody (call : Caller) (fn : Function) (args : List Value) (site : Site) : Eval Value := do
  let depth := ((← get).scope site.scope).depth
  Eval.report (.invoking fn.name args.length depth)
  bindAll site fn.params args
  bodyValue call site fn.body

section

variable {st : State} {f : FunctionId} {args : List Value} {home : ScopeId}

variable (call : Caller) (hn : (st.function f).native = none)
  (hh : (st.function f).home = some home) (ha : args.length = (st.function f).params.length)
include hn hh ha

/-- A call of a function with a body asks its home for a frame, and for nothing else. -/
theorem invoke_eq_pushFrame :
    invoke call f args st = (do
      let frame ← pushFrame home 0
      Eval.thenAlways (·.release home frame)
        (runBody call (st.function f) args ⟨home, frame⟩)) st := by
  have harity : (st.function f).checkArity args = .ok () := if_pos ha
  have hhome : homeOf f st = .ok home st := by
    rw [homeOf, Eval.get_bind_apply, hh]
    rfl
  rw [invoke, Eval.get_bind_apply, harity, hn]
  exact Eval.bind_of_ok hhome

theorem invoke_of_full (hfull : (st.scope home).full = true) :
    invoke call f args st =
      .error (.fault (.runtime
        ⟨.stackOverflow ((st.scope home).live + 1) (st.scope home).limit, -1⟩)) st := by
  rw [invoke_eq_pushFrame call hn hh ha]
  exact Eval.bind_of_error (pushFrame_of_full hfull 0)

theorem invoke_of_room (hroom : (st.scope home).full = false) :
    invoke call f args st =
      Eval.thenAlways (·.release home (st.scope home).live)
        (runBody call (st.function f) args ⟨home, (st.scope home).live⟩) (st.push home 0) := by
  rw [invoke_eq_pushFrame call hn hh ha]
  exact Eval.bind_of_ok (pushFrame_of_room hroom 0)

end

/-! ### The bound -/

/-- **Calls nest as deep as all scopes allow.** Let a source run in a fresh scope with a limit
of frames. At every point of the run, the calls in progress are at most as many as the limit
allows above the roots of all scopes: that of the program and those of its instances. Without
instances they are fewer than the limit.

The limit is kept call by call. At every state to which a script can lead, a call of a
function with a body is refused with a stack overflow, and changes nothing, if the home of
the function has as many frames as the limit allows. Otherwise the body runs in a new frame,
which is released however the body ends. -/
theorem calls_in_progress_le {m : Nat} (hm : 1 ≤ m) (name source : Bytes) :
    let done := (runSource name source 0 (prepared m)).2
    (∃ built, Moves [] (prepared m) built done) ∧
    (∀ k, Log.inProgress (done.journal.entries.toList.take k)
      ≤ ((m - 1) * (done.lastId + 1) : Nat)) ∧
    (done.lastId = 0 → ∀ k, Log.inProgress (done.journal.entries.toList.take k) < m) ∧
    ∀ built st, Moves [] (prepared m) built st → ∀ call f args, f < st.functions.size →
      (st.function f).native = none → args.length = (st.function f).params.length →
      ∃ home, (st.function f).home = some home ∧ (st.scope home).live ≤ m ∧
        ((st.scope home).live = m →
          invoke call f args st =
            .error (.fault (.runtime ⟨.stackOverflow (m + 1) m, -1⟩)) st) ∧
        ((st.scope home).live < m →
          invoke call f args st =
            Eval.thenAlways (·.release home (st.scope home).live)
              (runBody call (st.function f) args ⟨home, (st.scope home).live⟩)
              (st.push home 0)) := by
  intro done
  have hosts := hosts_prepared hm
  obtain ⟨built, hmoves⟩ := hosts.moves_runSource name source
  -- The invariant holds at the start and is kept by every move.
  have hdone : Uniform m done := hmoves.uniform hosts.sound hm (uniform_prepared hm)
  have hbound := hdone.bound
  rw [hdone.scopes] at hbound
  refine ⟨⟨built, hmoves⟩, hbound, fun hlast k => ?_, ?_⟩
  · have hk := hbound k
    rw [hlast, Nat.zero_add, Nat.mul_one] at hk
    omega
  · intro built' st hst call f args hf hn ha
    have hu : Uniform m st := hst.uniform hosts.sound hm (uniform_prepared hm)
    -- The home of the function has the common limit, so it is full at `m` frames.
    obtain ⟨home, hhome⟩ := Option.ne_none_iff_exists'.1 (hu.housed f hf)
    have hlt : home < st.scopes.size := (hst.sound hosts.sound).grounded.home_lt f home hhome
    have hlimit := hu.limit home hlt
    have hfull : (st.scope home).full = decide (m ≤ (st.scope home).live) := by
      rw [Scope.full, hlimit]
    refine ⟨home, hhome, hu.live_le home hlt, fun hlive => ?_, fun hlive => ?_⟩
    · rw [invoke_of_full call hn hhome ha (by rw [hfull, hlive]; simp), hlive, hlimit]
    · exact invoke_of_room call hn hhome ha (by rw [hfull]; simpa using hlive)

/-- A program that calls itself, and a state in which its scope is full. -/
theorem calls_in_progress_le_two :
    let source := utf8 "function f() \x7b return f(); \x7d f();"
    let done := (runSource [] source 0 (prepared 2)).2
    let st := ((prepared 2).register ⟨0, 0⟩ (.ofBody (utf8 "f") [] [])).push 0 0
    1 ≤ 2 ∧ done.lastId = 0 ∧
      (∀ k, Log.inProgress (done.journal.entries.toList.take k) < 2) ∧
      Moves [] (prepared 2) [] st ∧
      ∀ call, invoke call 3 [] st = .error (.fault (.runtime ⟨.stackOverflow 3 2, -1⟩)) st := by
  intro source done st
  obtain ⟨_, _, hfew, hcalls⟩ := calls_in_progress_le (m := 2) (by decide) [] source
  have hlast : done.lastId = 0 := by decide +kernel
  have hregister : Moves [] (prepared 2) []
      ((prepared 2).register ⟨0, 0⟩ (.ofBody (utf8 "f") [] [])) :=
    .single (.register ⟨by decide, by decide⟩ rfl rfl)
  have hst : Moves [] (prepared 2) [] st := .step hregister (.push (by decide) (by decide) 0)
  refine ⟨by decide, hlast, hfew hlast, hst, fun call => ?_⟩
  obtain ⟨home, hhome, _, hrefused, _⟩ := hcalls [] st hst call 3 [] (by decide) (by decide) rfl
  cases hhome
  exact hrefused (by decide)

/-- Two instances leave functions of theirs in variables, and a call goes through the scope of
the program and those of both instances. -/
def crossing : Bytes :=
  ["x = null; y = null; ",
   "function t() \x7b ",
   "crystal A \x7b ",
   "function a() \x7b return y(); \x7d ",
   "function leak() \x7b x = a; \x7d ",
   "variables \x7b leak(); \x7d \x7d ",
   "crystal B \x7b ",
   "function b() \x7b return true; \x7d ",
   "function leak() \x7b y = b; \x7d ",
   "variables \x7b leak(); \x7d \x7d \x7d ",
   "t(); ",
   "function go() \x7b return x(); \x7d ",
   "go();"].flatMap utf8

/-- **The limit of a scope does not bound the calls of a program.** With a limit of two frames
for each scope, three calls are in progress at a time, and the program ends with a value. -/
theorem three_calls_in_progress :
    let finished := runSource [] crossing 0 (prepared 2)
    (finished.1.bind Except.toOption).map finished.2.display = some (utf8 "true") ∧
      finished.2.lastId = 2 ∧
      ∃ k, Log.inProgress (finished.2.journal.entries.toList.take k) = 3 := by
  -- The third call starts with the eighteenth entry.
  have hrun : let finished := runSource [] crossing 0 (prepared 2)
      (finished.1.bind Except.toOption).map finished.2.display = some (utf8 "true") ∧
        finished.2.lastId = 2 ∧
        Log.inProgress (finished.2.journal.entries.toList.take 18) = 3 := by decide +kernel
  exact ⟨hrun.1, hrun.2.1, 18, hrun.2.2⟩

end Quartz
