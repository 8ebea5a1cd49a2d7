import Quartz.Proofs.Cursor.Statement
import Quartz.Proofs.Program.CallDepth
import Quartz.Proofs.Program.Terminate

/-!
# `Quartz.Proofs.Cursor.Execute`: executing arbitrary tokens stays in range

A call checks the number of its arguments first. So the checks of their types, the bindings of the
parameters and the native functions find an argument wherever they look for one. A function body
runs at a frame that was pushed for it, which is shallow and live. By induction on the levels of
calls, a checked caller is the caller (`simulates_callAt`), and so the checked execution of tokens
is their execution, whatever the tokens are.
-/

set_option autoImplicit false

namespace Quartz

variable {args : List Value} {call : Quartz.Caller} {st : State} {v : Value}

namespace Cursor

variable {built : List Instance} {st : State}

/-! ### Arguments -/

theorem argumentAt_eq {rest : List Value} {i : Nat} (h : args.drop i = v :: rest) :
    argumentAt args i = pure v := by
  have hget : args[i]? = some v := by rw [← List.head?_drop, h, List.head?_cons]
  unfold argumentAt
  rw [hget]

/-- With as many arguments as parameters left, there is an argument for the next parameter. -/
theorem drop_of_length {i n : Nat} (h : n + 1 = args.length - i) :
    ∃ v, args.drop i = v :: args.drop (i + 1) := by
  cases hleft : args.drop i with
  | nil =>
    have := List.drop_eq_nil_iff.1 hleft
    omega
  | cons v rest => exact ⟨v, by rw [← List.tail_drop, hleft, List.tail_cons]⟩

/-- The types of the arguments from an index on. -/
theorem checkTypes_eq (fn : Function) (args : List Value) (i : Nat) (ps : List Param)
    (hlen : ps.length = args.length - i) :
    checkTypes fn args i ps = Guarded.ofEval
      (Eval.ofOperator (-1) ({ fn with params := ps }.checkTypes (args.drop i))) := by
  induction ps generalizing i with
  | nil => rfl
  | cons p ps ih =>
    obtain ⟨v, hv⟩ := drop_of_length hlen
    rw [checkTypes, argumentAt_eq hv, pure_bind]
    split
    · next haccepts =>
        rw [ih (i + 1) (by simp only [List.length_cons] at hlen; omega)]
        simp [Function.checkTypes, hv, haccepts]
    · next haccepts =>
        simp [Function.checkTypes, hv, haccepts]
        rfl

theorem simulates_bindAll (hcall : call.Keeping) {site : Site} (args : List Value) (i : Nat)
    (ps : List Param) (hlen : ps.length = args.length - i) (hst : Standing built st site)
    (hargs : ∀ v ∈ args, v.Within (st.world built)) :
    Simulates Eq st (bindAll site args i ps) (Quartz.bindAll site ps (args.drop i)) := by
  induction ps generalizing i built st with
  | nil => exact .pure rfl
  | cons p ps ih =>
    obtain ⟨v, hv⟩ := drop_of_length hlen
    have hmem : v ∈ args := List.mem_of_mem_drop (by rw [hv]; exact List.mem_cons_self)
    have hdeclare : Stepwise call true (st.world built) site (fun _ _ => True)
        (modify (·.declare site p.name v)) := .declare rfl p.name (hargs v hmem)
    rw [bindAll, argumentAt_eq hv, pure_bind, hv, Quartz.bindAll]
    apply hst.bind hcall hdeclare (simulates_declare hst.shallow.live p.name v)
    intro _ _ built' st' hst' hle _ _
    exact ih (i + 1) (by simp only [List.length_cons] at hlen; omega) hst' fun u hu =>
      (hargs u hu).mono (World.realm_mono hle)

/-! ### Native functions -/

theorem displayable_of_within (h : v.Within (st.world built)) : displayable st v = true := by
  cases v with
  | function f => exact decide_eq_true h
  | _ => rfl

/-- The instances that a copy meets were built, so they have root frames. -/
theorem copyable_of_within (hst : st.Sound built) (h : v.Within (st.world built)) :
    copyable st v = true := by
  cases v with
  | object c =>
    obtain ⟨hwithin, _, _⟩ := State.tourFrom_complete hst.closed hst.counted.length_le h
    apply List.all_eq_true.2
    intro d hd
    have hscope := hst.counted.scope_lt d (hwithin.1 hd)
    have hlive := hst.grounded.live_pos d.scope
    simp [hscope, hlive]
  | _ => rfl

theorem simulates_perform {native : Native} (hst : st.Sound built)
    (hargs : ∀ v ∈ args, v.Within (st.world built))
    (hlen : native.readsArgument = true → args.length = 1) :
    Simulates Eq st (perform native args) (native.perform args) := by
  -- A function that reads its argument has one.
  have hfirst : native.readsArgument = true → ∃ v, v.Within (st.world built) ∧
      argumentAt args 0 = pure v := by
    intro hreads
    obtain ⟨v, rfl⟩ := List.length_eq_one_iff.1 (hlen hreads)
    exact ⟨v, hargs v List.mem_cons_self, rfl⟩
  cases native with
  | print =>
    obtain ⟨v, hv, harg⟩ := hfirst rfl
    rw [perform, harg, pure_bind]
    exact .ofOk (Guarded.demand_of (displayable_of_within hv)) (.ofEval _)
  | typeOf =>
    obtain ⟨v, _, harg⟩ := hfirst rfl
    rw [perform, harg, pure_bind]
    exact .ofEval _
  | create =>
    obtain ⟨v, hv, harg⟩ := hfirst rfl
    rw [perform, harg, pure_bind]
    exact .ofOk (Guarded.demand_of (copyable_of_within hst hv)) (.ofEval _)
  | fails message => exact Simulates.ofEval (Native.perform (.fails message) args)
  | argument index => exact Simulates.ofEval (Native.perform (.argument index) args)
  | constant v => exact Simulates.ofEval (Native.perform (.constant v) args)

/-! ### Calls -/

theorem functionAt_eq {f : FunctionId} (hf : f < st.functions.size) :
    functionAt f st = .ok (st.function f) st := by
  unfold functionAt
  rw [Guarded.bind_of_ok (Guarded.demand_of hf)]
  rfl

/-- A check of the number of arguments, and what follows it. -/
theorem checkArityThen {α : Type} {fn : Function} {f : Unit → Guarded α} {g : Unit → Eval α}
    (h : fn.params.length = args.length → Simulates Eq st (f ()) (g ())) :
    Simulates Eq st (Guarded.ofEval (Eval.ofOperator (-1) (fn.checkArity args)) >>= f)
      (Eval.ofOperator (-1) (fn.checkArity args) >>= g) := by
  apply Simulates.bindEval
  intro _ st' hok
  obtain ⟨hcheck, rfl⟩ := Eval.ofOperator_eq_ok hok
  unfold Function.checkArity at hcheck
  split at hcheck
  · next hlen => exact h hlen.symm
  · cases hcheck

/-- The body of a function runs in the frame that was pushed for it. -/
theorem simulates_body {call' : Caller} (hcall : call.Keeping) (hsim : call'.Simulates call)
    {site : Site} {fn : Function} (hlen : fn.params.length = args.length)
    (hst : Standing built st site) (hargs : ∀ v ∈ args, v.Within (st.world built)) :
    Simulates Eq st
      (do
        bindAll site args 0 fn.params
        bodyValue call' site fn.body)
      (do
        Quartz.bindAll site fn.params args
        Quartz.bodyValue call site fn.body) := by
  apply hst.bind hcall (stepwise_bindAll call site fn.params args hargs)
    (simulates_bindAll hcall args 0 fn.params hlen hst hargs)
  intro _ _ built₁ st₁ hst₁ _ _ _
  unfold bodyValue Quartz.bodyValue
  apply hst₁.bind hcall
    (stepwise_run call site false (World.points _ _) (.empty _) (World.reads _ fn.body))
    (simulates_run hcall hsim hst₁ false fn.body)
  rintro flow _ built₂ st₂ _ _ _ rfl
  cases flow with
  | returned v offset => exact .pure rfl
  | finished p => exact .pure rfl

theorem simulates_invoke {call' : Caller} (hcall : call.Keeping) (hsim : call'.Simulates call) :
    (invoke call').Simulates (Quartz.invoke call) := by
  intro f args built st hst htidy hequipped hf hargs
  apply Simulates.ofOk (functionAt_eq hf)
  apply Simulates.get
  apply checkArityThen
  intro hlen
  dsimp only
  cases hnative : (st.function f).native with
  | some native =>
    apply simulates_perform hst hargs
    intro hreads
    rw [← hlen]
    exact hequipped f native hnative hreads
  | none =>
    dsimp only
    apply Simulates.bindEval
    intro home st₁ hhome
    -- The function is at home in a scope that is there, if need be in a new one.
    obtain ⟨built₁, hreach, hscope⟩ := (leads_homeOf hf hst).exists_of_ok hhome
    have hst₁ := hreach.moves.sound hst
    apply Simulates.ofOk (scopeAt_eq hscope)
    apply Simulates.bindEval
    intro frame st₂ hframe
    obtain ⟨hroom, rfl, rfl⟩ := pushFrame_eq_ok hframe
    have hpush : Move built₁ st₁ built₁ (st₁.push home 0) := .push hscope hroom 0
    have hst₂ : Standing built₁ (st₁.push home 0) ⟨home, (st₁.scope home).live⟩ := {
      sound := hpush.sound hst₁
      tidy := hpush.tidy hst₁ (hreach.moves.tidy hst htidy)
      equipped := hpush.equipped (hreach.moves.equipped hequipped)
      shallow := hst₁.shallow_push hscope }
    have hle := World.le_trans hreach.moves.world_le hpush.world_le
    apply Simulates.thenAlways
    apply Simulates.ofOk (scopeAt_eq hst₂.shallow.live.1)
    apply Simulates.get
    apply Simulates.bindEval
    rintro _ st₃ ⟨⟩
    have hreport : Reaches none built₁ (st₁.push home 0) built₁
        ((st₁.push home 0).report (.invoking (st.function f).name args.length
          ((st₁.push home 0).scope home).depth)) :=
      ⟨.single (.report rfl), .ofScopes (Nat.le_refl _) fun _ _ => rfl⟩
    apply simulates_body hcall hsim hlen (hst₂.ofReaches hreport)
    intro v hv
    exact (hargs v hv).mono (World.realm_mono (World.le_trans hle hreport.moves.world_le))

/-- A checked caller is the caller, at every level. -/
theorem simulates_callAt (level : Nat) : (callAt level).Simulates (Quartz.callAt level) := by
  induction level with
  | zero =>
    intro f args built st _ _ _ _ _
    exact rfl
  | succ level ih =>
    intro f args built st hst htidy hequipped hf hargs
    apply Simulates.ofOk (functionAt_eq hf)
    apply Simulates.get
    apply checkArityThen
    intro hlen
    rw [checkTypes_eq _ args 0 _ hlen]
    apply Simulates.bindEval
    intro _ st₁ htypes
    obtain ⟨_, rfl⟩ := Eval.ofOperator_eq_ok htypes
    exact simulates_invoke (leads_callAt level) ih f args built _ hst htidy hequipped hf hargs

/-! ### Executing tokens -/

theorem simulates_executeAt (level : Nat) {s : ScopeId} (hst : Standing built st ⟨s, 0⟩)
    (ts : List Token) : Simulates Eq st (executeAt level s ts) (Quartz.executeAt level s ts) := by
  unfold executeAt Quartz.executeAt
  cases ts with
  | nil =>
    have hempty : ¬ 0 < ([] : List Token).length := Nat.lt_irrefl _
    rw [run, if_neg hempty, run_nil, pure_bind, pure_bind]
    exact .pure rfl
  | cons t rest =>
    have hpos : 0 < (t :: rest).length := Nat.succ_pos _
    obtain ⟨last, hlast, hoffset⟩ := tokenAt_last hpos
    apply hst.bind (leads_callAt level) (stepwise_run _ _ false (World.points _ _) (.empty _)
        (World.reads _ (t :: rest)))
      (simulates_run (leads_callAt level) (simulates_callAt level) hst false (t :: rest))
    rintro flow _ built₁ st₁ _ _ _ rfl
    cases flow with
    | returned v offset => exact .fail _ _
    | finished p =>
      unfold conclude
      dsimp only
      split
      · rw [hlast, pure_bind, hoffset]
        exact .fail _ _
      · exact .pure rfl

/-- The checks do check: where there is no scope, looking a name up is out of range. -/
theorem executeAt_of_no_scope (level : Nat) {s : ScopeId} (hs : st.scopes.size ≤ s) {t : Token}
    (ht : t.kind = .ident) : executeAt level s [t] st = .error .outOfRange st := by
  have hscope : scopeAt s st = .error .outOfRange st := by
    apply Guarded.bind_of_error
    show (if s < st.scopes.size then pure () else Guarded.outOfRange : Guarded Unit) st = _
    rw [if_neg (Nat.not_lt.2 hs)]
    rfl
  have hseek : ∀ has, seek has s (0 : Nat) st = .error .outOfRange st := by
    intro has
    rw [seek]
    apply Guarded.bind_of_error
    rw [seekFrame]
    exact Guarded.bind_of_error hscope
  have hmeaning : meaning ⟨s, 0⟩ t.literal st = .error .outOfRange st :=
    Guarded.bind_of_error (Guarded.bind_of_error (hseek _))
  have hlt : 0 < [t].length := Nat.zero_lt_one
  have hread : tokenAt [t] 0 = pure t := rfl
  apply Guarded.bind_of_error
  rw [run, if_pos hlt, hread, pure_bind, ht, holdsAt_eq, pure_bind]
  exact Guarded.bind_of_error hmeaning

end Cursor

theorem execute_eq_executeAt (s : ScopeId) (ts : List Token) (st : State) :
    execute s ts st = executeAt ((st.scope s).limit + spareLevels) s ts st := by
  rw [execute_eq, callFrom, executeAt]

/-! ### States of hosts -/

theorem State.Equipped.provide (h : st.Equipped) (name : Bytes) (native : Native) :
    (st.provide name native).Equipped :=
  h.register ⟨0, 0⟩ fun _ _ _ => rfl

theorem State.Equipped.report (h : st.Equipped) (e : Log.Event) : (st.report e).Equipped :=
  h.ofEq rfl

/-- A state without functions. -/
theorem State.equipped_of_empty (h : st.functions = #[]) : st.Equipped := by
  intro f native hnative
  rw [State.function, h] at hnative
  cases hnative

theorem equipped_prepared (m : Nat) : (prepared m).Equipped := by
  have hstart : (watched.newScope none (some m)).2.Equipped := State.equipped_of_empty rfl
  rw [prepared_eq]
  exact (((hstart.provide _ .print).provide _ .typeOf).provide _ .create).report _

/-- The execution of tokens in the root frame of a scope stays in range. -/
structure ExecutesInRange (st : State) (s : ScopeId) (ts : List Token) : Prop where
  /-- A run that moves a cursor over the tokens and checks every access ends as the execution. -/
  checked : ∀ level,
    Cursor.executeAt level s ts st = Guarded.ofEval (executeAt level s ts) st
  /-- It ends with a value, with an error, or with its levels of calls used up. -/
  ends : ∀ level, (∃ v st', Cursor.executeAt level s ts st = .ok v st') ∨
    (∃ f st', Cursor.executeAt level s ts st = .error (.stop (.fault f)) st') ∨
    ∃ st', Cursor.executeAt level s ts st = .error (.stop .exhausted) st'
  execute_eq : Cursor.executeAt ((st.scope s).limit + spareLevels) s ts st =
    Guarded.ofEval (execute s ts) st
  /-- More tokens can be executed afterwards. -/
  reachable : ∃ built, Reachable built ((execute s ts).after st)
  equipped : ((execute s ts).after st).Equipped

/-- In every state that can be reached, executing tokens stays in range, whatever the tokens are.
The functions that every script can call are registered with the argument that they read. -/
theorem execute_in_range {built : List Instance} {st : State} (h : Reachable built st)
    (he : st.Equipped) {s : ScopeId} (hs : s < st.scopes.size) (ts : List Token) :
    ExecutesInRange st s ts := by
  have hst : Standing built st ⟨s, 0⟩ := ⟨h.sound, h.tidy, he, h.sound.shallow_root hs⟩
  have hlevels : ∀ level, Cursor.executeAt level s ts st =
      Guarded.ofEval (executeAt level s ts) st := by
    intro level
    exact (Cursor.simulates_executeAt level hst ts).eq_ofEval
  obtain ⟨built', hreach⟩ := (leads_execute h.sound hs ts).reaches_after
  constructor
  · exact hlevels
  · intro level
    rw [hlevels level]
    exact Guarded.ofEval_ends _ st
  · rw [hlevels]
    unfold Guarded.ofEval
    rw [execute_eq_executeAt]
  · exact ⟨built', h.moves hreach.moves⟩
  · exact hreach.moves.equipped he

/-- Tokens that no text is read as: a parenthesis that closes nothing, a call that is never closed,
a keyword that is none, an error and an end in the middle, and offsets that point nowhere. -/
theorem execute_in_range_hostile :
    let ts : List Token := [⟨.rightParen, utf8 ")", -7⟩, ⟨.keyword, utf8 "number", 9000⟩,
      ⟨.ident, utf8 "print", 3⟩, ⟨.leftParen, utf8 "(", -40⟩, ⟨.keyword, utf8 "nonsense", 3⟩,
      ⟨.error, utf8 "", 0⟩, ⟨.eof, utf8 "", 1⟩, ⟨.unknown, utf8 "?", 2⟩]
    Reachable [] (prepared 3) ∧ (prepared 3).Equipped ∧ 0 < (prepared 3).scopes.size ∧
      failure? (execute 0 ts (prepared 3)) = some (.malformed, -40) ∧
      ExecutesInRange (prepared 3) 0 ts := by
  intro ts
  have hreachable := reachable_prepared 3
  have hequipped := equipped_prepared 3
  have hsize : 0 < (prepared 3).scopes.size := by decide +kernel
  have hfails : failure? (execute 0 ts (prepared 3)) = some (.malformed, -40) := by decide +kernel
  exact ⟨hreachable, hequipped, hsize, hfails, execute_in_range hreachable hequipped hsize ts⟩

end Quartz
