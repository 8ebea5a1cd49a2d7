import Quartz.Program.Run
import Quartz.Proofs.Eval.Journal
import Quartz.Proofs.Eval.Restore
import Quartz.Proofs.Program.Compile

/-!
# `Quartz.Proofs.Program.Hoist`: a program is its source with the declarations in front

A program registers its functions, builds its classes and runs its main statements. The same
comes out if the tokens of the function declarations, then those of the class declarations,
and then the main statements are executed as one list (`run_eq_execute_hoisted`). So the
compiler and the interpreter agree on what a declaration does, faults in the middle of it
included.

The two runs differ in one event: a program reports that it was loaded. Runs do not read the
journal, so everything behind that event is the same.
-/

set_option autoImplicit false

namespace Quartz

variable {st : State} {built : List Instance} {α : Type} {ts : List Token}

section

variable (call : Caller) (site : Site) (shadow : Bool) (ends : Int) (p : Progress)

/-- A function declaration among statements registers the function. -/
theorem run_function {d : FunctionDecl} (h : (Program.Segment.function d ts).Whole)
    (rest : List Token) :
    run call site shadow ends p (ts ++ rest) = (do
      defineAll site 0 [d]
      run call site shadow ends p rest) := by
  obtain ⟨⟨t, used, rfl, ht⟩, hreads⟩ := h
  obtain ⟨hkind, hword⟩ := Token.kind_of_isKeyword ht
  have hread := hreads ends rest
  rw [List.cons_append] at hread ⊢
  rw [run_cons, hkind]
  dsimp only
  rw [keywordStatement, hword]
  dsimp only
  rw [hread]

/-- A class declaration among statements builds an instance and binds it. -/
theorem run_class {d : ClassDecl} (h : (Program.Segment.crystal d ts).Whole) (rest : List Token) :
    run call site shadow ends p (ts ++ rest) = (do
      let st ← get
      declareClass call site shadow ends p d rest (st.outermost site.scope)) := by
  obtain ⟨⟨t, used, rfl, ht⟩, hreads⟩ := h
  obtain ⟨hkind, hword⟩ := Token.kind_of_isKeyword ht
  have hread := hreads ends rest
  rw [List.cons_append] at hread ⊢
  rw [run_cons, hkind]
  dsimp only
  rw [keywordStatement, hword]
  dsimp only
  rw [hread]

end

open Program

/-! ### Declarations as tokens -/

section

variable {segs : List Segment}

theorem defineAll_cons (site : Site) (owner : Nat) (d : FunctionDecl) (ds : List FunctionDecl) :
    defineAll site owner (d :: ds) = (do
      defineAll site owner [d]
      defineAll site owner ds) := rfl

/-- The function declarations of a source, executed as tokens. -/
theorem run_functions (call : Caller) (site : Site) (ends : Int) (p : Progress)
    (hw : ∀ seg ∈ segs, seg.Whole) (rest : List Token) :
    run call site false ends p (segs.flatMap Segment.functionTokens ++ rest) = (do
      defineAll site 0 (segs.filterMap Segment.function?)
      run call site false ends p rest) := by
  -- Class declarations and statements leave nothing in the list, so only functions count.
  induction segs with
  | nil => rfl
  | cons seg segs ih =>
    obtain ⟨hseg, hsegs⟩ := List.forall_mem_cons.1 hw
    have hrest := ih hsegs
    cases seg with
    | function d ts =>
      have hdeclared : (Segment.function d ts :: segs).filterMap Segment.function?
          = d :: segs.filterMap Segment.function? := rfl
      rw [List.flatMap_cons, List.append_assoc, Segment.functionTokens,
        run_function call site false ends p hseg, hrest, hdeclared,
        defineAll_cons site 0 d (segs.filterMap Segment.function?), bind_assoc]
    | crystal d ts =>
      rw [List.filterMap_cons_none rfl]
      exact hrest
    | statement ts =>
      rw [List.filterMap_cons_none rfl]
      exact hrest

end

/-- A state in which a program can run in an outermost scope with a limit. -/
structure Hosts (s : ScopeId) (limit : Nat) (built : List Instance) (st : State) : Prop where
  sound : st.Sound built
  lt_size : s < st.scopes.size
  outer : (st.scope s).outer = none
  limit : (st.scope s).limit = limit

namespace Hosts

variable {s : ScopeId} {limit : Nat} {built built' : List Instance} {st st' : State}

variable (h : Hosts s limit built st)
include h

theorem ofReaches (hr : Reaches none built st built' st') : Hosts s limit built' st' where
  sound := hr.moves.sound h.sound
  lt_size := Nat.lt_of_lt_of_le h.lt_size hr.keeps.scopes
  outer := (hr.keeps.outer s h.lt_size).trans h.outer
  limit := (hr.keeps.limit s h.lt_size).trans h.limit

theorem shallow : Site.Shallow st ⟨s, 0⟩ :=
  h.sound.shallow_root h.lt_size

theorem callFrom_eq : callFrom st s = callAt (limit + spareLevels) := by
  rw [callFrom, h.limit]

theorem outermost_eq : st.outermost s = s := by
  rw [State.outermost, h.outer]

variable {n : Nat} {Q : Realm → α → Prop} {x : Eval α}
  (hx : Stepwise (callAt n) true (st.world built) ⟨s, 0⟩ Q x)
include hx

/-- Steps in the root frame of the scope. -/
theorem leads : Leads none built st Q x :=
  (hx.leads (leads_callAt n) built st rfl h.sound fun _ => h.shallow).ofRoot

theorem respects : x.Respects (fun _ => 0) false st :=
  hx.respects (leads_callAt n) (respects_callAt n) built st rfl h.sound h.shallow (.inl rfl)

end Hosts

/-! ### Classes -/

section

variable {s : ScopeId} {limit : Nat}

/-- Builds one class and binds its name. -/
def buildClass (call : Caller) (s : ScopeId) (d : ClassDecl) : Eval Unit := do
  let c ← instantiate call (some s) d.name d.body
  modify (·.declare ⟨s, 0⟩ d.name (.object c))

theorem leads_buildClass (h : Hosts s limit built st) (n : Nat) (d : ClassDecl) :
    Leads none built st (fun _ _ => True) (buildClass (callAt n) s d) := by
  have hscope : (st.world built).realm.scope s := h.lt_size
  have hbuild := stepwise_instantiate (callAt n) ⟨s, 0⟩ hscope d.name (World.reads _ d.body)
  refine h.leads (n := n) (.bind hbuild ?_)
  intro w c _ hc
  exact .declare rfl d.name (v := .object c) (w.started_object c hc)

theorem buildClasses_cons (h : Hosts s limit built st) (d : ClassDecl) (ds : List ClassDecl) :
    buildClasses s (d :: ds) st = (do
      buildClass (callAt (limit + spareLevels)) s d
      buildClasses s ds) st := by
  rw [buildClasses, newInstance, bind_assoc, Eval.get_bind_apply, Option.getD_some,
    h.callFrom_eq, buildClass, bind_assoc]

theorem leads_buildClasses (ds : List ClassDecl) (h : Hosts s limit built st) :
    Leads none built st (fun _ _ => True) (buildClasses s ds) := by
  induction ds generalizing built st with
  | nil => exact .pure trivial
  | cons d ds ih =>
    have hrun : Leads none built st (fun _ _ => True) (do
        buildClass (callAt (limit + spareLevels)) s d
        buildClasses s ds) :=
      .bind (leads_buildClass h _ d) fun _ built' st' hreach _ => ih (h.ofReaches hreach)
    exact hrun.congr (buildClasses_cons h d ds)

/-- The class declarations of a source, executed as tokens. -/
theorem run_classes {segs : List Segment} (ends : Int) (p : Progress)
    (hw : ∀ seg ∈ segs, seg.Whole) (rest : List Token) (h : Hosts s limit built st) :
    run (callAt (limit + spareLevels)) ⟨s, 0⟩ false ends p
        (segs.flatMap Segment.classTokens ++ rest) st = (do
      buildClasses s (segs.filterMap Segment.class?)
      run (callAt (limit + spareLevels)) ⟨s, 0⟩ false ends p rest) st := by
  induction segs generalizing built st with
  | nil => rfl
  | cons seg segs ih =>
    obtain ⟨hseg, hsegs⟩ := List.forall_mem_cons.1 hw
    cases seg with
    | function d ts =>
      rw [List.filterMap_cons_none rfl]
      exact ih hsegs h
    | statement ts =>
      rw [List.filterMap_cons_none rfl]
      exact ih hsegs h
    | crystal d ts =>
      have hdeclared : (Segment.crystal d ts :: segs).filterMap Segment.class?
          = d :: segs.filterMap Segment.class? := rfl
      have hfirst : declareClass (callAt (limit + spareLevels)) ⟨s, 0⟩ false ends p d
          (segs.flatMap Segment.classTokens ++ rest) s = (do
            buildClass (callAt (limit + spareLevels)) s d
            run (callAt (limit + spareLevels)) ⟨s, 0⟩ false ends p
              (segs.flatMap Segment.classTokens ++ rest)) := by
        rw [declareClass, buildClass, bind_assoc]
      rw [List.flatMap_cons, List.append_assoc, Segment.classTokens,
        run_class _ _ _ _ _ hseg, Eval.get_bind_apply, h.outermost_eq, hfirst, hdeclared]
      -- The other classes are built where the first one leads, and the scope hosts them still.
      rw [Eval.bind_congr_left (buildClasses_cons h d _), bind_assoc]
      refine Eval.bind_congr_at fun _ st' hrun => ?_
      obtain ⟨built', hreach, _⟩ := (leads_buildClass h _ d).exists_of_ok hrun
      exact ih hsegs (h.ofReaches hreach)

end

/-! ### The main statements -/

/-- What executing tokens makes of the way in which they end. -/
def conclude (ends : Int) : Flow → Eval Value
  | .returned _ offset => Eval.fail .returnOutsideFunction offset
  | .finished p =>
    if p.pending.isSome then Eval.fail (.unterminated .atEnd) ends else pure (p.last.getD .null)

theorem execute_eq (s : ScopeId) (ts : List Token) (st : State) :
    execute s ts st = (do
      let flow ← run (callFrom st s) ⟨s, 0⟩ false (Token.endOffset ts) {} ts
      conclude (Token.endOffset ts) flow) st := rfl

theorem respects_conclude (ends : Int) (flow : Flow) (st : State) :
    (conclude ends flow).Respects (fun _ => 0) false st := by
  cases flow with
  | returned v offset => exact .stop _ st
  | finished p =>
    rw [conclude]
    split
    · exact .stop _ st
    · exact .pure _ st

theorem endOffset_append (h : ts ≠ []) (front : List Token) :
    Token.endOffset (front ++ ts) = Token.endOffset ts := by
  rw [Token.endOffset, List.getLast?_append_of_ne_nil front h, Token.endOffset]

/-- The main statements end alike behind an event, and behind other tokens. -/
theorem execute_main {s : ScopeId} {limit : Nat} (h : Hosts s limit built st)
    (front main : List Token) (e : Log.Event) :
    unlogged (execute s main (st.report e)) = unlogged ((do
      let flow ← run (callAt (limit + spareLevels)) ⟨s, 0⟩ false (Token.endOffset (front ++ main))
        {} main
      conclude (Token.endOffset (front ++ main)) flow) st) := by
  have hcall : callFrom (st.report e) s = callAt (limit + spareLevels) := h.callFrom_eq
  rw [execute_eq, hcall]
  -- Without main statements the two lists end at other offsets, but no offset is used.
  by_cases hmain : main = []
  · subst hmain
    rw [run_nil, run_nil]
    rfl
  · rw [endOffset_append hmain front]
    have hr := (st.world built).reads main
    have hrun := stepwise_run (callAt (limit + spareLevels)) ⟨s, 0⟩ false hr.last (.empty _) hr
    have hrespects : Eval.Respects (fun _ => 0) false (do
        let flow ← run (callAt (limit + spareLevels)) ⟨s, 0⟩ false (Token.endOffset main) {} main
        conclude (Token.endOffset main) flow) st :=
      .bind (h.respects hrun) fun flow st' _ => respects_conclude _ flow st'
    exact hrespects.blind h.sound.grounded _

/-! ### Whole programs -/

theorem unlogged_bind_congr {β : Type} {x : Eval α} {f g : α → Eval β}
    (h : ∀ a st', x st = .ok a st' → unlogged (f a st') = unlogged (g a st')) :
    unlogged ((x >>= f) st) = unlogged ((x >>= g) st) := by
  cases hrun : x st with
  | ok a st' =>
    rw [Eval.bind_of_ok hrun, Eval.bind_of_ok hrun]
    exact h a st' hrun
  | error stop st' => rw [Eval.bind_of_error hrun, Eval.bind_of_error hrun]

/-- A program whose declarations are those of segments. -/
theorem perform_eq_hoisted {p : Program} {segs : List Segment} (hw : ∀ seg ∈ segs, seg.Whole)
    (hf : p.functions = segs.filterMap Segment.function?)
    (hc : p.classes = segs.filterMap Segment.class?) {s : ScopeId} {limit : Nat}
    (h : Hosts s limit built st) :
    unlogged (p.perform s st) = unlogged (execute s
      (segs.flatMap Segment.functionTokens ++ segs.flatMap Segment.classTokens ++ p.main) st) := by
  rw [execute_eq, h.callFrom_eq, Program.perform, hf, hc]
  generalize hfront : segs.flatMap Segment.functionTokens ++ segs.flatMap Segment.classTokens
    = front
  -- First the functions, on both sides.
  have htokens : front ++ p.main
      = segs.flatMap Segment.functionTokens ++ (segs.flatMap Segment.classTokens ++ p.main) := by
    rw [← hfront, List.append_assoc]
  have hfunctions := run_functions (callAt (limit + spareLevels)) ⟨s, 0⟩
    (Token.endOffset (front ++ p.main)) {} hw (segs.flatMap Segment.classTokens ++ p.main)
  rw [← htokens] at hfunctions
  rw [hfunctions, bind_assoc]
  refine unlogged_bind_congr fun _ st₁ hrun₁ => ?_
  obtain ⟨built₁, hreach₁, _⟩ :=
    (h.leads (n := 0) (stepwise_defineAll ⟨s, 0⟩ (.inl rfl) fun d _ =>
      World.reads _ d.body)).exists_of_ok hrun₁
  have h₁ := h.ofReaches hreach₁
  -- Then the classes.
  rw [Eval.bind_congr_left (run_classes _ {} hw p.main h₁), bind_assoc]
  refine unlogged_bind_congr fun _ st₂ hrun₂ => ?_
  obtain ⟨built₂, hreach₂, _⟩ := (leads_buildClasses _ h₁).exists_of_ok hrun₂
  exact execute_main (h₁.ofReaches hreach₂) front p.main _

/-- Locating the fault of a run does not look at the journal. -/
theorem ending_of_unlogged {x y : Eval α} (h : unlogged (x st) = unlogged (y st))
    (locate : Fault → Failure) :
    (x.ending locate st).1 = (y.ending locate st).1 ∧
      (x.ending locate st).2.unlogged = (y.ending locate st).2.unlogged := by
  unfold Eval.ending
  -- Three ways to end: a value, a fault, and levels that did not suffice.
  cases hy : y st with
  | ok a st' =>
    rw [hy] at h
    obtain ⟨st'', hx, hst⟩ := eq_ok_of_unlogged h
    rw [hx]
    exact ⟨rfl, hst⟩
  | error stop st' =>
    rw [hy] at h
    obtain ⟨st'', hx, hst⟩ := eq_error_of_unlogged h
    rw [hx]
    cases stop <;> exact ⟨rfl, hst⟩

/-- **A program is its hoisted source.** Let a source compile to a program that has not been run
before, so that its functions have no home yet, and let it run in an outermost scope of a
reachable state. Then the program has the outcome of the token list that starts with the function
declarations of the source, goes on with its class declarations, and ends with the main
statements: the same value or the same fault, and the same state but for the journal. The same
holds of the located outcome. The state is any state, and so is the order in which its copies take
over members (`State.order`). Both runs use that order. -/
theorem run_eq_execute_hoisted {source : Bytes} {p : Program} (hp : compile source = .ok p)
    {built : List Instance} {st : State} (h : Reachable built st) {s : ScopeId}
    (hs : s < st.scopes.size) (ho : (st.scope s).outer = none) :
    let segs := segments (Lexer.tokenize source)
    let hoisted := segs.flatMap Segment.functionTokens ++ segs.flatMap Segment.classTokens ++ p.main
    unlogged (p.perform s st) = unlogged (execute s hoisted st) ∧
      (p.run s st).1 = ((execute s hoisted).ending p.located st).1 ∧
      (p.run s st).2.unlogged = ((execute s hoisted).ending p.located st).2.unlogged := by
  intro segs hoisted
  have hsliced := sliced_of_compile hp
  have hsame : unlogged (p.perform s st) = unlogged (execute s hoisted st) :=
    perform_eq_hoisted hsliced.whole hsliced.functions hsliced.classes ⟨h.sound, hs, ho, rfl⟩
  exact ⟨hsame, ending_of_unlogged hsame p.located⟩

/-- A function that is used before its declaration, and a class that is built with it. -/
theorem run_eq_execute_hoisted_class :
    let source := utf8
      "x = f(); function f() \x7b return true; \x7d crystal A \x7b variables \x7b y = f(); \x7d \x7d"
    let st := (({} : State).newScope none).2
    let segs := segments (Lexer.tokenize source)
    ∃ p, compile source = .ok p ∧ p.functions.length = 1 ∧ p.classes.length = 1 ∧
      unlogged (p.perform 0 st) = unlogged (execute 0 (segs.flatMap Segment.functionTokens ++
        segs.flatMap Segment.classTokens ++ p.main) st) := by
  intro source st segs
  have hst : Reachable [] st := .step (.initial rfl rfl) (.newScope none none (by simp))
  have hparts : (compile source).toOption.map (fun p => (p.functions.length, p.classes.length))
      = some (1, 1) := by decide +kernel
  cases hp : compile source with
  | error f =>
    rw [hp] at hparts
    exact nomatch hparts
  | ok p =>
    rw [hp] at hparts
    have hlengths : (p.functions.length, p.classes.length) = (1, 1) := Option.some.inj hparts
    exact ⟨p, rfl, congrArg Prod.fst hlengths, congrArg Prod.snd hlengths,
      (run_eq_execute_hoisted hp hst (by decide) rfl).1⟩

end Quartz
