import Mathlib.Data.List.Forall2
import Quartz.Eval.Call
import Quartz.Proofs.Declaration.Inverse
import Quartz.Proofs.Eval.Basic
import Quartz.Token.Lexer

/-!
# `Quartz.Proofs.Eval.Arguments`: which arguments a call lets through

A call compares the type name of each argument with the type that the parameter names. One type
name is an exception, `any`, which every argument has. It is a name like any other to the reader
of declarations, so a script can write it.

* `FunctionDecl.Admits`: one argument for each parameter, of its type or where the type is `any`.
* `FunctionDecl.Matches`: the same without the exception.
* `FunctionDecl.Objects`: the complaint about arguments that are not admitted.

`call_checks_declared_types` says that a call runs the function on admitted arguments and is
refused on all others, and that a declaration makes no exception exactly if no parameter has the
type `any`. `any_declared_by_script` is a declaration that does.
-/

set_option autoImplicit false

namespace Quartz

namespace FunctionDecl

/-! ### Arguments and parameters -/

/-- One argument for each parameter, of the type that it names. -/
def Matches (d : FunctionDecl) (args : List Value) : Prop :=
  List.Forall₂ (fun p v => v.typeName = p.type) d.params args

/-- One argument for each parameter, of the type that it names or of any type at all. -/
def Admits (d : FunctionDecl) (args : List Value) : Prop :=
  List.Forall₂ (fun p v => p.type = Param.anyType ∨ v.typeName = p.type) d.params args

/-- Why arguments are not admitted: there are too many or too few, or one of them, the first one
that is not, has another type than its parameter. -/
inductive Objects (d : FunctionDecl) (args : List Value) : Cause → Prop
  | arity (hlen : args.length ≠ d.params.length) :
      Objects d args (.arity d.name d.params.length args.length)
  | type {front back : List (Param × Value)} {p : Param} {v : Value}
      (hlen : args.length = d.params.length) (hpairs : d.params.zip args = front ++ (p, v) :: back)
      (hfront : ∀ q ∈ front, q.1.type = Param.anyType ∨ q.2.typeName = q.1.type)
      (hany : p.type ≠ Param.anyType) (htype : v.typeName ≠ p.type) :
      Objects d args (.argumentType d.name p.name p.type v.typeName)

/-- A function that was made from a declaration, wherever it is registered. -/
def Makes (d : FunctionDecl) (fn : Function) : Prop :=
  ∃ owner home, fn = { d.function with owner := owner, home := home }

section

variable {d : FunctionDecl} {args : List Value}

theorem Makes.name_eq {fn : Function} (h : d.Makes fn) : fn.name = d.name := by
  obtain ⟨_, _, rfl⟩ := h
  rfl

theorem Makes.params_eq {fn : Function} (h : d.Makes fn) : fn.params = d.params := by
  obtain ⟨_, _, rfl⟩ := h
  rfl

theorem Objects.not_admits {cause : Cause} (h : d.Objects args cause) : ¬ d.Admits args := by
  intro hadmits
  cases h with
  | arity hlen => exact hlen (List.Forall₂.length_eq hadmits).symm
  | @type front back p v hlen hpairs hfront hany htype =>
    have hmem : (p, v) ∈ d.params.zip args := by
      rw [hpairs]
      simp
    exact ((List.forall₂_iff_zip.1 hadmits).2 hmem).elim hany htype

/-- Without the type `any` the exception is never made. -/
theorem Admits.matches (h : d.Admits args) (hany : ∀ p ∈ d.params, p.type ≠ Param.anyType) :
    d.Matches args := by
  obtain ⟨hlen, hpairs⟩ := List.forall₂_iff_zip.1 h
  refine List.forall₂_iff_zip.2 ⟨hlen, fun {p v} hmem => ?_⟩
  exact (hpairs hmem).resolve_left (hany p (List.of_mem_zip hmem).1)

/-- An argument for each parameter that tells the exception from the rule: an instance of a class
of the right name, but null where any value will do. -/
def lenientArgs (d : FunctionDecl) : List Value :=
  d.params.map fun p => if p.type = Param.anyType then .null else .object ⟨p.type, 0, [], 0, 0⟩

theorem admits_lenientArgs (d : FunctionDecl) : d.Admits d.lenientArgs := by
  refine List.forall₂_map_right_iff.2 (List.forall₂_same.2 fun p _ => ?_)
  by_cases hany : p.type = Param.anyType
  · exact .inl hany
  · rw [if_neg hany]
    exact .inr rfl

theorem type_ne_any_of_matches_lenientArgs (h : d.Matches d.lenientArgs) {p : Param}
    (hp : p ∈ d.params) : p.type ≠ Param.anyType := by
  intro hany
  have hnull := List.forall₂_same.1 (List.forall₂_map_right_iff.1 h) p hp
  rw [if_pos hany, hany] at hnull
  exact absurd hnull (by decide)

/-! ### The checks of a call -/

/-- The two checks let admitted arguments through, and make a complaint about all others. -/
theorem checks_cases {fn : Function} (hfn : d.Makes fn) (args : List Value) :
    (d.Admits args ∧ fn.checkArity args = .ok () ∧ fn.checkTypes args = .ok ()) ∨
      ∃ cause, d.Objects args cause ∧ (fn.checkArity args = .error cause ∨
        fn.checkArity args = .ok () ∧ fn.checkTypes args = .error cause) := by
  rw [Function.checkArity, Function.checkTypes, hfn.params_eq, hfn.name_eq]
  by_cases hlen : args.length = d.params.length
  · rw [if_pos hlen]
    cases hfind : (d.params.zip args).find? fun p => !p.1.accepts p.2 with
    | none =>
      refine .inl ⟨List.forall₂_iff_zip.2 ⟨hlen.symm, fun {p v} hmem => ?_⟩, rfl, rfl⟩
      have hpair := List.find?_eq_none.1 hfind _ hmem
      simpa [Param.accepts, or_iff_not_imp_left] using hpair
    | some pair =>
      obtain ⟨p, v⟩ := pair
      obtain ⟨hnot, front, back, hpairs, hfront⟩ := List.find?_eq_some_iff_append.1 hfind
      simp only [Param.accepts, Bool.not_or, Bool.and_eq_true, Bool.not_eq_true',
        decide_eq_false_iff_not] at hnot
      refine .inr ⟨_, .type hlen hpairs (fun q hq => ?_) hnot.1 hnot.2, .inr ⟨rfl, rfl⟩⟩
      simpa [Param.accepts] using hfront q hq
  · rw [if_neg hlen]
    exact .inr ⟨_, .arity hlen, .inl rfl⟩

variable {st : State} {f : FunctionId}

theorem callAt_succ (n : Nat) (f : FunctionId) (args : List Value) (st : State) :
    callAt (n + 1) f args st = (do
      Eval.ofOperator (-1) ((st.function f).checkArity args)
      Eval.ofOperator (-1) ((st.function f).checkTypes args)
      invoke (callAt n) f args : Eval Value) st := rfl

/-- Admitted arguments are handed to the function. -/
theorem callAt_of_admits (hf : d.Makes (st.function f)) (h : d.Admits args) (n : Nat) :
    callAt (n + 1) f args st = invoke (callAt n) f args st := by
  rcases checks_cases hf args with ⟨_, harity, htypes⟩ | ⟨cause, hobjects, _⟩
  · rw [callAt_succ, harity, htypes]
    rfl
  · exact absurd h hobjects.not_admits

/-- All others are refused, before anything is done. -/
theorem callAt_of_not_admits (hf : d.Makes (st.function f)) (h : ¬ d.Admits args) :
    ∃ cause, d.Objects args cause ∧
      ∀ n, callAt (n + 1) f args st = .error (.fault (.runtime ⟨cause, -1⟩)) st := by
  rcases checks_cases hf args with ⟨hadmits, _⟩ | ⟨cause, hobjects, hcheck⟩
  · exact absurd hadmits h
  · refine ⟨cause, hobjects, fun n => ?_⟩
    rw [callAt_succ]
    rcases hcheck with harity | ⟨harity, htypes⟩
    · rw [harity]
      rfl
    · rw [harity, htypes]
      rfl

/-- A call from outside has at least one level. -/
theorem exists_callFunction_eq (st : State) (f : FunctionId) (args : List Value) :
    ∃ n, callFunction f args st = callAt (n + 1) f args st := by
  have hlevels : 0 < (st.scope (st.homeOrFirst f)).limit + spareLevels :=
    Nat.add_pos_right _ (Nat.two_pow_pos 32)
  obtain ⟨n, hn⟩ := Nat.exists_eq_add_one.2 hlevels
  refine ⟨n, ?_⟩
  rw [callFunction, Eval.get_bind_apply, callFrom, hn]

/-! ### Types that are written -/

/-- The type of a parameter is written where the parameter is. -/
theorem exists_type_of_listed {ps : List Param} {ts : List Token} (h : Param.Listed ps ts)
    {p : Param} (hp : p ∈ ps) : ∃ t ∈ ts, t.namesType = true ∧ t.literal = p.type := by
  induction h with
  | nil => cases hp
  | @last type name ht hn =>
    cases List.mem_singleton.1 hp
    exact ⟨type, by simp, ht, rfl⟩
  | @more type name comma q qs ts ht hn hc h ih =>
    rcases List.mem_cons.1 hp with rfl | hp
    · exact ⟨type, by simp, ht, rfl⟩
    · obtain ⟨t, hmem, htype⟩ := ih hp
      exact ⟨t, by simp [hmem], htype⟩

/-- No reserved word is spelled `any`, so it is an identifier that names that type. -/
theorem kind_of_any {t : Token} (ht : t.namesType = true) (hany : t.literal = Param.anyType) :
    t.kind = .ident := by
  have hword : ∀ k, t.isKeyword k = false := by
    intro k
    have hno : Keyword.ofBytes? Param.anyType = none := by decide
    simp [Token.isKeyword, Token.keyword?, hany, hno]
  simpa [Token.namesType, hword] using ht

theorem Rendered.exists_any {used : List Token} (h : d.Rendered used) {p : Param}
    (hp : p ∈ d.params) (hany : p.type = Param.anyType) :
    ∃ t ∈ used, t.kind = .ident ∧ t.literal = Param.anyType := by
  cases h with
  | intro hword hname ho hlist hc hob hbody hcb =>
    obtain ⟨t, hmem, ht, htype⟩ := exists_type_of_listed hlist hp
    exact ⟨t, by simp [hmem], kind_of_any ht (htype.trans hany), htype.trans hany⟩

end

/-- **Calls check the types that a script declares, except `any`.** Let a function declaration be
read anywhere in a token list, and a function be made from it in any state. A call runs the
function if there is one argument for each parameter, of the type that it names or where that type
is `any`. Otherwise it fails, with a mismatch of their number or with the type of the first
argument that has the wrong one, and changes nothing. A call from outside is such a call.

So the declared types are enforced, whatever the arguments, exactly if no parameter has the type
`any`; and where one does, the declaration holds the identifier `any`. -/
theorem call_checks_declared_types {ts : List Token} {i next : Nat} {d : FunctionDecl}
    (hread : readAt ts i = (.ok d, next)) :
    (∀ (st : State) (f : FunctionId) (args : List Value), d.Makes (st.function f) →
      (d.Admits args → ∀ n, callAt (n + 1) f args st = invoke (callAt n) f args st) ∧
      (¬ d.Admits args → ∃ cause, d.Objects args cause ∧
        ∀ n, callAt (n + 1) f args st = .error (.fault (.runtime ⟨cause, -1⟩)) st) ∧
      ∃ n, callFunction f args st = callAt (n + 1) f args st) ∧
    ((∀ args, d.Admits args → d.Matches args) ↔ ∀ p ∈ d.params, p.type ≠ Param.anyType) ∧
    (∀ p ∈ d.params, p.type = Param.anyType →
      ∃ t ∈ (ts.take next).drop i, t.kind = .ident ∧ t.literal = Param.anyType) := by
  refine ⟨fun st f args hf => ?_, ⟨fun h p hp => ?_, fun hany args h => h.matches hany⟩, ?_⟩
  · exact ⟨callAt_of_admits hf, callAt_of_not_admits hf, exists_callFunction_eq st f args⟩
  · exact type_ne_any_of_matches_lenientArgs (h _ (admits_lenientArgs d)) hp
  · intro p hp hany
    obtain ⟨before, used, rest, rfl, rfl, rfl, hrendered⟩ := readAt_eq_ok_iff.1 hread
    rw [← List.length_append, List.take_left, List.drop_left]
    exact hrendered.exists_any hp hany

/-- Two parameters, one of them of the type `any`. An argument of the wrong type for the other is
refused. -/
theorem call_checks_declared_types_mixed :
    let ts := Lexer.tokenize (utf8 "x; function f(any a, bool b) { return a; }")
    let d : FunctionDecl := ⟨utf8 "f", [⟨utf8 "a", utf8 "any"⟩, ⟨utf8 "b", utf8 "bool"⟩],
      (ts.take 15).drop 12⟩
    let st := ((({} : State).newScope none).2.addFunction d.function).2
    readAt ts 2 = (.ok d, 16) ∧ d.Makes (st.function 0) ∧
      d.Admits [.null, .bool true] ∧ ¬ d.Admits [.null, .null] ∧
      callAt 1 0 [.null, .bool true] st = invoke (callAt 0) 0 [.null, .bool true] st ∧
      (∃ cause, d.Objects [.null, .null] cause ∧
        callFunction 0 [.null, .null] st = .error (.fault (.runtime ⟨cause, -1⟩)) st) ∧
      ¬ ∀ args, d.Admits args → d.Matches args := by
  intro ts d st
  have hread : readAt ts 2 = (.ok d, 16) := by decide +kernel
  have hmakes : d.Makes (st.function 0) := ⟨_, _, rfl⟩
  have hadmits : d.Admits [.null, .bool true] := .cons (.inl rfl) (.cons (.inr rfl) .nil)
  have hnot : ¬ d.Admits [.null, .null] := by
    intro h
    cases h with
    | cons _ h =>
      cases h with
      | cons htype _ => exact absurd htype (by decide)
  have hchecks := call_checks_declared_types hread
  obtain ⟨cause, hobjects, hrefused⟩ := (hchecks.1 st 0 [.null, .null] hmakes).2.1 hnot
  obtain ⟨n, hcall⟩ := (hchecks.1 st 0 [.null, .null] hmakes).2.2
  refine ⟨hread, hmakes, hadmits, hnot, (hchecks.1 st 0 _ hmakes).1 hadmits 0,
    ⟨cause, hobjects, hcall.trans (hrefused n)⟩, fun hall => ?_⟩
  exact hchecks.2.1.1 hall ⟨utf8 "a", utf8 "any"⟩ (by simp [d]) rfl

/-- A script declares a parameter of the type `any`, and passes a value of another type. -/
theorem any_declared_by_script :
    let ts := Lexer.tokenize (utf8 "function f(any x) { return x; }")
    let d : FunctionDecl := ⟨utf8 "f", [⟨utf8 "x", utf8 "any"⟩], (ts.take 10).drop 7⟩
    let st := ((({} : State).newScope none).2.addFunction d.function).2
    readAt ts 0 = (.ok d, 11) ∧ d.Makes (st.function 0) ∧ ¬ d.Matches [.bool true] ∧
      ∃ v st', callFunction 0 [.bool true] st = .ok v st' ∧ v.typeName = utf8 "bool" := by
  intro ts d st
  have hread : readAt ts 0 = (.ok d, 11) := by decide +kernel
  have hname : (result? (callFunction 0 [.bool true] st)).map (fun v => v.typeName) =
      some (utf8 "bool") := by decide +kernel
  refine ⟨hread, ⟨_, _, rfl⟩, ?_, ?_⟩
  · intro h
    cases h with
    | cons htype _ => exact absurd htype (by decide)
  · exact exists_of_map_result? (x := callFunction 0 [.bool true])
      (f := fun v _ => v.typeName) hname

end FunctionDecl

end Quartz
