import Quartz.Eval.Call
import Quartz.Proofs.Expression.Sound
import Quartz.Token.Lexer

/-!
# `Quartz.Proofs.Expression.Agreement`: reading once against building a tree

Evaluating tokens while reading them is the same as building the tree and evaluating
that (`evaluate_agrees_with_tree`). It is put together from three facts: the tokens
determine the tree (`Phrase.render_injective`), a value comes from a tree
(`exists_of_evaluate`), and on the tokens of a tree the evaluator does what the tree does
(`evaluate_render`).

The one difference is a call of a name that holds a value other than a function. The
evaluator does not see a call there. It reads the name, and the parenthesis is left over
at the end. So an operator that waits for the operand is applied before the parenthesis
is noticed, and its fault comes first (`failure?_sum_of_text_call`).
-/

set_option autoImplicit false

namespace Quartz

/-- **Reading once is building a tree and evaluating it.** For every caller, site, token
list and state: the evaluator gives a value exactly where the tokens are those of an
expression, there is only one such expression, and its tree gives that value and that
state. Where the tree stops, the evaluator stops in the same way. Where the tree comes to
rest at the parenthesis of a call of something that is no function, the evaluator fails in
the same state. -/
theorem evaluate_agrees_with_tree (call : Caller) (site : Site) (ts : List Token) (st : State) :
    (∀ v last, evaluate call site ts st = .ok v last ↔
      ∃ e : Expression, e.render = ts ∧ (∀ e' : Expression, e'.render = ts → e' = e) ∧
        (e.value call site).run st = .ok (.ok v) last) ∧
    ∀ e : Expression, e.render = ts →
      (∀ stop last, (e.value call site).run st = .error stop last →
        evaluate call site ts st = .error stop last) ∧
      ∀ opener last, (e.value call site).run st = .ok (.error opener) last →
        ∃ f, evaluate call site ts st = .error (.fault f) last ∧ Refusal ts opener f := by
  have hfollow : ∀ e : Expression, e.render = ts →
      Answers ts ((e.value call site).run st) (evaluate call site ts st) := by
    rintro e rfl
    exact evaluate_render call site e st
  -- A value comes from a tree, and a tree decides the result, whichever of the three it is.
  refine ⟨fun v last => ⟨fun h => ?_, ?_⟩, fun e he => ⟨fun stop last hstop => ?_, ?_⟩⟩
  · obtain ⟨e, he, hv⟩ := exists_of_evaluate h
    exact ⟨e, he, fun e' he' => Phrase.render_injective (he'.trans he.symm), hv⟩
  · rintro ⟨e, he, -, hv⟩
    have hst := hfollow e he
    rwa [hv] at hst
  · have hst := hfollow e he
    rwa [hstop] at hst
  · intro opener last hrest
    have hst := hfollow e he
    rwa [hrest] at hst

/-- A sum, a comparison and a call of a function that gives its argument back. -/
theorem evaluate_agrees_with_tree_call :
    let ts := Lexer.tokenize (utf8 "\"a\" + \"b\" == same(\"ab\")")
    let same := Function.ofNative (utf8 "same") [⟨utf8 "x", Param.anyType⟩] (.argument 0)
    let st := ((({} : State).newScope none).2.addFunction same).2.define ⟨0, 0⟩ 0
    ∃ (v : Value) (last : State) (e : Expression), v.equal (.bool true) = true ∧
      evaluate (callAt 1) ⟨0, 0⟩ ts st = .ok v last ∧ e.render = ts ∧
      (e.value (callAt 1) ⟨0, 0⟩).run st = .ok (.ok v) last := by
  intro ts same st
  have hrun : (result? (evaluate (callAt 1) ⟨0, 0⟩ ts st)).map (·.equal (.bool true)) =
      some true := by decide +kernel
  obtain ⟨v, last, hv, htrue⟩ := exists_of_map_result? (x := evaluate (callAt 1) ⟨0, 0⟩ ts)
    (f := fun v _ => v.equal (.bool true)) hrun
  obtain ⟨e, he, -, htree⟩ := ((evaluate_agrees_with_tree (callAt 1) ⟨0, 0⟩ ts st).1 v last).1 hv
  exact ⟨v, last, e, htrue, hv, he, htree⟩

/-- Evaluation is not strict where a name that holds a text is called: in `true + x()` the
right operand alone fails at its parenthesis, but the sum fails at its operator. -/
theorem failure?_sum_of_text_call :
    let st := (({} : State).newScope none).2.declare ⟨0, 0⟩ (utf8 "x") (.text (utf8 "s"))
    let operand : Phrase .operand :=
      .bareCall ⟨.ident, utf8 "x", 11⟩ ⟨.leftParen, utf8 "(", 12⟩ ⟨.rightParen, utf8 ")", 13⟩
        rfl rfl rfl
    let word : Phrase .product :=
      .lift (.constant ⟨.keyword, utf8 "true", 4⟩ (by decide)) (by decide)
    let sum : Phrase .sum :=
      .join (.lift word (by decide)) ⟨.plus, utf8 "+", 9⟩ (.lift operand (by decide)) (by decide)
    failure? (evaluate (callAt 0) ⟨0, 0⟩ operand.render st) = some (.malformed, 12) ∧
      failure? (evaluate (callAt 0) ⟨0, 0⟩ sum.render st) = some (.unsupportedOperation, 9) := by
  decide +kernel

end Quartz
