import Quartz.Eval.Call
import Quartz.Proofs.Declaration.Written
import Quartz.Proofs.Eval.Trace

/-!
# `Quartz.Proofs.Eval.Chain`: which branch of a conditional runs

A `Chain` is an `if` with any number of `else if` behind it and perhaps an `else`, cut into
its words, conditions and bodies. Its parts carry what makes it well formed: each word is
the reserved word it should be, and what stands between two brackets is balanced in their
kind (`Group`). `Chain.render` are the tokens.

`choose` is the meaning of a chain: it evaluates one condition after the other up to the
first that is true, and gives the body that belongs to it, or that of the `else`. `resume`
runs what was chosen and then what stands behind the chain. The readers do the same with a
flag that says whether a body was run already, and they walk over the tokens of the bodies
and conditions that are left out:

* `alternative_of_taken`: once the flag is set, the rest of a chain is passed over;
* `alternative_of_open`: before that, the rest of a chain is `choose` and `resume` on the
  conditions to come.

The main theorem `run_chain` puts them together for a chain at the front of any tokens.
-/

set_option autoImplicit false

namespace Quartz

/-! ### Chains and their parts -/

/-- A reserved word. -/
abbrev Word (k : Keyword) : Type := { t : Token // t.isKeyword k = true }

/-- Tokens in a pair of brackets, balanced in the kind of the pair. -/
structure Group (opener closer : Kind) where
  left : Token
  inner : List Token
  right : Token
  left_kind : left.kind = opener
  right_kind : right.kind = closer
  balanced : Bracket.Balanced opener closer inner

/-- The tokens of a group. -/
def Group.render {opener closer : Kind} (g : Group opener closer) : List Token :=
  g.left :: (g.inner ++ [g.right])

/-- An `if` with its condition and its body. -/
structure Arm where
  word : Word .cond
  test : Group .leftParen .rightParen
  body : Group .leftBrace .rightBrace
  test_ne_nil : test.inner ≠ []

/-- The tokens of an arm. -/
def Arm.render (a : Arm) : List Token := a.word.1 :: (a.test.render ++ a.body.render)

/-- An `if`, the arms that follow behind an `else` each, and perhaps a last `else`. -/
structure Chain where
  first : Arm
  others : List (Word .alternative × Arm)
  last : Option (Word .alternative × Group .leftBrace .rightBrace)

namespace Chain

/-- The tokens behind an arm. -/
def tail (others : List (Word .alternative × Arm))
    (last : Option (Word .alternative × Group .leftBrace .rightBrace)) : List Token :=
  others.flatMap (fun o => o.1.1 :: o.2.render) ++ last.elim [] fun l => l.1.1 :: l.2.render

/-- The tokens of a chain. -/
def render (c : Chain) : List Token := c.first.render ++ tail c.others c.last

/-- All conditions with their bodies, in order. -/
def arms (c : Chain) : List Arm := c.first :: c.others.map Prod.snd

/-- The body for the case that no condition holds. -/
def otherwise (c : Chain) : Option (List Token) := c.last.map (·.2.inner)

end Chain

/-! ### What a chain means -/

section

variable (call : Caller) (site : Site) (shadow : Bool) (ends : Int)

/-- The body to run: conditions are evaluated in order up to the first that is true. A
condition that is no truth value is a failure at its `if`. -/
def choose (otherwise : Option (List Token)) : List Arm → Eval (Option (List Token))
  | [] => pure otherwise
  | a :: arms => do
    match ← evaluate call site a.test.inner with
    | .bool true => pure (some a.body.inner)
    | .bool false => choose otherwise arms
    | v => Eval.fail (.conditionType v.typeName) a.word.1.offset

/-- Runs the body that was chosen at the same site, and then what follows. A `return` in the
body ends the run. The value of the body, if it has one, replaces the one before. -/
def resume (last : Option Value) (rest : List Token) : Option (List Token) → Eval Flow
  | none => run call site shadow ends ⟨none, last⟩ rest
  | some body => do
    match ← run call site shadow (Token.endOffset body) {} body with
    | .returned v offset => pure (.returned v offset)
    | .finished q => run call site shadow ends ⟨none, q.value <|> last⟩ rest

end

section

variable {call : Caller} {site : Site} {shadow : Bool} {ends : Int} {rest : List Token}

/-- The conditions of some arms come before those of the arms behind them, which count only
if all of them are false. -/
theorem choose_append (otherwise : Option (List Token)) (front back : List Arm) :
    choose call site otherwise (front ++ back) = (do
      match ← choose call site none front with
      | some body => pure (some body)
      | none => choose call site otherwise back) := by
  induction front with
  | nil => simp [choose]
  | cons a front ih =>
    simp only [List.cons_append, choose, bind_assoc]
    refine bind_congr fun v => ?_
    cases v with
    | bool b =>
      cases b with
      | false => exact ih
      | true => simp
    | _ => rfl

/-! ### The readers on the parts of a chain -/

theorem Group.bracketed {opener closer : Kind} (hk : Bracket.closer? opener = some closer)
    (g : Group opener closer) (absent unclosed : Malformation) (rest : List Token) :
    Declaration.bracketed opener absent unclosed ends (g.render ++ rest) = .ok (g.inner, rest) := by
  refine (Declaration.bracketed_eq_ok_iff hk).2
    ⟨g.left, g.right, ?_, g.left_kind, g.right_kind, g.balanced.closed⟩
  simp [Group.render]

/-- An arm with its word read: its condition decides whether its body is the one to run,
unless a body was run before. -/
theorem conditional_arm (a : Arm) (last : Option Value) (taken : Bool) (offset : Int) :
    conditional call site shadow ends last taken offset
        (a.test.render ++ (a.body.render ++ rest)) =
      (do
        let holds ← (if taken then pure false
          else do decideCondition offset (← evaluate call site a.test.inner))
        let flow ← (if holds then
            run call site shadow (Token.endOffset a.body.inner) {} a.body.inner
          else pure (.finished {}))
        match flow with
        | .returned v o => pure (.returned v o)
        | .finished p =>
          alternative call site shadow ends (p.value <|> last) (taken || holds) rest) := by
  have hread := conditional_eq call site shadow ends last taken offset
    (a.test.render ++ (a.body.render ++ rest))
  rw [a.test.bracketed rfl] at hread
  dsimp only at hread
  rw [a.body.bracketed rfl] at hread
  simp only [arm, condition, if_neg a.test_ne_nil] at hread
  exact hread

/-- An arm behind a body that was run is passed over. -/
theorem conditional_arm_of_taken (a : Arm) (v : Option Value) (offset : Int) :
    conditional call site shadow ends v true offset (a.test.render ++ (a.body.render ++ rest)) =
      alternative call site shadow ends v true rest := by
  rw [conditional_arm]
  simp [Progress.value]

/-- An `else` in front of an arm hands over to the arm. -/
theorem alternative_arm (w : Word .alternative) (a : Arm) (last : Option Value) (taken : Bool) :
    alternative call site shadow ends last taken (w.1 :: (a.render ++ rest)) =
      conditional call site shadow ends last taken a.word.1.offset
        (a.test.render ++ (a.body.render ++ rest)) := by
  rw [Arm.render, List.cons_append, List.append_assoc, alternative_cons, if_pos w.2]
  exact if_pos a.word.2

/-- An `else` in front of a body hands over to the body, whose brace is not an `if`. -/
theorem alternative_group (w : Word .alternative) (g : Group .leftBrace .rightBrace)
    (last : Option Value) (taken : Bool) :
    alternative call site shadow ends last taken (w.1 :: (g.render ++ rest)) =
      (do
        let flow ← (if taken then pure (.finished {})
          else run call site shadow (Token.endOffset g.inner) {} g.inner)
        match flow with
        | .returned v o => pure (.returned v o)
        | .finished p => run call site shadow ends ⟨none, p.value <|> last⟩ rest) := by
  have hbrace : ¬ g.left.isKeyword .cond = true := by
    intro h
    have hkind := (Token.kind_of_isKeyword h).1
    rw [g.left_kind] at hkind
    cases hkind
  have hfinal : alternative call site shadow ends last taken (w.1 :: (g.render ++ rest)) =
      final call site shadow ends last taken (g.render ++ rest) := by
    rw [Group.render, List.cons_append, alternative_cons, if_pos w.2]
    exact if_neg hbrace
  rw [final_eq, g.bracketed rfl] at hfinal
  exact hfinal

/-! ### The rest of a chain -/

section

variable (w : Word .alternative) (a : Arm) (others : List (Word .alternative × Arm))
  (last : Option (Word .alternative × Group .leftBrace .rightBrace))

theorem Chain.tail_cons_append :
    Chain.tail ((w, a) :: others) last ++ rest =
      w.1 :: (a.render ++ (Chain.tail others last ++ rest)) := by
  simp [Chain.tail]

theorem Chain.tail_some_append (g : Group .leftBrace .rightBrace) :
    Chain.tail [] (some (w, g)) ++ rest = w.1 :: (g.render ++ rest) := by
  simp [Chain.tail]

variable (hrest : opensAlternative rest = false) (v : Option Value)
include hrest

/-- Behind the body that was run, the rest of a chain is passed over. -/
theorem alternative_of_taken :
    alternative call site shadow ends v true (Chain.tail others last ++ rest) =
      run call site shadow ends ⟨none, v⟩ rest := by
  induction others with
  | nil =>
    cases last with
    | none => exact alternative_of_not_opens hrest v true
    | some l =>
      rw [Chain.tail_some_append, alternative_group]
      simp [Progress.value]
  | cons o others ih =>
    rw [Chain.tail_cons_append, alternative_arm, conditional_arm_of_taken]
    exact ih

/-- An arm in front of the rest of a chain, with no body run before: its own body is chosen
if its condition is true, and the rest decides if it is false. -/
theorem conditional_of_open
    (htail : alternative call site shadow ends v false (Chain.tail others last ++ rest) =
      choose call site (last.map (·.2.inner)) (others.map Prod.snd) >>=
        resume call site shadow ends v rest) :
    conditional call site shadow ends v false a.word.1.offset
        (a.test.render ++ (a.body.render ++ (Chain.tail others last ++ rest))) =
      choose call site (last.map (·.2.inner)) (a :: others.map Prod.snd) >>=
        resume call site shadow ends v rest := by
  rw [conditional_arm]
  simp only [choose, bind_assoc, Bool.false_eq_true, if_false, Bool.false_or]
  refine bind_congr fun value => ?_
  cases value with
  | bool b =>
    cases b with
    | false => simpa [decideCondition, Progress.value] using htail
    | true =>
      simp only [decideCondition, pure_bind, if_true, resume]
      refine bind_congr fun flow => ?_
      cases flow with
      | returned u offset => rfl
      | finished q => exact alternative_of_taken others last hrest _
  | _ => rfl

/-- Before a body was run, the conditions in the rest of a chain decide. -/
theorem alternative_of_open :
    alternative call site shadow ends v false (Chain.tail others last ++ rest) =
      choose call site (last.map (·.2.inner)) (others.map Prod.snd) >>=
        resume call site shadow ends v rest := by
  induction others with
  | nil =>
    cases last with
    | none =>
      simp only [List.map_nil, Option.map_none, choose, pure_bind, resume]
      exact alternative_of_not_opens hrest v false
    | some l =>
      rw [Chain.tail_some_append, alternative_group]
      simp [choose, resume]
  | cons o others ih =>
    rw [Chain.tail_cons_append, alternative_arm]
    exact conditional_of_open o.2 others last hrest v ih

end

/-- **A chain runs the first body whose condition holds.** From a statement boundary, in every
state, a chain in front of tokens that do not start with `else` evaluates its conditions in
order up to the first that is true, runs the body that belongs to it, or that of the `else` if
there is none, and goes on with what follows. What the first conditions decide stands whatever
the other conditions and bodies are, and a condition that is reached and gives no truth value
is an invalid condition at its `if`. -/
theorem run_chain (c : Chain) (hrest : opensAlternative rest = false) (p : Progress)
    (hp : p.pending = none) :
    run call site shadow ends p (c.render ++ rest) =
        choose call site c.otherwise c.arms >>= resume call site shadow ends p.last rest ∧
      (∀ n body st mid, choose call site none (c.arms.take n) st = .ok (some body) mid →
        run call site shadow ends p (c.render ++ rest) st =
          resume call site shadow ends p.last rest (some body) mid) ∧
      ∀ n a v st mid mid', c.arms[n]? = some a →
        choose call site none (c.arms.take n) st = .ok none mid →
        evaluate call site a.test.inner mid = .ok v mid' → (∀ b, v ≠ .bool b) →
        failure? (run call site shadow ends p (c.render ++ rest) st) =
          some (.invalidCondition, a.word.1.offset) := by
  have heq : run call site shadow ends p (c.render ++ rest) =
      choose call site c.otherwise c.arms >>= resume call site shadow ends p.last rest := by
    have hrequire : p.require .beforeIf c.first.word.1.offset = pure () := by
      simp [Progress.require, hp]
    rw [Chain.render, Arm.render, List.append_assoc, List.cons_append, List.append_assoc,
      Token.run_of_isKeyword c.first.word.2, keywordStatement,
      (Token.kind_of_isKeyword c.first.word.2).2]
    dsimp only
    rw [hrequire, pure_bind]
    exact conditional_of_open c.first c.others c.last hrest p.last
      (alternative_of_open c.others c.last hrest p.last)
  refine ⟨heq, ?_, ?_⟩
  · intro n body st mid hfront
    have hchosen : choose call site c.otherwise c.arms st = .ok (some body) mid := by
      rw [← List.take_append_drop n c.arms, choose_append]
      exact Eval.bind_of_ok hfront
    rw [heq]
    exact Eval.bind_of_ok hchosen
  · intro n a v st mid mid' ha hfront hv hne
    have hback : choose call site c.otherwise (c.arms.drop n) mid =
        .error (.fault (.runtime ⟨.conditionType v.typeName, a.word.1.offset⟩)) mid' := by
      obtain ⟨hn, rfl⟩ := List.getElem?_eq_some_iff.1 ha
      rw [List.drop_eq_getElem_cons hn, choose, Eval.bind_of_ok hv]
      cases v with
      | bool b => exact absurd rfl (hne b)
      | _ => rfl
    have hfails : choose call site c.otherwise c.arms st =
        .error (.fault (.runtime ⟨.conditionType v.typeName, a.word.1.offset⟩)) mid' := by
      rw [← List.take_append_drop n c.arms, choose_append]
      exact (Eval.bind_of_ok hfront).trans hback
    rw [heq, Eval.bind_of_error hfails]
    rfl

/-- The second of three arms runs. The third condition is no truth value, and is not read. -/
theorem run_chain_second :
    let word (k : String) (offset : Int) : Token := ⟨.keyword, utf8 k, offset⟩
    let skipped : Arm := ⟨⟨word "if" 0, by decide⟩,
      ⟨⟨.leftParen, utf8 "(", 3⟩, [word "false" 4], ⟨.rightParen, utf8 ")", 9⟩, rfl, rfl,
        by decide⟩,
      ⟨⟨.leftBrace, utf8 "\x7b", 11⟩, [word "else" 12], ⟨.rightBrace, utf8 "\x7d", 16⟩, rfl, rfl,
        by decide⟩, by simp⟩
    let taken : Arm := ⟨⟨word "if" 23, by decide⟩,
      ⟨⟨.leftParen, utf8 "(", 26⟩, [word "true" 27], ⟨.rightParen, utf8 ")", 31⟩, rfl, rfl,
        by decide⟩,
      ⟨⟨.leftBrace, utf8 "\x7b", 33⟩, [word "true" 34, ⟨.semicolon, utf8 ";", 38⟩],
        ⟨.rightBrace, utf8 "\x7d", 39⟩, rfl, rfl, by decide⟩, by simp⟩
    let unread : Arm := ⟨⟨word "if" 46, by decide⟩,
      ⟨⟨.leftParen, utf8 "(", 49⟩, [word "null" 50], ⟨.rightParen, utf8 ")", 54⟩, rfl, rfl,
        by decide⟩,
      ⟨⟨.leftBrace, utf8 "\x7b", 56⟩, [word "else" 57], ⟨.rightBrace, utf8 "\x7d", 61⟩, rfl, rfl,
        by decide⟩, by simp⟩
    let c : Chain := ⟨skipped, [(⟨word "else" 18, by decide⟩, taken),
      (⟨word "else" 41, by decide⟩, unread)], none⟩
    let start : Progress := {}
    opensAlternative [] = false ∧ start.pending = none ∧
      result? (choose (callAt 0) ⟨0, 0⟩ c.otherwise c.arms {}) = some (some taken.body.inner) ∧
      ∃ mid, choose (callAt 0) ⟨0, 0⟩ none (c.arms.take 2) {} = .ok (some taken.body.inner) mid ∧
        run (callAt 0) ⟨0, 0⟩ false 62 start (c.render ++ []) {} =
          resume (callAt 0) ⟨0, 0⟩ false 62 start.last [] (some taken.body.inner) mid := by
  intro word skipped taken unread c start
  have hall : result? (choose (callAt 0) ⟨0, 0⟩ c.otherwise c.arms {}) =
      some (some taken.body.inner) := by decide +kernel
  have htwo : result? (choose (callAt 0) ⟨0, 0⟩ none (c.arms.take 2) {}) =
      some (some taken.body.inner) := by decide +kernel
  obtain ⟨body, mid, hchosen⟩ := exists_of_result? (Option.isSome_of_eq_some htwo)
  rw [hchosen] at htwo
  cases htwo
  exact ⟨rfl, rfl, hall, mid, hchosen, (run_chain c rfl start rfl).2.1 2 _ _ _ hchosen⟩

end

end Quartz
