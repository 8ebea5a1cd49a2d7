import Quartz.Eval.Expression

/-!
# `Quartz.Proofs.Expression.Grammar`: expressions as trees

The evaluator reads tokens and builds no tree. This file gives the trees that it
could have built: a `Phrase` of a tier is an operand, or phrases of tighter tiers
joined by operators.

* `logic`: comparisons joined by `&&` and `||`, from left to right;
* `comparison`: one sum, or two sums with a comparison between them;
* `sum` and `product`: the arithmetic tiers, from left to right;
* `operand`: literals, names, calls, groups and signed operands.

A phrase keeps its tokens and the facts about their kinds, so every phrase is a
well-formed expression and `render` gives back the very tokens that it stands for.

`value` evaluates a tree, left side before right side before the operator. The one
thing that a tree can ask for and no operator can answer is a call of a name that
holds a value other than a function. Such a call has no fault of its own: `value`
throws the opening parenthesis, and what becomes of that is left to the reader of
the tokens.
-/

set_option autoImplicit false

namespace Quartz

/-- The tiers of an expression, the loosest first. -/
inductive Tier where
  | logic
  | comparison
  | sum
  | product
  | operand
  deriving DecidableEq, Repr

namespace Tier

/-- The next tighter tier. Nothing is tighter than an operand. -/
def below : Tier → Tier
  | .logic => .comparison
  | .comparison => .sum
  | .sum => .product
  | .product => .operand
  | .operand => .operand

/-- Whether an operator of a kind joins phrases of the tier to a chain. A comparison
is not compared again, so that tier has no chains. -/
def joins : Tier → Kind → Bool
  | .logic, k => k.isLogical
  | .sum, k => k.isArithmetic && k.priority = 1
  | .product, k => k.isArithmetic && k.priority = 2
  | .comparison, _ => false
  | .operand, _ => false

end Tier

mutual

/-- An expression of a tier. -/
inductive Phrase : Tier → Type where
  | literal (t : Token) (ht : t.kind = .number ∨ t.kind = .string) : Phrase .operand
  | constant (t : Token) (ht : (constant? t).isSome) : Phrase .operand
  | name (t : Token) (ht : t.kind = .ident) : Phrase .operand
  /-- A call without arguments. -/
  | bareCall (t opener closer : Token) (ht : t.kind = .ident) (ho : opener.kind = .leftParen)
      (hc : closer.kind = .rightParen) : Phrase .operand
  | call (t opener : Token) (args : Arguments) (closer : Token) (ht : t.kind = .ident)
      (ho : opener.kind = .leftParen) (hc : closer.kind = .rightParen) : Phrase .operand
  | group (opener : Token) (inner : Phrase .logic) (closer : Token)
      (ho : opener.kind = .leftParen) (hc : closer.kind = .rightParen) : Phrase .operand
  | negative (sign : Token) (x : Phrase .operand) (hs : sign.kind = .minus) : Phrase .operand
  | negation (sign : Token) (x : Phrase .operand) (hs : sign.kind = .not) : Phrase .operand
  /-- A phrase of the next tighter tier. -/
  | lift {tier : Tier} (x : Phrase tier.below) (hn : tier ≠ .operand) : Phrase tier
  /-- A chain of the tier with one more operator and what stands right of it. -/
  | join {tier : Tier} (l : Phrase tier) (op : Token) (r : Phrase tier.below)
      (hop : tier.joins op.kind) : Phrase tier
  | compare (l : Phrase .sum) (op : Token) (r : Phrase .sum) (hop : op.kind.isRelational) :
      Phrase .comparison

/-- The arguments of a call: expressions with commas between them. -/
inductive Arguments : Type where
  | last (x : Phrase .logic)
  | more (x : Phrase .logic) (comma : Token) (rest : Arguments) (hc : comma.kind = .comma)

end

/-- A whole expression. -/
abbrev Expression := Phrase .logic

/-! ### The tokens of a tree -/

mutual

/-- The tokens that a phrase stands for. -/
def Phrase.render : {tier : Tier} → Phrase tier → List Token
  | _, .literal t _ => [t]
  | _, .constant t _ => [t]
  | _, .name t _ => [t]
  | _, .bareCall t opener closer _ _ _ => [t, opener, closer]
  | _, .call t opener args closer _ _ _ => t :: opener :: (args.render ++ [closer])
  | _, .group opener inner closer _ _ => opener :: (inner.render ++ [closer])
  | _, .negative sign x _ => sign :: x.render
  | _, .negation sign x _ => sign :: x.render
  | _, .lift x _ => x.render
  | _, .join l op r _ => l.render ++ op :: r.render
  | _, .compare l op r _ => l.render ++ op :: r.render

/-- The tokens that arguments stand for. -/
def Arguments.render : Arguments → List Token
  | .last x => x.render
  | .more x comma rest _ => x.render ++ comma :: rest.render

end

/-! ### The value of a tree -/

/-- A run that can also come to rest at a token. -/
abbrev Reckoning := ExceptT Token Eval

/-- The callee of a call at a site. A name that means nothing is a fault, and one that
holds a value other than a function brings the run to rest at the parenthesis. -/
def calleeOf (site : Site) (t opener : Token) : Reckoning FunctionId := do
  let meaning := (← getThe State).meaning site t.literal
  match meaning.callee? with
  | some f => pure f
  | none =>
    if meaning.known then throw opener
    else ExceptT.lift (Eval.fail (.undefinedFunction t.literal) t.offset)

mutual

/-- The value of a phrase at a site. A name is looked up before the arguments behind
it are evaluated. -/
def Phrase.value (call : Caller) (site : Site) : {tier : Tier} → Phrase tier → Reckoning Value
  | _, .literal t _ => pure (.ofLiteral t.literal)
  | _, .constant t ht => pure ((constant? t).get ht)
  | _, .name t _ => do
    match ((← getThe State).meaning site t.literal).value? with
    | some v => pure v
    | none => ExceptT.lift (Eval.fail (.operand (.undefined t.literal)) t.offset)
  | _, .bareCall t opener _ _ _ _ => do
    let f ← calleeOf site t opener
    ExceptT.lift (Eval.mapFault (·.placedAt t.offset) (call f []))
  | _, .call t opener args _ _ _ _ => do
    let f ← calleeOf site t opener
    let vs ← args.values call site
    ExceptT.lift (Eval.mapFault (·.placedAt t.offset) (call f vs))
  | _, .group _ inner _ _ _ => inner.value call site
  | _, .negative sign x _ => do
    let v ← x.value call site
    ExceptT.lift (negate sign v)
  | _, .negation sign x _ => do
    let v ← x.value call site
    ExceptT.lift (Eval.ofOperator sign.offset (Value.applyUnary .not v))
  | _, .lift x _ => x.value call site
  | _, .join l op r _ => do
    let v ← l.value call site
    let w ← r.value call site
    ExceptT.lift (combine op v w)
  | _, .compare l op r _ => do
    let v ← l.value call site
    let w ← r.value call site
    ExceptT.lift (combine op v w)

/-- The values of arguments, from left to right. -/
def Arguments.values (call : Caller) (site : Site) : Arguments → Reckoning (List Value)
  | .last x => do
    let v ← x.value call site
    pure [v]
  | .more x _ rest _ => do
    let v ← x.value call site
    let vs ← rest.values call site
    pure (v :: vs)

end

end Quartz
