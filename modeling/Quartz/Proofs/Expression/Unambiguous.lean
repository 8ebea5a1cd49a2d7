import Quartz.Proofs.Expression.Grammar

/-!
# `Quartz.Proofs.Expression.Unambiguous`: tokens determine the tree

Two phrases of one tier with the same tokens are the same phrase
(`Phrase.render_injective`). The proof reads both from the left at once, with further
tokens behind them that cannot belong to a phrase of the tier (`Tier.Stops`).

A chain leans to the left, so the first tokens of a longer chain can be a shorter chain.
The statement that carries the induction is therefore about one chain being the
beginning of the other: if only the tokens behind the second are known to stop the
tier, the second phrase is the first one with links added (`Phrase.extend`), and these
links are what the tokens behind the first one spell. Where both stop the tier, there
are no links left to add.
-/

set_option autoImplicit false

namespace Quartz

namespace Tier

/-- Whether a token of a kind behind a phrase of the tier would be read as part of it.
A parenthesis turns a name into a call. -/
def continues : Tier → Kind → Bool
  | .logic, k => k.isLogical || k.isRelational || k.isArithmetic || k = .leftParen
  | .comparison, k => k.isRelational || k.isArithmetic || k = .leftParen
  | .sum, k => k.isArithmetic || k = .leftParen
  | .product, k => joins .product k || k = .leftParen
  | .operand, k => k = .leftParen

/-- The tokens do not go on with a phrase of the tier. -/
def Stops (tier : Tier) (ts : List Token) : Prop :=
  ∀ t ∈ ts.head?, tier.continues t.kind = false

/-- What goes on with a tighter phrase goes on with a looser one. -/
theorem continues_of_below {tier : Tier} {k : Kind} (h : tier.below.continues k) :
    tier.continues k := by
  cases tier <;> cases k <;> simp_all [continues, below, joins, Kind.isLogical,
    Kind.isRelational, Kind.isArithmetic, Kind.priority]

theorem continues_of_joins {tier : Tier} {k : Kind} (h : tier.joins k) : tier.continues k := by
  cases tier <;> simp_all [continues, joins]

/-- An operator of a tier ends what stands to its left in the tier below. -/
theorem not_continues_below_of_joins {tier : Tier} {k : Kind} (h : tier.joins k) :
    tier.below.continues k = false := by
  cases tier <;> cases k <;> simp_all [continues, below, joins, Kind.isLogical,
    Kind.isRelational, Kind.isArithmetic, Kind.priority]

theorem not_continues_sum_of_isRelational {k : Kind} (h : k.isRelational) :
    Tier.sum.continues k = false := by
  cases k <;> simp_all [continues, Kind.isRelational, Kind.isArithmetic]

theorem Stops.below {tier : Tier} {ts : List Token} (h : tier.Stops ts) :
    tier.below.Stops ts := by
  intro t ht
  have := h t ht
  cases hb : tier.below.continues t.kind with
  | false => rfl
  | true => rw [continues_of_below hb] at this; exact this

theorem stops_cons {tier : Tier} {t : Token} {ts : List Token} :
    tier.Stops (t :: ts) ↔ tier.continues t.kind = false := by
  simp [Stops]

theorem stops_nil (tier : Tier) : tier.Stops [] := by
  simp [Stops]

end Tier

/-- A closing parenthesis ends a phrase of every tier. -/
theorem stops_closer (tier : Tier) {c : Token} (hc : c.kind = .rightParen) (ts : List Token) :
    tier.Stops (c :: ts) := by
  rw [Tier.stops_cons, hc]
  cases tier <;> rfl

theorem stops_comma (tier : Tier) {c : Token} (hc : c.kind = .comma) (ts : List Token) :
    tier.Stops (c :: ts) := by
  rw [Tier.stops_cons, hc]
  cases tier <;> rfl

theorem keyword_of_constant? {t : Token} (h : (constant? t).isSome) : t.kind = .keyword := by
  unfold constant? Token.keyword? at h
  split at h <;> simp_all

/-! ### How a phrase begins -/

/-- The kinds of token that an operand can start with. -/
def Kind.startsOperand : Kind → Bool
  | .number | .string | .keyword | .ident | .leftParen | .minus | .not => true
  | _ => false

theorem Phrase.render_eq_cons : {tier : Tier} → (x : Phrase tier) →
    ∃ t ts, x.render = t :: ts ∧ t.kind.startsOperand
  | _, .literal t ht => ⟨t, [], rfl, by rcases ht with h | h <;> rw [h] <;> rfl⟩
  | _, .constant t ht => ⟨t, [], rfl, by rw [keyword_of_constant? ht]; rfl⟩
  | _, .name t ht => ⟨t, [], rfl, by rw [ht]; rfl⟩
  | _, .bareCall t _ _ ht _ _ => ⟨t, _, rfl, by rw [ht]; rfl⟩
  | _, .call t _ _ _ ht _ _ => ⟨t, _, rfl, by rw [ht]; rfl⟩
  | _, .group o _ _ ho _ => ⟨o, _, rfl, by rw [ho]; rfl⟩
  | _, .negative s _ hs => ⟨s, _, rfl, by rw [hs]; rfl⟩
  | _, .negation s _ hs => ⟨s, _, rfl, by rw [hs]; rfl⟩
  | _, .lift x _ => x.render_eq_cons
  | _, .join l op r _ => by
      obtain ⟨t, ts, h, hk⟩ := l.render_eq_cons
      exact ⟨t, ts ++ op :: r.render, by rw [Phrase.render, h]; rfl, hk⟩
  | _, .compare l op r _ => by
      obtain ⟨t, ts, h, hk⟩ := l.render_eq_cons
      exact ⟨t, ts ++ op :: r.render, by rw [Phrase.render, h]; rfl, hk⟩

theorem Arguments.render_eq_cons (args : Arguments) :
    ∃ t ts, args.render = t :: ts ∧ t.kind.startsOperand := by
  cases args with
  | last x => exact x.render_eq_cons
  | more x comma rest hc =>
    obtain ⟨t, ts, h, hk⟩ := x.render_eq_cons
    exact ⟨t, ts ++ comma :: rest.render, by rw [Arguments.render, h]; rfl, hk⟩

/-! ### Chains -/

/-- One operator of a tier and the phrase right of it. -/
structure Link (tier : Tier) where
  op : Token
  right : Phrase tier.below
  joins : tier.joins op.kind

namespace Phrase

variable {tier : Tier}

/-- A chain with links added at its right end. -/
def extend (x : Phrase tier) : List (Link tier) → Phrase tier
  | [] => x
  | k :: ks => (join x k.op k.right k.joins).extend ks

/-- The tokens of links. -/
def renderLinks : List (Link tier) → List Token
  | [] => []
  | k :: ks => k.op :: (k.right.render ++ renderLinks ks)

theorem extend_append (x : Phrase tier) (ks ls : List (Link tier)) :
    x.extend (ks ++ ls) = (x.extend ks).extend ls := by
  induction ks generalizing x with
  | nil => rfl
  | cons k ks ih => exact ih _

theorem renderLinks_append (ks ls : List (Link tier)) :
    renderLinks (ks ++ ls) = renderLinks ks ++ renderLinks ls := by
  induction ks with
  | nil => rfl
  | cons k ks ih => simp [renderLinks, ih]

/-- A phrase of a tier with chains is a phrase of the tier below with links. -/
theorem exists_extend : {tier : Tier} → (hn : tier ≠ .operand) → (hc : tier ≠ .comparison) →
    (x : Phrase tier) → ∃ (h : Phrase tier.below) (ks : List (Link tier)),
      x = (lift h hn).extend ks ∧ x.render = h.render ++ renderLinks ks
  | _, _, _, .lift h _ => ⟨h, [], rfl, by simp [render, renderLinks]⟩
  | _, hn, hc, .join l op r hop => by
      obtain ⟨h, ks, hl, hr⟩ := exists_extend hn hc l
      -- The last link of the chain goes to the end of the list.
      refine ⟨h, ks ++ [⟨op, r, hop⟩], ?_, ?_⟩
      · rw [extend_append, ← hl]
        rfl
      · rw [render, hr, renderLinks_append]
        simp [renderLinks]
  | _, _, hc, .compare .. => absurd rfl hc
  | _, hn, _, .literal .. | _, hn, _, .constant .. | _, hn, _, .name ..
  | _, hn, _, .bareCall .. | _, hn, _, .call .. | _, hn, _, .group ..
  | _, hn, _, .negative .. | _, hn, _, .negation .. => absurd rfl hn

/-! ### Two phrases with the same tokens -/

/-- A phrase is the only one of its tier that its tokens spell, as long as the tokens
behind it do not belong to it. -/
def Determined (x : Phrase tier) : Prop :=
  ∀ (y : Phrase tier) (r s : List Token), x.render ++ r = y.render ++ s →
    tier.Stops r → tier.Stops s → x = y ∧ r = s

/-- Every phrase that starts with the tokens of a chain is that chain with links added,
and the tokens behind the chain are the links. -/
def Initial (x : Phrase tier) : Prop :=
  ∀ (y : Phrase tier) (r s : List Token), x.render ++ r = y.render ++ s →
    tier.below.Stops r → tier.Stops s →
      ∃ ks : List (Link tier), y = x.extend ks ∧ r = renderLinks ks ++ s

theorem Initial.determined {x : Phrase tier} (h : x.Initial) : x.Determined := by
  intro y r s he hr hs
  obtain ⟨ks, rfl, hk⟩ := h y r s he hr.below hs
  cases ks with
  | nil => exact ⟨rfl, hk⟩
  | cons k ks =>
    -- A link would start with an operator that the tokens behind `x` cannot start with.
    rw [hk, renderLinks, List.cons_append, Tier.stops_cons,
      Tier.continues_of_joins k.joins] at hr
    exact nomatch hr

theorem stops_renderLinks (ks : List (Link tier)) {s : List Token} (hs : tier.Stops s) :
    tier.below.Stops (renderLinks ks ++ s) := by
  cases ks with
  | nil => exact hs.below
  | cons k ks =>
    rw [renderLinks, List.cons_append, Tier.stops_cons]
    exact Tier.not_continues_below_of_joins k.joins

theorem Determined.initial_lift {h : Phrase tier.below} (hd : h.Determined)
    (hn : tier ≠ .operand) (hc : tier ≠ .comparison) : (lift h hn).Initial := by
  intro y r s he hr hs
  -- Take the links off `y`. What is left is a phrase of the tier below, as `h` is.
  obtain ⟨h', ks, rfl, hy⟩ := exists_extend hn hc y
  rw [render, hy, List.append_assoc] at he
  obtain ⟨rfl, hrs⟩ := hd h' r _ he hr (stops_renderLinks ks hs)
  exact ⟨ks, rfl, hrs⟩

theorem Initial.join {l : Phrase tier} {r : Phrase tier.below} {op : Token}
    (hl : l.Initial) (hr : r.Determined) (hop : tier.joins op.kind) :
    (Phrase.join l op r hop).Initial := by
  intro y u s he hu hs
  rw [render, List.append_assoc, List.cons_append] at he
  -- `y` starts with the tokens of `l` too, so it is `l` with links.
  obtain ⟨ks, rfl, hk⟩ := hl y _ s he
    (Tier.stops_cons.2 (Tier.not_continues_below_of_joins hop)) hs
  cases ks with
  | nil =>
    -- Without a link the operator would stand behind `y`, where nothing may go on.
    rw [renderLinks, List.nil_append] at hk
    rw [← hk, Tier.stops_cons, Tier.continues_of_joins hop] at hs
    exact nomatch hs
  | cons k ks =>
    -- The first link of `y` behind `l` has the operator and the right side of the chain.
    rw [renderLinks, List.cons_append, List.append_assoc, List.cons.injEq] at hk
    obtain ⟨rfl, hk⟩ := hk
    obtain ⟨rfl, hus⟩ := hr k.right u _ hk hu (stops_renderLinks ks hs)
    exact ⟨ks, rfl, hus⟩

theorem Determined.lift_comparison {x : Phrase .sum} (hx : x.Determined) :
    (lift x (by decide) : Phrase .comparison).Determined := by
  intro y r s he hr hs
  cases y with
  | lift x' =>
    obtain ⟨rfl, hrs⟩ := hx x' r s he hr.below hs.below
    exact ⟨rfl, hrs⟩
  | join _ _ _ hop => exact nomatch hop
  | compare l op r' hop =>
    -- The left side is `x`, so the comparison sign would stand behind `x`.
    have he : x.render ++ r = l.render ++ op :: (r'.render ++ s) := by
      simp only [render, List.append_assoc, List.cons_append] at he
      exact he
    obtain ⟨-, rfl⟩ := hx l r _ he hr.below
      (Tier.stops_cons.2 (Tier.not_continues_sum_of_isRelational hop))
    rw [Tier.stops_cons] at hr
    simp [Tier.continues, hop] at hr

theorem Determined.compare {l r : Phrase .sum} {op : Token} (hl : l.Determined)
    (hr : r.Determined) (hop : op.kind.isRelational) :
    (Phrase.compare l op r hop).Determined := by
  intro y u s he hu hs
  rw [render, List.append_assoc, List.cons_append] at he
  have hstop : Tier.sum.Stops (op :: (r.render ++ u)) :=
    Tier.stops_cons.2 (Tier.not_continues_sum_of_isRelational hop)
  cases y with
  | lift x' =>
    -- The other way round: the comparison sign would stand behind `y`.
    obtain ⟨-, rfl⟩ := hl x' _ s he hstop hs.below
    rw [Tier.stops_cons] at hs
    simp [Tier.continues, hop] at hs
  | join _ _ _ hop => exact nomatch hop
  | compare l' op' r' hop' =>
    rw [render, List.append_assoc, List.cons_append] at he
    obtain ⟨rfl, hop⟩ := hl l' _ _ he hstop
      (Tier.stops_cons.2 (Tier.not_continues_sum_of_isRelational hop'))
    rw [List.cons.injEq] at hop
    obtain ⟨rfl, hright⟩ := hop
    obtain ⟨rfl, hus⟩ := hr r' u s hright hu.below hs.below
    exact ⟨rfl, hus⟩

theorem determined_literal (t : Token) (ht : t.kind = .number ∨ t.kind = .string) :
    (literal t ht).Determined := by
  intro y r s he hr hs
  cases y <;> grind [render, Tier.joins, keyword_of_constant?]

theorem determined_constant (t : Token) (ht : (constant? t).isSome) :
    (constant t ht).Determined := by
  intro y r s he hr hs
  cases y <;> grind [render, Tier.joins, keyword_of_constant?]

/-- A name is no call as long as no parenthesis follows. -/
theorem determined_name (t : Token) (ht : t.kind = .ident) : (name t ht).Determined := by
  intro y r s he hr hs
  cases y <;> grind [render, Tier.joins, keyword_of_constant?, Tier.stops_cons, Tier.continues]

theorem determined_bareCall (t opener closer : Token) (ht : t.kind = .ident)
    (ho : opener.kind = .leftParen) (hc : closer.kind = .rightParen) :
    (bareCall t opener closer ht ho hc).Determined := by
  intro y r s he hr hs
  cases y with
  | call _ _ args =>
    -- What follows the parenthesis would have to start an argument.
    obtain ⟨u, us, hu, hk⟩ := args.render_eq_cons
    grind [render, Kind.startsOperand]
  | _ => grind [render, Tier.joins, keyword_of_constant?, Tier.stops_cons, Tier.continues]

theorem Determined.group {inner : Expression} (hi : inner.Determined) (opener closer : Token)
    (ho : opener.kind = .leftParen) (hc : closer.kind = .rightParen) :
    (group opener inner closer ho hc).Determined := by
  intro y r s he hr hs
  cases y with
  | group opener' inner' closer' ho' hc' =>
    simp only [render, List.cons_append, List.append_assoc, List.nil_append,
      List.cons.injEq] at he
    obtain ⟨rfl, he⟩ := he
    -- The inner expression ends at the parenthesis in both readings.
    obtain ⟨rfl, hclose⟩ := hi inner' _ _ he (stops_closer _ hc r) (stops_closer _ hc' s)
    rw [List.cons.injEq] at hclose
    obtain ⟨rfl, rfl⟩ := hclose
    exact ⟨rfl, rfl⟩
  | _ => grind [render, Tier.joins, keyword_of_constant?]

theorem Determined.negative {x : Phrase .operand} (hx : x.Determined) (sign : Token)
    (hs : sign.kind = .minus) : (Phrase.negative sign x hs).Determined := by
  intro y r s he hr hs'
  cases y with
  | negative sign' x' _ =>
    simp only [render, List.cons_append, List.cons.injEq] at he
    obtain ⟨rfl, he⟩ := he
    obtain ⟨rfl, rfl⟩ := hx x' r s he hr hs'
    exact ⟨rfl, rfl⟩
  | _ => grind [render, Tier.joins, keyword_of_constant?]

theorem Determined.negation {x : Phrase .operand} (hx : x.Determined) (sign : Token)
    (hs : sign.kind = .not) : (Phrase.negation sign x hs).Determined := by
  intro y r s he hr hs'
  cases y with
  | negation sign' x' _ =>
    simp only [render, List.cons_append, List.cons.injEq] at he
    obtain ⟨rfl, he⟩ := he
    obtain ⟨rfl, rfl⟩ := hx x' r s he hr hs'
    exact ⟨rfl, rfl⟩
  | _ => grind [render, Tier.joins, keyword_of_constant?]

end Phrase

namespace Arguments

/-- Arguments are the only ones that their tokens spell up to a closing parenthesis. -/
def Determined (args : Arguments) : Prop :=
  ∀ (more : Arguments) (c d : Token) (r s : List Token),
    args.render ++ c :: r = more.render ++ d :: s →
    c.kind = .rightParen → d.kind = .rightParen → args = more ∧ c = d ∧ r = s

theorem determined_last {x : Expression} (hx : x.Determined) : (last x).Determined := by
  intro more c d r s he hc hd
  cases more with
  | last x' =>
    obtain ⟨rfl, hclose⟩ := hx x' _ _ he (stops_closer _ hc r) (stops_closer _ hd s)
    rw [List.cons.injEq] at hclose
    exact ⟨rfl, hclose⟩
  | more x' comma rest hcomma =>
    rw [render, render, List.append_assoc, List.cons_append] at he
    -- The first argument ends once at a parenthesis and once at a comma.
    obtain ⟨-, he⟩ := hx x' _ _ he (stops_closer _ hc r) (stops_comma _ hcomma _)
    rw [List.cons.injEq] at he
    obtain ⟨rfl, -⟩ := he
    exact nomatch hc.symm.trans hcomma

theorem determined_more {x : Expression} {rest : Arguments} (hx : x.Determined)
    (hrest : rest.Determined) (comma : Token) (hcomma : comma.kind = .comma) :
    (more x comma rest hcomma).Determined := by
  intro args c d r s he hc hd
  rw [render, List.append_assoc, List.cons_append] at he
  cases args with
  | last x' =>
    obtain ⟨-, he⟩ := hx x' _ _ he (stops_comma _ hcomma _) (stops_closer _ hd s)
    rw [List.cons.injEq] at he
    obtain ⟨rfl, -⟩ := he
    exact nomatch hd.symm.trans hcomma
  | more x' comma' rest' hcomma' =>
    rw [render, List.append_assoc, List.cons_append] at he
    obtain ⟨rfl, hrests⟩ := hx x' _ _ he (stops_comma _ hcomma _) (stops_comma _ hcomma' _)
    rw [List.cons.injEq] at hrests
    obtain ⟨rfl, hrests⟩ := hrests
    obtain ⟨rfl, rfl, rfl⟩ := hrest rest' c d r s hrests hc hd
    exact ⟨rfl, rfl, rfl⟩

end Arguments

namespace Phrase

theorem determined_call {args : Arguments} (ha : args.Determined) (t opener closer : Token)
    (ht : t.kind = .ident) (ho : opener.kind = .leftParen) (hc : closer.kind = .rightParen) :
    (call t opener args closer ht ho hc).Determined := by
  intro y r s he hr hs
  cases y with
  | call t' opener' args' closer' _ _ hc' =>
    simp only [render, List.cons_append, List.append_assoc, List.nil_append,
      List.cons.injEq] at he
    obtain ⟨rfl, rfl, he⟩ := he
    obtain ⟨rfl, rfl, rfl⟩ := ha args' closer closer' r s he hc hc'
    exact ⟨rfl, rfl⟩
  | bareCall =>
    -- A closing parenthesis starts no argument.
    obtain ⟨u, us, hu, hk⟩ := args.render_eq_cons
    grind [render, Kind.startsOperand]
  | _ => grind [render, Tier.joins, keyword_of_constant?, Tier.stops_cons, Tier.continues]

end Phrase

mutual

/-- A phrase of a tier with chains begins every phrase that starts with its tokens. -/
theorem Phrase.initial : {tier : Tier} → (x : Phrase tier) → tier ≠ .operand →
    tier ≠ .comparison → x.Initial
  | _, .lift h _, hn, hc => h.determined.initial_lift hn hc
  | _, .join l _ r hop, hn, hc => (l.initial hn hc).join r.determined hop
  | _, .compare .., _, hc => absurd rfl hc
  | _, .literal .., hn, _ | _, .constant .., hn, _ | _, .name .., hn, _
  | _, .bareCall .., hn, _ | _, .call .., hn, _ | _, .group .., hn, _
  | _, .negative .., hn, _ | _, .negation .., hn, _ => absurd rfl hn

/-- Reading the tokens of a phrase can give no other phrase of its tier. -/
theorem Phrase.determined : {tier : Tier} → (x : Phrase tier) → x.Determined
  | _, .literal t ht => Phrase.determined_literal t ht
  | _, .constant t ht => Phrase.determined_constant t ht
  | _, .name t ht => Phrase.determined_name t ht
  | _, .bareCall t opener closer ht ho hc =>
    Phrase.determined_bareCall t opener closer ht ho hc
  | _, .call t opener args closer ht ho hc =>
    Phrase.determined_call args.determined t opener closer ht ho hc
  | _, .group opener inner closer ho hc => inner.determined.group opener closer ho hc
  | _, .negative sign x hs => x.determined.negative sign hs
  | _, .negation sign x hs => x.determined.negation sign hs
  -- The tiers with chains go through `Initial`, and a comparison is no chain.
  | .logic, .lift h hn => (h.determined.initial_lift hn (by decide)).determined
  | .comparison, .lift h _ => Phrase.Determined.lift_comparison h.determined
  | .sum, .lift h hn => (h.determined.initial_lift hn (by decide)).determined
  | .product, .lift h hn => (h.determined.initial_lift hn (by decide)).determined
  | .operand, .lift _ hn => absurd rfl hn
  | .logic, .join l _ r hop =>
    ((l.initial (by decide) (by decide)).join r.determined hop).determined
  | .sum, .join l _ r hop =>
    ((l.initial (by decide) (by decide)).join r.determined hop).determined
  | .product, .join l _ r hop =>
    ((l.initial (by decide) (by decide)).join r.determined hop).determined
  | _, .compare l _ r hop => l.determined.compare r.determined hop

theorem Arguments.determined : (args : Arguments) → args.Determined
  | .last x => Arguments.determined_last x.determined
  | .more x comma rest hc =>
    Arguments.determined_more x.determined rest.determined comma hc

end

/-- **The grammar is unambiguous**: two phrases of one tier with the same tokens are the
same phrase. -/
theorem Phrase.render_injective {tier : Tier} {x y : Phrase tier} (h : x.render = y.render) :
    x = y := by
  have he : x.render ++ [] = y.render ++ [] := by rw [h]
  exact (x.determined y [] [] he (Tier.stops_nil tier) (Tier.stops_nil tier)).1

end Quartz
