import Quartz.Token.Basic

/-!
# `Quartz.Token.Bracket`: brackets and what they enclose

Three readings of brackets live here.

* `enclosed?` pairs an opening bracket with its closing one by counting
  brackets of the same kind only; the other kind may be out of balance in
  between. Bodies, parameter lists and groups are cut out this way.
* `imbalance?` checks both kinds at once with a stack, as a source must
  pass before it is taken apart.
* `cutArgument` and `splitArguments` cut a token list at the commas outside
  parentheses.

The length facts bound what each cut leaves, which is what the recursions
over token lists need.
-/

set_option autoImplicit false

namespace Quartz

namespace Bracket

/-- The kind that closes an opening bracket. -/
def closer? : Kind → Option Kind
  | .leftParen => some .rightParen
  | .leftBrace => some .rightBrace
  | _ => none

/-- How many tokens stand before the token that closes a bracket, with
`depth` more brackets of the kind open. -/
def closeFrom (opener closer : Kind) : Nat → List Token → Option Nat
  | _, [] => none
  | depth, t :: ts =>
    if t.kind = opener then (closeFrom opener closer (depth + 1) ts).map (· + 1)
    else if t.kind = closer then
      match depth with
      | 0 => some 0
      | d + 1 => (closeFrom opener closer d ts).map (· + 1)
    else (closeFrom opener closer depth ts).map (· + 1)

/-- What the opening bracket in front encloses, and what follows its
closing bracket. Nothing if the front is no opening bracket, or is never
closed. -/
def enclosed? : List Token → Option (List Token × List Token)
  | [] => none
  | t :: ts =>
    match closer? t.kind with
    | none => none
    | some closer => (closeFrom t.kind closer 0 ts).map fun n => (ts.take n, ts.drop (n + 1))

/-- The index of the token that closes the bracket at an index. -/
def matchingClose? (ts : List Token) (i : Nat) : Option Nat :=
  (enclosed? (ts.drop i)).map fun p => i + 1 + p.1.length

/-- A bracket that is closed lies inside the list. -/
theorem closeFrom_lt {opener closer : Kind} {depth n : Nat} {ts : List Token}
    (h : closeFrom opener closer depth ts = some n) : n < ts.length := by
  induction ts generalizing depth n with
  | nil => simp [closeFrom] at h
  | cons t ts ih =>
      have hstep : ∀ d, (closeFrom opener closer d ts).map (· + 1) = some n →
          n < (t :: ts).length := by
        intro d h
        obtain ⟨m, hm, rfl⟩ := Option.map_eq_some_iff.1 h
        exact Nat.succ_lt_succ (ih hm)
      simp only [closeFrom] at h
      split at h
      · exact hstep _ h
      · split at h
        · split at h
          · cases h
            simp
          · exact hstep _ h
        · exact hstep _ h

/-- The two brackets, what they enclose and what follows make up the list. -/
theorem length_of_enclosed? {ts inner after : List Token}
    (h : enclosed? ts = some (inner, after)) :
    inner.length + after.length + 2 = ts.length := by
  cases ts with
  | nil => simp [enclosed?] at h
  | cons t ts =>
      simp only [enclosed?] at h
      split at h
      · simp at h
      · obtain ⟨n, hn, hp⟩ := Option.map_eq_some_iff.1 h
        have hlt := closeFrom_lt hn
        simp only [Prod.mk.injEq] at hp
        obtain ⟨rfl, rfl⟩ := hp
        simp only [List.length_take, List.length_drop, List.length_cons]
        omega

/-! ### Both kinds at once -/

/-- Why the brackets of a token list do not pair up: a closing bracket
that fits no open one, or an opening bracket left over at the end. -/
inductive Imbalance where
  | unexpected (t : Token)
  | unclosed (t : Token)
  deriving DecidableEq, Repr

/-- The first imbalance, with a stack of open brackets, innermost first. -/
def imbalanceFrom? : List Token → List Token → Option Imbalance
  | [], [] => none
  | t :: _, [] => some (.unclosed t)
  | stack, t :: ts =>
    match t.kind with
    | .leftBrace | .leftParen => imbalanceFrom? (t :: stack) ts
    | .rightBrace | .rightParen =>
      match stack with
      | [] => some (.unexpected t)
      | s :: stack =>
        if closer? s.kind = some t.kind then imbalanceFrom? stack ts else some (.unexpected t)
    | _ => imbalanceFrom? stack ts

/-- Why the brackets do not pair up, if they do not. -/
def imbalance? (ts : List Token) : Option Imbalance := imbalanceFrom? [] ts

/-- By how much a token changes the number of open brackets. -/
def weight (t : Token) : Int :=
  match t.kind with
  | .leftBrace | .leftParen => 1
  | .rightBrace | .rightParen => -1
  | _ => 0

/-- Opening brackets less closing ones, both kinds together. -/
def openCount : List Token → Int
  | [] => 0
  | t :: ts => weight t + openCount ts

/-! ### Arguments -/

/-- By how much a token changes the depth of parentheses. -/
def parenWeight (t : Token) : Int :=
  match t.kind with
  | .leftParen => 1
  | .rightParen => -1
  | _ => 0

/-- The tokens up to the first comma at depth zero, and the tokens behind
that comma. -/
def cutFrom : Int → List Token → List Token × Option (List Token)
  | _, [] => ([], none)
  | depth, t :: ts =>
    if t.kind = .comma ∧ depth = 0 then ([], some ts)
    else
      let cut := cutFrom (depth + parenWeight t) ts
      (t :: cut.1, cut.2)

/-- The first argument of a token list, and what follows its comma. -/
def cutArgument (ts : List Token) : List Token × Option (List Token) := cutFrom 0 ts

theorem length_cutFrom (depth : Int) (ts : List Token) :
    (cutFrom depth ts).1.length + ((cutFrom depth ts).2.map (·.length + 1)).getD 0
      = ts.length := by
  induction ts generalizing depth with
  | nil => simp [cutFrom]
  | cons t ts ih =>
      simp only [cutFrom]
      split
      · simp
      · have := ih (depth + parenWeight t)
        simp only [List.length_cons]
        omega

/-- An argument is no longer than the list it is cut from. -/
theorem length_cutArgument_le (ts : List Token) : (cutArgument ts).1.length ≤ ts.length := by
  have := length_cutFrom 0 ts
  unfold cutArgument
  omega

/-- What follows a comma is shorter than the list it is cut from. -/
theorem length_lt_of_cutArgument {ts span rest : List Token}
    (h : cutArgument ts = (span, some rest)) : rest.length < ts.length := by
  have hlen := length_cutFrom 0 ts
  unfold cutArgument at h
  rw [h] at hlen
  simp only [Option.map_some, Option.getD_some] at hlen
  omega

/-- The pieces between the commas at depth zero; always at least one. -/
def spans (ts : List Token) : List (List Token) :=
  match h : cutArgument ts with
  | (span, none) => [span]
  | (span, some rest) =>
    have := length_lt_of_cutArgument h
    span :: spans rest
termination_by ts.length

/-- The arguments in a token list. No tokens are no arguments. -/
def splitArguments (ts : List Token) : List (List Token) :=
  if ts = [] then [] else spans ts

/-! ### Statements -/

/-- The tokens before the first semicolon, and the tokens behind it. -/
def terminated? (ts : List Token) : Option (List Token × List Token) :=
  match ts.dropWhile fun t => t.kind ≠ .semicolon with
  | [] => none
  | _ :: after => some (ts.takeWhile fun t => t.kind ≠ .semicolon, after)

/-- A statement, its semicolon and what follows make up the list. -/
theorem length_of_terminated? {ts statement after : List Token}
    (h : terminated? ts = some (statement, after)) :
    statement.length + after.length + 1 = ts.length := by
  have hsplit : (ts.takeWhile fun t => t.kind ≠ .semicolon).length +
      (ts.dropWhile fun t => t.kind ≠ .semicolon).length = ts.length := by
    rw [← List.length_append, List.takeWhile_append_dropWhile]
  unfold terminated? at h
  split at h
  · simp at h
  · next t rest hd =>
      simp only [Option.some.injEq, Prod.mk.injEq] at h
      obtain ⟨rfl, rfl⟩ := h
      rw [hd, List.length_cons] at hsplit
      omega

end Bracket

end Quartz
