import Quartz.Proofs.Token.Bracket

/-!
# `Quartz.Proofs.Token.Nested`: brackets of two kinds that pair up

`Bracket.imbalance?` walks over tokens with a stack of open brackets. `Bracket.Nested` says
without a stack which token lists are in balance: braces and parentheses each enclose a list
that is in balance again. `imbalance?_eq_none_iff` says that the two agree.

What is nested can be taken out of a token list or put into it, and the check notices no
difference (`Nested.passes`). In a list that is in balance, `enclosed?`, which counts one kind
of bracket only, always finds the closing bracket, and it is the one that the stack would
pair it with (`enclosed?_of_balanced`). `openCount`, which counts both kinds together, agrees
with the check unless a closing bracket comes unexpected (`openCount_of_expected`).
-/

set_option autoImplicit false

namespace Quartz

variable {ts stack : List Token} {closer opener : Kind} {o t : Token}

namespace Bracket

/-- Token lists in which every bracket is paired with one of its own kind. -/
inductive Nested : List Token → Prop
  | nil : Nested []
  | plain {t : Token} {ts : List Token} (ht : weight t = 0) (h : Nested ts) : Nested (t :: ts)
  | pair {o c : Token} {inner rest : List Token} (hk : closer? o.kind = some c.kind)
      (hi : Nested inner) (hr : Nested rest) : Nested (o :: (inner ++ c :: rest))

/-- A nested piece in brackets is nested. -/
theorem Nested.bracket (h : Nested ts) {c : Token} (hk : closer? o.kind = some c.kind) :
    Nested (o :: (ts ++ [c])) := .pair hk h .nil

theorem closer?_cases (h : closer? opener = some closer) :
    (opener = .leftParen ∧ closer = .rightParen) ∨
      (opener = .leftBrace ∧ closer = .rightBrace) := by
  unfold closer? at h
  split at h
  · exact .inl ⟨rfl, (Option.some.inj h).symm⟩
  · exact .inr ⟨rfl, (Option.some.inj h).symm⟩
  · exact nomatch h

/-- Only brackets have a weight. -/
theorem weight_ne_zero
    (h : t.kind = .leftParen ∨ t.kind = .rightParen ∨ t.kind = .leftBrace ∨ t.kind = .rightBrace) :
    weight t ≠ 0 := by
  rcases h with h | h | h | h <;> simp [weight, h]

/-! ### One step of the check -/

section

variable {stack ts : List Token} {t : Token}

/-- An opening bracket goes onto the stack. -/
theorem imbalanceFrom?_open (h : closer? t.kind = some closer) :
    imbalanceFrom? stack (t :: ts) = imbalanceFrom? (t :: stack) ts := by
  rcases closer?_cases h with ⟨hk, -⟩ | ⟨hk, -⟩
  · cases stack <;> simp only [imbalanceFrom?, hk]
  · cases stack <;> simp only [imbalanceFrom?, hk]

/-- The bracket that fits takes the last one off the stack. -/
theorem imbalanceFrom?_close {s : Token} (h : closer? s.kind = some t.kind) :
    imbalanceFrom? (s :: stack) (t :: ts) = imbalanceFrom? stack ts := by
  rcases closer?_cases h with ⟨-, hk⟩ | ⟨-, hk⟩
  · simp only [imbalanceFrom?, hk, h, if_true]
  · simp only [imbalanceFrom?, hk, h, if_true]

/-- Every other token leaves the stack alone. -/
theorem imbalanceFrom?_plain (h : weight t = 0) :
    imbalanceFrom? stack (t :: ts) = imbalanceFrom? stack ts := by
  unfold weight at h
  cases hk : t.kind <;> simp only [hk] at h <;> first
    | exact absurd h (by decide)
    | (cases stack <;> simp only [imbalanceFrom?, hk])

/-- The three ways in which a check goes on that meets no bracket it did not expect. -/
theorem imbalanceFrom?_step (h : ∀ u, imbalanceFrom? stack (t :: ts) ≠ some (.unexpected u)) :
    ((∃ closer, closer? t.kind = some closer) ∧
        imbalanceFrom? stack (t :: ts) = imbalanceFrom? (t :: stack) ts) ∨
      (∃ s below, stack = s :: below ∧ closer? s.kind = some t.kind ∧
        imbalanceFrom? stack (t :: ts) = imbalanceFrom? below ts) ∨
      (weight t = 0 ∧ imbalanceFrom? stack (t :: ts) = imbalanceFrom? stack ts) := by
  have hopen : ∀ closer, closer? t.kind = some closer → (∃ closer, closer? t.kind = some closer) ∧
      imbalanceFrom? stack (t :: ts) = imbalanceFrom? (t :: stack) ts :=
    fun closer hc => ⟨⟨closer, hc⟩, imbalanceFrom?_open hc⟩
  -- A closing bracket that fits nothing would have been reported.
  have hclose : (t.kind = .rightBrace ∨ t.kind = .rightParen) →
      ∃ s below, stack = s :: below ∧ closer? s.kind = some t.kind ∧
        imbalanceFrom? stack (t :: ts) = imbalanceFrom? below ts := by
    intro hk
    cases stack with
    | nil => rcases hk with hk | hk <;> simp [imbalanceFrom?, hk] at h
    | cons s below =>
      by_cases hs : closer? s.kind = some t.kind
      · exact ⟨s, below, rfl, hs, imbalanceFrom?_close hs⟩
      · rcases hk with hk | hk <;> rw [hk] at hs <;> simp [imbalanceFrom?, hk, hs] at h
  cases hk : t.kind with
  | leftBrace => exact .inl (by rw [← hk]; exact hopen .rightBrace (by rw [hk]; rfl))
  | leftParen => exact .inl (by rw [← hk]; exact hopen .rightParen (by rw [hk]; rfl))
  | rightBrace => exact .inr (.inl (by rw [← hk]; exact hclose (.inl hk)))
  | rightParen => exact .inr (.inl (by rw [← hk]; exact hclose (.inr hk)))
  | _ =>
    have hw : weight t = 0 := by simp [weight, hk]
    exact .inr (.inr ⟨hw, imbalanceFrom?_plain hw⟩)

/-- The three ways in which a check goes on that finds nothing wrong. -/
theorem imbalanceFrom?_cases (h : imbalanceFrom? stack (t :: ts) = none) :
    ((∃ closer, closer? t.kind = some closer) ∧ imbalanceFrom? (t :: stack) ts = none) ∨
      (∃ s below, stack = s :: below ∧ closer? s.kind = some t.kind ∧
        imbalanceFrom? below ts = none) ∨
      (weight t = 0 ∧ imbalanceFrom? stack ts = none) := by
  have hstep := @imbalanceFrom?_step stack ts t (by simp [h])
  simpa only [h, eq_comm (a := none)] using hstep

end

/-! ### The whole check -/

/-- The check passes over what is nested, whatever is open before it. -/
theorem Nested.passes (h : Nested ts) (stack rest : List Token) :
    imbalanceFrom? stack (ts ++ rest) = imbalanceFrom? stack rest := by
  induction h generalizing stack rest with
  | nil => rfl
  | plain ht _ ih => rw [List.cons_append, imbalanceFrom?_plain ht, ih]
  | pair hk _ _ ihi ihr =>
    rw [List.cons_append, List.append_assoc, List.cons_append, imbalanceFrom?_open hk, ihi,
      imbalanceFrom?_close hk, ihr]

/-- The bracket on top of the stack is closed at some point, and up to there all is nested. -/
theorem exists_close {s : Token} (h : imbalanceFrom? (s :: stack) ts = none) :
    ∃ inner c after, ts = inner ++ c :: after ∧ Nested inner ∧ closer? s.kind = some c.kind ∧
      imbalanceFrom? stack after = none := by
  -- On the length: a bracket that opens in between is closed first, and then the search goes
  -- on behind it.
  induction hlen : ts.length using Nat.strongRecOn generalizing s stack ts with
  | _ n ih =>
    cases ts with
    | nil => exact nomatch h
    | cons t ts =>
      rw [List.length_cons] at hlen
      rcases imbalanceFrom?_cases h with ⟨_, h⟩ | ⟨s', below, hstack, hs, h⟩ | ⟨ht, h⟩
      · obtain ⟨inner, c, after, rfl, hinner, hc, hafter⟩ := ih ts.length (by omega) h rfl
        rw [List.length_append, List.length_cons] at hlen
        obtain ⟨inner', c', after', rfl, hinner', hc', hafter'⟩ :=
          ih after.length (by omega) hafter rfl
        exact ⟨t :: (inner ++ c :: inner'), c', after', by simp, .pair hc hinner hinner', hc',
          hafter'⟩
      · cases hstack
        exact ⟨[], t, ts, rfl, .nil, hs, h⟩
      · obtain ⟨inner, c, after, rfl, hinner, hc, hafter⟩ := ih ts.length (by omega) h rfl
        exact ⟨t :: inner, c, after, rfl, .plain ht hinner, hc, hafter⟩

theorem nested_of_balanced (h : imbalanceFrom? [] ts = none) : Nested ts := by
  induction hlen : ts.length using Nat.strongRecOn generalizing ts with
  | _ n ih =>
    cases ts with
    | nil => exact .nil
    | cons t ts =>
      rw [List.length_cons] at hlen
      rcases imbalanceFrom?_cases h with ⟨_, h⟩ | ⟨s, below, hstack, _, _⟩ | ⟨ht, h⟩
      · obtain ⟨inner, c, after, rfl, hinner, hc, hafter⟩ := exists_close h
        rw [List.length_append, List.length_cons] at hlen
        exact .pair hc hinner (ih after.length (by omega) hafter rfl)
      · exact nomatch hstack
      · exact .plain ht (ih ts.length (by omega) h rfl)

/-- A token list is in balance exactly if it is nested. -/
theorem imbalance?_eq_none_iff : imbalance? ts = none ↔ Nested ts := by
  constructor
  · exact nested_of_balanced
  · intro h
    have hpass := h.passes [] []
    rwa [List.append_nil] at hpass

/-! ### The check and the count -/

theorem weight_of_opener (h : closer? t.kind = some closer) : weight t = 1 := by
  rcases closer?_cases h with ⟨hk, -⟩ | ⟨hk, -⟩ <;> simp [weight, hk]

theorem weight_of_closer (h : closer? opener = some t.kind) : weight t = -1 := by
  rcases closer?_cases h with ⟨-, hk⟩ | ⟨-, hk⟩ <;> simp [weight, hk]

/-- A check that meets no bracket it did not expect counts rightly what is left open, though the
count takes both kinds together: it is never negative, and it is zero if nothing is left. -/
theorem openCount_of_expected (h : ∀ u, imbalanceFrom? stack ts ≠ some (.unexpected u)) :
    0 ≤ stack.length + openCount ts ∧
      (imbalanceFrom? stack ts = none ↔ stack.length + openCount ts = 0) := by
  -- On the tokens: what a bracket adds to the count it adds to the stack.
  induction ts generalizing stack with
  | nil => cases stack <;> simp [imbalanceFrom?, openCount] <;> omega
  | cons t ts ih =>
    rw [openCount]
    rcases imbalanceFrom?_step h with ⟨⟨closer, hk⟩, heq⟩ | ⟨s, below, rfl, hk, heq⟩ | ⟨hw, heq⟩
    · rw [heq] at h ⊢
      have hcount := ih h
      rw [List.length_cons] at hcount
      rw [weight_of_opener hk, show (stack.length : Int) + (1 + openCount ts) =
        (stack.length + 1 : Nat) + openCount ts by omega]
      exact hcount
    · rw [heq] at h ⊢
      rw [weight_of_closer hk, List.length_cons, show ((below.length + 1 : Nat) : Int) +
        (-1 + openCount ts) = below.length + openCount ts by omega]
      exact ih h
    · rw [heq] at h ⊢
      rw [hw, Int.zero_add]
      exact ih h

/-! ### One kind of bracket -/

/-- The search for a closing bracket passes over what is nested. -/
theorem Nested.closed (h : Nested ts) (hk : closer? opener = some closer) :
    Closed opener closer ts := by
  induction h with
  | nil => exact closed_nil opener closer
  | @plain t ts ht _ ih =>
    have hplain : t.kind ≠ opener ∧ t.kind ≠ closer := by
      rcases closer?_cases hk with ⟨rfl, rfl⟩ | ⟨rfl, rfl⟩
      · exact ⟨fun h => weight_ne_zero (.inl h) ht, fun h => weight_ne_zero (.inr (.inl h)) ht⟩
      · exact ⟨fun h => weight_ne_zero (.inr (.inr (.inl h))) ht,
          fun h => weight_ne_zero (.inr (.inr (.inr h))) ht⟩
    exact (closed_singleton hplain.1 hplain.2).append ih
  | @pair o c inner rest hoc _ _ ihi ihr =>
    have hpair : Closed opener closer (o :: (inner ++ [c])) := by
      by_cases ho : o.kind = opener
      · have hc : c.kind = closer := by
          rw [ho, hk] at hoc
          exact (Option.some.inj hoc).symm
        exact ihi.bracket (opener_ne_closer hk) ho hc
      · -- Brackets of the other kind are like any other token to the search.
        have hothers : o.kind ≠ closer ∧ c.kind ≠ opener ∧ c.kind ≠ closer := by
          rcases closer?_cases hk with ⟨rfl, rfl⟩ | ⟨rfl, rfl⟩ <;>
            rcases closer?_cases hoc with ⟨hok, hck⟩ | ⟨hok, hck⟩ <;> simp_all
        exact (closed_singleton ho hothers.1).append
          (ihi.append (closed_singleton hothers.2.1 hothers.2.2))
    have hsplit : o :: (inner ++ c :: rest) = o :: (inner ++ [c]) ++ rest := by simp
    rw [hsplit]
    exact hpair.append ihr

/-- Where all is in balance, a cut at an opening bracket succeeds, what it encloses is
nested, and what follows is in balance. -/
theorem enclosed?_of_balanced (h : imbalanceFrom? stack (o :: ts) = none)
    (hk : closer? o.kind = some closer) :
    ∃ inner after, enclosed? (o :: ts) = some (inner, after) ∧ Nested inner ∧
      imbalanceFrom? stack after = none := by
  rw [imbalanceFrom?_open hk] at h
  obtain ⟨inner, c, after, rfl, hinner, hc, hafter⟩ := exists_close h
  exact ⟨inner, after, enclosed?_eq_some_iff.2 ⟨o, c, rfl, hc, hinner.closed hc⟩, hinner, hafter⟩

/-- Counting one kind of bracket is enough where all is in balance: what is closed with
respect to one kind is nested. -/
theorem nested_of_closed {c : Token} {inner rest : List Token}
    (h : imbalanceFrom? stack (o :: (inner ++ c :: rest)) = none)
    (hk : closer? o.kind = some c.kind) (hinner : Closed o.kind c.kind inner) :
    Nested inner ∧ imbalanceFrom? stack rest = none := by
  have hcut : enclosed? (o :: (inner ++ c :: rest)) = some (inner, rest) :=
    enclosed?_eq_some_iff.2 ⟨o, c, rfl, hk, hinner⟩
  obtain ⟨inner', rest', hcut', hnested, hrest⟩ := enclosed?_of_balanced h hk
  cases hcut.symm.trans hcut'
  exact ⟨hnested, hrest⟩

end Bracket

end Quartz
