import Mathlib.Data.List.Nodup
import Quartz.Proofs.Cursor.Token
import Quartz.Proofs.Program.Compile

/-!
# `Quartz.Proofs.Program.Pairing`: one kind of bracket is enough

The check of a source keeps a stack of open brackets of both kinds, and a closing bracket takes
the innermost one off it. The search for a closing bracket counts brackets of one kind only and
passes over the other kind. In a source that passes the check the two agree on every bracket
(`matching_close_is_partner`).

To say with which token a bracket is taken off the stack, `pairsFrom` runs the check on tokens
with their places and collects the places of each pair. It refuses what the check refuses
(`pairsFrom_eq_error_iff`), and it pairs every opening bracket once (`perm_pairsFrom`).
-/

set_option autoImplicit false

namespace Quartz

variable {ps : List (Nat × Nat)} {i j : Nat} {o : Token} {stack : List (Token × Nat)}

namespace Bracket

/-! ### The check with places -/

/-- The check of brackets on tokens with their places: the pairs of an opening and a closing
bracket in the order in which they are closed, or the first imbalance. -/
def pairsFrom : List (Token × Nat) → List (Token × Nat) → Except Imbalance (List (Nat × Nat))
  | [], [] => .ok []
  | (t, _) :: _, [] => .error (.unclosed t)
  | stack, (t, j) :: ts =>
    match t.kind with
    | .leftBrace | .leftParen => pairsFrom ((t, j) :: stack) ts
    | .rightBrace | .rightParen =>
      match stack with
      | [] => .error (.unexpected t)
      | (s, i) :: stack =>
        if closer? s.kind = some t.kind then (pairsFrom stack ts).map ((i, j) :: ·)
        else .error (.unexpected t)
    | _ => pairsFrom stack ts

/-- The pairs of brackets in a token list, by the indices of their tokens. -/
def pairs (ts : List Token) : Except Imbalance (List (Nat × Nat)) := pairsFrom [] ts.zipIdx

attribute [local simp] pairsFrom

/-- A token opens a bracket, closes one, or is no bracket. -/
theorem opens_or_closes (t : Token) :
    (∃ closer, closer? t.kind = some closer) ∨ (t.kind = .rightBrace ∨ t.kind = .rightParen) ∨
      weight t = 0 := by
  cases hk : t.kind <;> simp [closer?, weight, hk]

section

variable {stack ts : List (Token × Nat)} {t : Token} {j : Nat}

theorem pairsFrom_open {closer : Kind} (h : closer? t.kind = some closer) :
    pairsFrom stack ((t, j) :: ts) = pairsFrom ((t, j) :: stack) ts := by
  rcases closer?_cases h with ⟨hk, -⟩ | ⟨hk, -⟩
  · cases stack <;> simp only [pairsFrom, hk]
  · cases stack <;> simp only [pairsFrom, hk]

theorem pairsFrom_close {s : Token} (h : closer? s.kind = some t.kind) :
    pairsFrom ((s, i) :: stack) ((t, j) :: ts) = (pairsFrom stack ts).map ((i, j) :: ·) := by
  rcases closer?_cases h with ⟨-, hk⟩ | ⟨-, hk⟩
  · simp only [pairsFrom, hk, h, if_true]
  · simp only [pairsFrom, hk, h, if_true]

theorem pairsFrom_plain (h : weight t = 0) :
    pairsFrom stack ((t, j) :: ts) = pairsFrom stack ts := by
  unfold weight at h
  cases hk : t.kind <;> simp only [hk] at h <;> first
    | exact absurd h (by decide)
    | (cases stack <;> simp only [pairsFrom, hk])

/-- A closing bracket that fits nothing is the first thing wrong. -/
theorem pairsFrom_unexpected (hk : t.kind = .rightBrace ∨ t.kind = .rightParen)
    (hs : ∀ p ∈ stack.head?, closer? p.1.kind ≠ some t.kind) :
    pairsFrom stack ((t, j) :: ts) = .error (.unexpected t) ∧
      imbalanceFrom? (stack.map Prod.fst) (t :: ts.map Prod.fst) = some (.unexpected t) := by
  cases stack with
  | nil => rcases hk with hk | hk <;> simp [imbalanceFrom?, hk]
  | cons p stack =>
    have hne : closer? p.1.kind ≠ some t.kind := hs p rfl
    rcases hk with hk | hk <;> rw [hk] at hne <;> simp [imbalanceFrom?, hk, hne]

/-- The ways in which a check goes on that finds nothing wrong. -/
theorem pairsFrom_cases (h : pairsFrom stack ((t, j) :: ts) = .ok ps) :
    ((∃ closer, closer? t.kind = some closer) ∧ pairsFrom ((t, j) :: stack) ts = .ok ps) ∨
      (∃ s i below qs, stack = (s, i) :: below ∧ closer? s.kind = some t.kind ∧
        pairsFrom below ts = .ok qs ∧ ps = (i, j) :: qs) ∨
      (weight t = 0 ∧ pairsFrom stack ts = .ok ps) := by
  rcases opens_or_closes t with ⟨closer, hk⟩ | hk | hw
  · rw [pairsFrom_open hk] at h
    exact .inl ⟨⟨closer, hk⟩, h⟩
  · by_cases hs : ∀ p ∈ stack.head?, closer? p.1.kind ≠ some t.kind
    · rw [(pairsFrom_unexpected hk hs).1] at h
      cases h
    · cases stack with
      | nil => simp at hs
      | cons p below =>
        have hp : closer? p.1.kind = some t.kind := by simpa using hs
        rw [pairsFrom_close hp] at h
        cases hrest : pairsFrom below ts with
        | error e =>
          rw [hrest] at h
          cases h
        | ok qs =>
          rw [hrest] at h
          cases h
          exact .inr (.inl ⟨p.1, p.2, below, qs, rfl, hp, hrest, rfl⟩)
  · rw [pairsFrom_plain hw] at h
    exact .inr (.inr ⟨hw, h⟩)

end

/-- The places change nothing about the verdict: the same imbalance is found first. -/
theorem pairsFrom_eq_error_iff {ts : List (Token × Nat)} {e : Imbalance} :
    pairsFrom stack ts = .error e ↔
      imbalanceFrom? (stack.map Prod.fst) (ts.map Prod.fst) = some e := by
  induction ts generalizing stack with
  | nil => cases stack <;> simp [imbalanceFrom?]
  | cons p ts ih =>
    obtain ⟨t, j⟩ := p
    rw [List.map_cons]
    rcases opens_or_closes t with ⟨closer, hk⟩ | hk | hw
    · rw [pairsFrom_open hk, imbalanceFrom?_open hk]
      exact ih
    · by_cases hs : ∀ p ∈ stack.head?, closer? p.1.kind ≠ some t.kind
      · obtain ⟨hpairs, hcheck⟩ := @pairsFrom_unexpected stack ts t j hk hs
        simp [hpairs, hcheck]
      · cases stack with
        | nil => simp at hs
        | cons p below =>
          have hp : closer? p.1.kind = some t.kind := by simpa using hs
          rw [pairsFrom_close hp, List.map_cons, imbalanceFrom?_close hp, ← ih]
          cases pairsFrom below ts <;> simp [Except.map]
    · rw [pairsFrom_plain hw, imbalanceFrom?_plain hw]
      exact ih

/-- A token list has pairs exactly if the check accepts it. -/
theorem exists_pairs_iff {ts : List Token} : (∃ ps, pairs ts = .ok ps) ↔ imbalance? ts = none := by
  have herror : ∀ e, pairs ts = .error e ↔ imbalance? ts = some e := by
    intro e
    rw [pairs, pairsFrom_eq_error_iff, List.zipIdx_map_fst]
    rfl
  cases hcheck : imbalance? ts with
  | none =>
    cases hpairs : pairs ts with
    | ok ps => simp
    | error e =>
      rw [(herror e).1 hpairs] at hcheck
      cases hcheck
  | some e => simp [(herror e).2 hcheck]

/-! ### Which brackets are paired -/

/-- Every bracket that is open or opens later is closed once. -/
theorem perm_pairsFrom {ts : List (Token × Nat)} (h : pairsFrom stack ts = .ok ps) :
    (ps.map Prod.fst).Perm (stack.map Prod.snd ++
      (ts.filter fun p => (closer? p.1.kind).isSome).map Prod.snd) := by
  induction ts generalizing stack ps with
  | nil =>
    cases stack with
    | nil =>
      cases h
      exact .nil
    | cons p stack => cases h
  | cons p ts ih =>
    obtain ⟨t, j⟩ := p
    rcases pairsFrom_cases h with
      ⟨⟨closer, hk⟩, h⟩ | ⟨s, i, below, qs, rfl, hk, hrest, rfl⟩ | ⟨hw, h⟩
    · -- A bracket that opens moves from the tokens to the stack.
      simp only [List.filter_cons, hk, Option.isSome_some, if_true, List.map_cons]
      exact (ih h).trans List.perm_middle.symm
    · have hplain : closer? t.kind = none := by
        rcases closer?_cases hk with ⟨-, hk⟩ | ⟨-, hk⟩ <;> rw [hk] <;> rfl
      simp only [List.filter_cons, hplain, Option.isSome_none, Bool.false_eq_true, if_false,
        List.map_cons, List.cons_append]
      exact (ih hrest).cons i
    · have hplain : closer? t.kind = none := by
        cases hc : closer? t.kind with
        | none => rfl
        | some closer =>
          rw [weight_of_opener hc] at hw
          cases hw
      simp only [List.filter_cons, hplain, Option.isSome_none, Bool.false_eq_true, if_false]
      exact ih h

/-- The check goes through the front of a list with some stack, and goes on from there. -/
theorem pairsFrom_append {front rest : List (Token × Nat)}
    (h : pairsFrom stack (front ++ rest) = .ok ps) :
    ∃ above qs, pairsFrom above rest = .ok qs ∧ qs ⊆ ps := by
  induction front generalizing stack ps with
  | nil => exact ⟨stack, ps, h, fun _ hp => hp⟩
  | cons p front ih =>
    obtain ⟨t, j⟩ := p
    rcases pairsFrom_cases h with ⟨_, h⟩ | ⟨s, i, below, qs, rfl, _, hmore, rfl⟩ | ⟨_, h⟩
    · exact ih h
    · obtain ⟨above, rs, hrest, hsub⟩ := ih hmore
      exact ⟨above, rs, hrest, List.subset_cons_of_subset _ hsub⟩
    · exact ih h

/-- What is nested leaves the stack as it was, and pairs of its own behind. -/
theorem Nested.pairsFrom {ts : List Token} (h : Nested ts) (k : Nat) :
    ∃ ps, ∀ stack rest, pairsFrom stack (ts.zipIdx k ++ rest) =
      (Bracket.pairsFrom stack rest).map (ps ++ ·) := by
  induction h generalizing k with
  | nil =>
    refine ⟨[], fun stack rest => ?_⟩
    cases hrest : Bracket.pairsFrom stack rest <;> simp [hrest, Except.map]
  | plain ht _ ih =>
    obtain ⟨ps, hps⟩ := ih (k + 1)
    refine ⟨ps, fun stack rest => ?_⟩
    rw [List.zipIdx_cons, List.cons_append, pairsFrom_plain ht, hps]
  | @pair o c inner more hk _ _ ihi ihr =>
    obtain ⟨ps, hps⟩ := ihi (k + 1)
    obtain ⟨qs, hqs⟩ := ihr (k + 1 + inner.length + 1)
    refine ⟨ps ++ (k, k + 1 + inner.length) :: qs, fun stack rest => ?_⟩
    rw [List.zipIdx_cons, List.zipIdx_append, List.zipIdx_cons, List.cons_append,
      List.append_assoc, List.cons_append, pairsFrom_open hk, hps, pairsFrom_close hk, hqs]
    cases Bracket.pairsFrom stack rest <;> simp [Except.map]

/-- The check pairs a bracket with the one behind what it encloses. -/
theorem mem_pairs {front inner after : List Token} {c : Token}
    (h : pairs (front ++ o :: (inner ++ c :: after)) = .ok ps) (hk : closer? o.kind = some c.kind)
    (hinner : Nested inner) : (front.length, front.length + 1 + inner.length) ∈ ps := by
  rw [pairs, List.zipIdx_append, Nat.zero_add] at h
  obtain ⟨above, qs, hrest, hsub⟩ := pairsFrom_append h
  obtain ⟨own, hown⟩ := hinner.pairsFrom (front.length + 1)
  rw [List.zipIdx_cons, List.zipIdx_append, List.zipIdx_cons, pairsFrom_open hk, hown,
    pairsFrom_close hk] at hrest
  cases hbehind : pairsFrom above (after.zipIdx (front.length + 1 + inner.length + 1)) with
  | error e =>
    rw [hbehind] at hrest
    cases hrest
  | ok rs =>
    rw [hbehind] at hrest
    cases hrest
    exact hsub (by simp)

/-- Each bracket has one partner. -/
theorem eq_of_mem_pairs {ts : List Token} (h : pairs ts = .ok ps) {k : Nat} (hj : (i, j) ∈ ps)
    (hk : (i, k) ∈ ps) : j = k := by
  have hplaces : (ts.zipIdx.map Prod.snd).Nodup := by
    rw [List.zipIdx_map_snd]
    exact List.nodup_range'
  have hfirst : (ps.map Prod.fst).Nodup :=
    (perm_pairsFrom h).nodup_iff.2 (hplaces.sublist (List.filter_sublist.map _))
  exact congrArg Prod.snd (List.inj_on_of_nodup_map hfirst hj hk rfl)

/-- What is paired first is an opening bracket of the list. -/
theorem opener_of_mem_pairs {ts : List Token} (h : pairs ts = .ok ps) (hij : (i, j) ∈ ps) :
    ∃ o closer, ts[i]? = some o ∧ closer? o.kind = some closer := by
  have hmem := (perm_pairsFrom h).subset (List.mem_map_of_mem hij)
  simp only [List.map_nil, List.nil_append, List.mem_map, List.mem_filter] at hmem
  obtain ⟨⟨o, n⟩, ⟨ho, hk⟩, hn⟩ := hmem
  obtain ⟨closer, hcloser⟩ := Option.isSome_iff_exists.1 hk
  cases hn
  exact ⟨o, closer, List.mk_mem_zipIdx_iff_getElem?.1 ho, hcloser⟩

/-- In a list that is in balance, the cut at an opening bracket is a bracket, a nested piece, and
the bracket that closes it. -/
theorem exists_cut {ts : List Token} (h : imbalance? ts = none) (ho : ts[i]? = some o)
    {closer : Kind} (hk : closer? o.kind = some closer) :
    ∃ inner c after, ts = ts.take i ++ o :: (inner ++ c :: after) ∧ Nested inner ∧
      closer? o.kind = some c.kind ∧ enclosed? (ts.drop i) = some (inner, after) := by
  obtain ⟨hi, hget⟩ := List.getElem?_eq_some_iff.1 ho
  have hdrop : ts.drop i = o :: ts.drop (i + 1) := by
    rw [List.drop_eq_getElem_cons hi, hget]
  obtain ⟨ps, hps⟩ := exists_pairs_iff.2 h
  rw [pairs, ← List.take_append_drop i ts, List.zipIdx_append] at hps
  obtain ⟨above, qs, hrest, -⟩ := pairsFrom_append hps
  -- From the bracket on, the check goes through with what is open in front of it.
  have hbalanced : imbalanceFrom? (above.map Prod.fst) (o :: ts.drop (i + 1)) = none := by
    rw [hdrop] at hrest
    cases hcheck : imbalanceFrom? (above.map Prod.fst) (o :: ts.drop (i + 1)) with
    | none => rfl
    | some e =>
      rw [pairsFrom_eq_error_iff.2 (by rwa [List.zipIdx_map_fst])] at hrest
      cases hrest
  obtain ⟨inner, after, hcut, hinner, -⟩ := enclosed?_of_balanced hbalanced hk
  obtain ⟨o', c, hts, hc, -⟩ := enclosed?_eq_some_iff.1 hcut
  obtain ⟨rfl, hbehind⟩ := List.cons.inj hts
  refine ⟨inner, c, after, ?_, hinner, hc, by rwa [hdrop]⟩
  rw [← hbehind, ← hdrop, List.take_append_drop]

/-- A bracket that is closed by the search is the partner of the closing one. -/
theorem matchingClose?_eq_some_iff {ts : List Token} (h : pairs ts = .ok ps) :
    matchingClose? ts i = some j ↔ (i, j) ∈ ps := by
  have hbalanced := exists_pairs_iff.1 ⟨ps, h⟩
  -- The search and the check agree on the partner of an opening bracket, so it is enough that
  -- both sides speak of one.
  have hopener : ∀ {o : Token} {closer : Kind}, ts[i]? = some o → closer? o.kind = some closer →
      ∃ k, matchingClose? ts i = some k ∧ (i, k) ∈ ps := by
    intro o closer ho hk
    obtain ⟨inner, c, after, hts, hinner, hc, hcut⟩ := exists_cut hbalanced ho hk
    have hlen : (ts.take i).length = i :=
      List.length_take_of_le (Nat.le_of_lt (List.getElem?_eq_some_iff.1 ho).1)
    rw [hts] at h
    have hmem := mem_pairs h hc hinner
    rw [hlen] at hmem
    exact ⟨i + 1 + inner.length, by rw [matchingClose?, hcut]; rfl, hmem⟩
  constructor
  · intro hclose
    obtain ⟨⟨inner, after⟩, hcut, -⟩ := Option.map_eq_some_iff.1 hclose
    obtain ⟨o, c, hdrop, hk, -⟩ := enclosed?_eq_some_iff.1 hcut
    have ho : ts[i]? = some o := by
      rw [← Nat.add_zero i, ← List.getElem?_drop, hdrop]
      rfl
    obtain ⟨k, hk, hmem⟩ := hopener ho hk
    cases hclose.symm.trans hk
    exact hmem
  · intro hmem
    obtain ⟨o, closer, ho, hk⟩ := opener_of_mem_pairs h hmem
    obtain ⟨k, hk, hmem'⟩ := hopener ho hk
    rw [hk, eq_of_mem_pairs h hmem hmem']

end Bracket

open Bracket

/-! ### Cutting without looking -/

namespace Program

/-- What a compiler takes out of the tokens at a brace and its partner, without a test that there
is one: the block with its braces, and what they enclose as the body of a class. -/
structure Cuts (ts : List Token) (i j : Nat) (inner block : List Token) : Prop where
  /-- The bounds of what is enclosed are in range. -/
  inner_eq : Cursor.slice ts (i + 1) j = pure inner
  /-- The bounds of the block are in range. -/
  block_eq : Cursor.slice ts i (j + 1) = pure block
  slice_eq : ∀ (ends : Int) (found : Parts), slice ends found (ts.drop i) =
    slice ends { found with main := block.reverse ++ found.main } (ts.drop (j + 1))
  readClass_eq : ∀ (name : Token) (offset : Int), name.kind = .ident →
    readClass offset (name :: ts.drop i) =
      .ok (⟨name.literal, inner, name.offset⟩, ts.drop (j + 1))

theorem cuts_of_enclosed? {ts inner after : List Token} (ho : ts[i]? = some o)
    (hbrace : o.kind = .leftBrace) (hcut : enclosed? (ts.drop i) = some (inner, after)) :
    ∃ block, Cuts ts i (i + 1 + inner.length) inner block := by
  obtain ⟨-, hencloses⟩ := Cursor.encloses_of_enclosed? hcut
  obtain ⟨o', c, hdrop, hk, hinner⟩ := enclosed?_eq_some_iff.1 hcut
  have hsame : o' = o := by
    rw [← Nat.add_zero i, ← List.getElem?_drop, hdrop] at ho
    exact Option.some.inj ho
  subst hsame
  have hblock : ts.drop i = o' :: (inner ++ [c]) ++ after := by simp [hdrop]
  have hckind : c.kind = .rightBrace := by
    rw [hbrace] at hk
    exact (Option.some.inj hk).symm
  rw [hbrace, hckind] at hinner
  refine ⟨o' :: (inner ++ [c]), hencloses.slice_eq, ?_, ?_, ?_⟩
  · have hi : i ≤ ts.length := Nat.le_of_lt (Nat.lt_trans hencloses.lt hencloses.close_lt)
    have hslice := Cursor.slice_eq hi hblock
    rwa [show i + (o' :: (inner ++ [c])).length = i + 1 + inner.length + 1 by simp; omega] at hslice
  · intro ends found
    rw [hencloses.drop_eq, hdrop]
    rcases slice_step (.block hbrace hckind hinner) ends found with ⟨hdeclares, -⟩ | ⟨-, hslice⟩
    · cases hdeclares
    · exact hslice
  · intro name offset hname
    have hread : Declaration.bracketed .leftBrace .expectedClassBody .unbalancedClassBody (-1)
        (ts.drop i) = .ok (inner, after) :=
      (Declaration.bracketed_eq_ok_iff rfl).2 ⟨o', c, hdrop, hbrace, hckind, hinner⟩
    rw [readClass, if_pos hname, hread, hencloses.drop_eq]

/-- Counting one kind of bracket finds the partners that the check with a stack of both kinds
pairs, in every token list that passes the check. A bracket is closed behind it, what it encloses
passes the check again, and what is cut out at a brace is in range. -/
theorem matching_close_is_partner {ts : List Token} (h : imbalance? ts = none) :
    ∃ ps, pairs ts = .ok ps ∧ (∀ i j, matchingClose? ts i = some j ↔ (i, j) ∈ ps) ∧
      ∀ i o, ts[i]? = some o → o.kind = .leftBrace ∨ o.kind = .leftParen →
        ∃ j inner, matchingClose? ts i = some j ∧ i < j ∧ j < ts.length ∧
          Cursor.slice ts (i + 1) j = pure inner ∧ imbalance? inner = none ∧
          (o.kind = .leftBrace → ∃ block, Cuts ts i j inner block) := by
  obtain ⟨ps, hps⟩ := exists_pairs_iff.2 h
  refine ⟨ps, hps, fun i j => matchingClose?_eq_some_iff hps, ?_⟩
  intro i o ho hkind
  obtain ⟨closer, hk⟩ : ∃ closer, closer? o.kind = some closer := by
    rcases hkind with hkind | hkind <;> rw [hkind] <;> exact ⟨_, rfl⟩
  obtain ⟨inner, c, after, -, hinner, -, hcut⟩ := exists_cut h ho hk
  obtain ⟨-, hencloses⟩ := Cursor.encloses_of_enclosed? hcut
  refine ⟨i + 1 + inner.length, inner, ?_, hencloses.lt, hencloses.close_lt, hencloses.slice_eq,
    imbalance?_eq_none_iff.2 hinner, fun hbrace => cuts_of_enclosed? ho hbrace hcut⟩
  rw [matchingClose?, hcut]
  rfl

/-- A call with a block as its argument. The search that starts at the parenthesis counts two
parentheses and passes over the braces, and the search that starts at the brace the other way
round. -/
def blockArgument : List Token :=
  [⟨.ident, utf8 "f", 0⟩, ⟨.leftParen, utf8 "(", 1⟩, ⟨.leftBrace, utf8 "\x7b", 2⟩,
    ⟨.leftParen, utf8 "(", 3⟩, ⟨.rightParen, utf8 ")", 4⟩, ⟨.rightBrace, utf8 "\x7d", 5⟩,
    ⟨.rightParen, utf8 ")", 6⟩]

theorem matching_close_is_partner_block :
    imbalance? blockArgument = none ∧ ∃ ps, pairs blockArgument = .ok ps ∧ (1, 6) ∈ ps ∧
      (2, 5) ∈ ps ∧ ∃ inner block, Cuts blockArgument 2 5 inner block := by
  have hbalanced : imbalance? blockArgument = none := by decide
  obtain ⟨ps, hps, hpartner, hcuts⟩ := matching_close_is_partner hbalanced
  have hparen : matchingClose? blockArgument 1 = some 6 := by decide
  have hbrace : matchingClose? blockArgument 2 = some 5 := by decide
  obtain ⟨j, inner, hj, -, -, -, -, hblock⟩ :=
    hcuts 2 ⟨.leftBrace, utf8 "\x7b", 2⟩ rfl (.inl rfl)
  cases hbrace.symm.trans hj
  exact ⟨hbalanced, ps, hps, (hpartner 1 6).1 hparen, (hpartner 2 5).1 hbrace, inner, hblock rfl⟩

end Program

end Quartz
