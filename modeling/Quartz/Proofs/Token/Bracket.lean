import Quartz.Token.Bracket

/-!
# `Quartz.Proofs.Token.Bracket`: what a cut at brackets or commas says

`Bracket.closeFrom` and `Bracket.cutFrom` count brackets while they walk. Two notions
say when a piece of tokens makes no difference to such a walk:

* `Bracket.Closed opener closer ts`: the search for a closing bracket passes over `ts`,
  at every depth;
* `Bracket.Uncut n ts`: the search for a comma passes over `ts` from depth `n` on.

Both are kept by appending, and a pair of brackets around a closed piece is closed
again. With them `enclosed?` and `cutArgument` become exact: `enclosed?_eq_some_iff`
says that a cut succeeds with `inner` and `after` if and only if the tokens are a
bracket, the closed piece `inner`, the bracket that fits, and `after`. What follows the
bracket does not matter, so a cut stays the same when other tokens follow.

The cuts at commas are made at `outerCommas`. Readers of lists recurse on what follows such a
comma, and proofs about them do so by `cut_induction`.
-/

set_option autoImplicit false

namespace Quartz

variable {ts after inner : List Token} {closer opener : Kind} {n depth : Nat} {t : Token}

namespace Bracket

/-! ### Looking for the closing bracket -/

/-- The search for a closing bracket passes over the tokens, whatever the depth. -/
def Closed (opener closer : Kind) (ts : List Token) : Prop :=
  ∀ (depth : Nat) (rest : List Token),
    closeFrom opener closer depth (ts ++ rest)
      = (closeFrom opener closer depth rest).map (· + ts.length)

theorem closed_nil (opener closer : Kind) : Closed opener closer [] := by
  intro depth rest
  simp

theorem Closed.append {us : List Token} (hts : Closed opener closer ts)
    (hus : Closed opener closer us) : Closed opener closer (ts ++ us) := by
  intro depth rest
  rw [List.append_assoc, hts, hus, Option.map_map, List.length_append]
  exact congrArg (Option.map · _) (funext fun n => by simp only [Function.comp_apply]; omega)

/-- A token that is no bracket of the kind is passed over. -/
theorem closed_singleton (ho : t.kind ≠ opener) (hc : t.kind ≠ closer) :
    Closed opener closer [t] := by
  intro depth rest
  simp [closeFrom, ho, hc]

/-- A closed piece in brackets is closed. -/
theorem Closed.bracket (h : Closed opener closer ts) (hne : opener ≠ closer) {o c : Token}
    (ho : o.kind = opener) (hc : c.kind = closer) : Closed opener closer (o :: (ts ++ [c])) := by
  intro depth rest
  have hce : c.kind ≠ opener := fun he => hne (he.symm.trans hc)
  -- The opening bracket raises the depth, the piece keeps it, the closing one lowers it.
  rw [List.cons_append, List.append_assoc, List.singleton_append]
  simp only [closeFrom, ho, if_true]
  rw [h, closeFrom, if_neg hce, if_pos hc]
  simp only [Option.map_map, List.length_cons, List.length_append, List.length_nil]
  exact congrArg (Option.map · _) (funext fun n => by simp only [Function.comp_apply]; omega)

/-- How many brackets of a kind are open behind the tokens, if `depth` are open in front of
them. Nothing if one is closed that was never opened. -/
def depthAfter (opener closer : Kind) : Nat → List Token → Option Nat
  | depth, [] => some depth
  | depth, t :: ts =>
    if t.kind = opener then depthAfter opener closer (depth + 1) ts
    else if t.kind = closer then
      match depth with
      | 0 => none
      | d + 1 => depthAfter opener closer d ts
    else depthAfter opener closer depth ts

/-- Every bracket of the kind is closed behind where it is opened, and none is closed that is
not open. Brackets of other kinds do not count. -/
def Balanced (opener closer : Kind) (ts : List Token) : Prop :=
  depthAfter opener closer 0 ts = some 0

instance (opener closer : Kind) (ts : List Token) : Decidable (Balanced opener closer ts) :=
  inferInstanceAs (Decidable (_ = _))

/-- A search goes on behind tokens at the depth that they leave, above any depth `k` that was
there before them. -/
theorem closeFrom_of_depthAfter {depth' : Nat}
    (h : depthAfter opener closer depth ts = some depth') (k : Nat) (rest : List Token) :
    closeFrom opener closer (depth + k) (ts ++ rest)
      = (closeFrom opener closer (depth' + k) rest).map (· + ts.length) := by
  induction ts generalizing depth with
  | nil =>
    cases h
    simp
  | cons t ts ih =>
    have hlen : (fun n => n + (t :: ts).length) = (· + 1) ∘ (· + ts.length) := by
      funext n
      simp only [List.length_cons, Function.comp_apply]
      omega
    simp only [depthAfter] at h
    rw [List.cons_append, hlen, ← Option.map_map]
    by_cases ho : t.kind = opener
    · rw [if_pos ho] at h
      simp only [closeFrom, if_pos ho]
      rw [Nat.add_right_comm, ih h]
    · rw [if_neg ho] at h
      by_cases hc : t.kind = closer
      · rw [if_pos hc] at h
        cases depth with
        | zero => cases h
        | succ d =>
          rw [Nat.add_right_comm, closeFrom, if_neg ho, if_pos hc]
          exact congrArg (Option.map (· + 1)) (ih h)
      · rw [if_neg hc] at h
        simp only [closeFrom, if_neg ho, if_neg hc]
        rw [ih h]

theorem Balanced.closed (h : Balanced opener closer ts) : Closed opener closer ts := by
  intro depth rest
  simpa using closeFrom_of_depthAfter h depth rest

/-- Tokens that close a bracket too many end the search for one. -/
theorem exists_closeFrom_of_depthAfter (h : depthAfter opener closer depth ts = none) :
    ∃ n, closeFrom opener closer depth ts = some n := by
  induction ts generalizing depth with
  | nil => cases h
  | cons t ts ih =>
    simp only [depthAfter] at h
    simp only [closeFrom]
    split at h
    · next ho =>
        obtain ⟨n, hn⟩ := ih h
        exact ⟨n + 1, by simp [ho, hn]⟩
    · next ho =>
        split at h
        · next hc =>
            cases depth with
            | zero => exact ⟨0, by rw [if_neg ho, if_pos hc]⟩
            | succ d =>
              obtain ⟨n, hn⟩ := ih h
              exact ⟨n + 1, by simp only [if_neg ho, if_pos hc, hn, Option.map_some]⟩
        · next hc =>
            obtain ⟨n, hn⟩ := ih h
            exact ⟨n + 1, by simp [ho, hc, hn]⟩

/-- Only balanced tokens are passed over: a bracket closed too many would end the search inside
them, and one left open would keep it from ending at the next closing bracket. -/
theorem Closed.balanced (hne : opener ≠ closer) (h : Closed opener closer ts) :
    Balanced opener closer ts := by
  cases hd : depthAfter opener closer 0 ts with
  | none =>
    obtain ⟨n, hn⟩ := exists_closeFrom_of_depthAfter hd
    have hnone := h 0 []
    rw [List.append_nil, hn] at hnone
    cases hnone
  | some d =>
    cases d with
    | zero => exact hd
    | succ d =>
      have hclose := h 0 [⟨closer, [], 0⟩]
      have hopen := closeFrom_of_depthAfter hd 0 [⟨closer, [], 0⟩]
      simp only [Nat.add_zero, closeFrom, if_neg hne.symm] at hclose hopen
      simp [hopen] at hclose

/-- A search ends at a closing bracket, with all brackets before it closed. Induction over the
tokens; the depth changes with each bracket. -/
theorem exists_of_closeFrom (h : closeFrom opener closer depth ts = some n) :
    ∃ (skipped rest : List Token) (c : Token), ts = skipped ++ c :: rest ∧ skipped.length = n ∧
      c.kind = closer ∧ depthAfter opener closer depth skipped = some 0 := by
  induction ts generalizing depth n with
  | nil => cases h
  | cons t ts ih =>
    -- The search goes on behind any token but the closing bracket that it looks for.
    have hstep : ∀ d, (∀ skipped, depthAfter opener closer depth (t :: skipped) =
        depthAfter opener closer d skipped) →
        (closeFrom opener closer d ts).map (· + 1) = some n →
        ∃ (skipped rest : List Token) (c : Token), t :: ts = skipped ++ c :: rest ∧
          skipped.length = n ∧ c.kind = closer ∧
          depthAfter opener closer depth skipped = some 0 := by
      intro d hd h
      obtain ⟨m, hm, rfl⟩ := Option.map_eq_some_iff.1 h
      obtain ⟨skipped, rest, c, rfl, rfl, hc, hdepth⟩ := ih hm
      exact ⟨t :: skipped, rest, c, rfl, rfl, hc, (hd skipped).trans hdepth⟩
    simp only [closeFrom] at h
    split at h
    · next ho => exact hstep (depth + 1) (fun _ => by simp [depthAfter, ho]) h
    · next ho =>
        split at h
        · next hc =>
            cases depth with
            | zero =>
              cases h
              exact ⟨[], ts, t, rfl, rfl, hc, rfl⟩
            | succ d =>
              exact hstep d (fun _ => by simp only [depthAfter, if_neg ho, if_pos hc]) h
        · next hc => exact hstep depth (fun _ => by simp [depthAfter, ho, hc]) h

theorem opener_ne_closer (h : closer? opener = some closer) : opener ≠ closer := by
  unfold closer? at h
  split at h <;> simp_all only [Option.some.injEq, reduceCtorEq] <;> subst h <;> decide

/-- A cut at a bracket succeeds exactly on a bracket, a closed piece and the bracket
that fits. What follows is handed back and does not matter. -/
theorem enclosed?_eq_some_iff :
    enclosed? ts = some (inner, after) ↔
      ∃ o c : Token, ts = o :: (inner ++ c :: after) ∧ closer? o.kind = some c.kind ∧
        Closed o.kind c.kind inner := by
  constructor
  · intro h
    cases ts with
    | nil => simp [enclosed?] at h
    | cons o ts =>
      simp only [enclosed?] at h
      split at h
      · simp at h
      · next closer hcl =>
          obtain ⟨n, hn, hp⟩ := Option.map_eq_some_iff.1 h
          obtain ⟨skipped, rest, c, rfl, rfl, hc, hdepth⟩ := exists_of_closeFrom hn
          obtain ⟨rfl, rfl⟩ : skipped = inner ∧ rest = after := by simpa using hp
          exact ⟨o, c, rfl, by rw [hcl, hc], hc ▸ Balanced.closed hdepth⟩
  · rintro ⟨o, c, rfl, hcl, h⟩
    simp only [enclosed?, hcl]
    rw [h]
    simp [closeFrom, (opener_ne_closer hcl).symm]

/-- The same cut with other tokens behind it. -/
theorem enclosed?_append (h : enclosed? ts = some (inner, after)) :
    ∃ used : List Token, ts = used ++ after ∧
      ∀ rest, enclosed? (used ++ rest) = some (inner, rest) := by
  obtain ⟨o, c, rfl, hcl, hin⟩ := enclosed?_eq_some_iff.1 h
  refine ⟨o :: (inner ++ [c]), by simp, fun rest => ?_⟩
  exact enclosed?_eq_some_iff.2 ⟨o, c, by simp, hcl, hin⟩

/-- What a bracket encloses and what follows it are tokens of the list. -/
theorem subset_of_enclosed? (h : enclosed? ts = some (inner, after)) : inner ⊆ ts ∧ after ⊆ ts := by
  obtain ⟨o, c, rfl, -, -⟩ := enclosed?_eq_some_iff.1 h
  exact ⟨by grind, by grind⟩

/-! ### Looking for a comma -/

/-- The search for a comma passes over the tokens at every depth from `n` on. -/
def Uncut (n : Nat) (ts : List Token) : Prop :=
  ∀ (depth : Nat) (rest : List Token), n ≤ depth →
    cutFrom depth (ts ++ rest)
      = (ts ++ (cutFrom depth rest).1, (cutFrom depth rest).2)

theorem Uncut.mono {m : Nat} (h : Uncut m ts) (hmn : m ≤ n) : Uncut n ts :=
  fun depth rest hd => h depth rest (Nat.le_trans hmn hd)

theorem Uncut.append {us : List Token} (hts : Uncut n ts) (hus : Uncut n us) :
    Uncut n (ts ++ us) := by
  intro depth rest hd
  rw [List.append_assoc, hts depth _ hd, hus depth _ hd, List.append_assoc]

/-- A token that is neither a parenthesis nor a comma is passed over. -/
theorem uncut_singleton (hw : parenWeight t = 0) (hc : t.kind ≠ .comma) : Uncut n [t] := by
  intro depth rest _
  simp [cutFrom, hw, hc]

/-- A comma inside parentheses is passed over. -/
theorem uncut_comma (hc : t.kind = .comma) : Uncut (n + 1) [t] := by
  intro depth rest hd
  have hz : depth ≠ 0 := by omega
  simp [cutFrom, parenWeight, hc, hz]

/-- Parentheses shelter the commas between them. -/
theorem Uncut.bracket (h : Uncut (n + 1) ts) {o c : Token} (ho : o.kind = .leftParen)
    (hc : c.kind = .rightParen) : Uncut n (o :: (ts ++ [c])) := by
  intro depth rest hd
  have hup : (depth : Int) + 1 = ((depth + 1 : Nat) : Int) := by omega
  have hdown : ((depth + 1 : Nat) : Int) + -1 = (depth : Int) := by omega
  -- Inside the parentheses the depth is one more, so a comma there cuts nothing.
  rw [List.cons_append, List.append_assoc, List.singleton_append]
  simp only [cutFrom, parenWeight, ho, reduceCtorEq, false_and, if_false]
  rw [hup, h (depth + 1) _ (by omega)]
  simp only [cutFrom, parenWeight, hc, reduceCtorEq, false_and, if_false]
  rw [hdown]
  simp

/-- An argument is cut off at the comma behind it. -/
theorem cutArgument_of_uncut {rest : List Token} (h : Uncut 0 ts) {comma : Token}
    (hc : comma.kind = .comma) : cutArgument (ts ++ comma :: rest) = (ts, some rest) := by
  have := h 0 (comma :: rest) (Nat.le_refl 0)
  simpa [cutArgument, cutFrom, hc] using this

/-- The last argument is cut off at the end. -/
theorem cutArgument_self (h : Uncut 0 ts) : cutArgument ts = (ts, none) := by
  have := h 0 [] (Nat.le_refl 0)
  simpa [cutArgument, cutFrom] using this

/-- The commas outside parentheses, if `depth` parentheses are open in front of the tokens. -/
def outerCommas : Int → List Token → List Token
  | _, [] => []
  | depth, t :: ts =>
    if t.kind = .comma ∧ depth = 0 then t :: outerCommas depth ts
    else outerCommas (depth + parenWeight t) ts

/-- A cut takes nothing away: without a comma the argument is all there is, and with one
the tokens are the argument, the first comma outside parentheses and what follows. -/
theorem cutFrom_cases (depth : Int) (ts : List Token) :
    (cutFrom depth ts = (ts, none) ∧ outerCommas depth ts = []) ∨
      ∃ (span rest : List Token) (comma : Token), ts = span ++ comma :: rest ∧
        comma.kind = .comma ∧ cutFrom depth ts = (span, some rest) ∧
        outerCommas depth ts = comma :: outerCommas 0 rest := by
  induction ts generalizing depth with
  | nil => exact .inl ⟨rfl, rfl⟩
  | cons t ts ih =>
    rw [cutFrom, outerCommas]
    split
    -- A comma outside parentheses cuts here, and any other token goes to the argument.
    · next h => exact .inr ⟨[], ts, t, rfl, h.1, rfl, by rw [h.2]⟩
    · rcases ih (depth + parenWeight t) with ⟨hcut, hno⟩ | ⟨span, rest, comma, hts, hc, hcut, hcs⟩
      · exact .inl ⟨by rw [hcut], hno⟩
      · exact .inr ⟨t :: span, rest, comma, by rw [hts, List.cons_append], hc, by rw [hcut], hcs⟩

/-- Every argument but the last is cut off at a comma, and what follows is shorter. -/
@[elab_as_elim]
theorem cut_induction {motive : List Token → Prop}
    (last : ∀ ts, cutArgument ts = (ts, none) → outerCommas 0 ts = [] → motive ts)
    (more : ∀ span comma rest, comma.kind = .comma →
      cutArgument (span ++ comma :: rest) = (span, some rest) →
      outerCommas 0 (span ++ comma :: rest) = comma :: outerCommas 0 rest →
      motive rest → motive (span ++ comma :: rest))
    (ts : List Token) : motive ts := by
  induction hlen : ts.length using Nat.strongRecOn generalizing ts with
  | _ n ih =>
    rcases cutFrom_cases 0 ts with ⟨hcut, hno⟩ | ⟨span, rest, comma, rfl, hc, hcut, hcommas⟩
    · exact last ts hcut hno
    · exact more span comma rest hc hcut hcommas (ih rest.length (by grind) rest rfl)

theorem spans_eq (ts : List Token) :
    spans ts = (cutArgument ts).1 :: ((cutArgument ts).2.map spans).getD [] := by
  rw [spans]
  split
  · next h =>
      rw [h]
      rfl
  · next h =>
      simp only [h]
      rfl

theorem spans_of_last {span : List Token} (h : cutArgument ts = (span, none)) :
    spans ts = [span] := by
  rw [spans_eq, h]
  rfl

theorem spans_of_more {span rest : List Token} (h : cutArgument ts = (span, some rest)) :
    spans ts = span :: spans rest := by
  rw [spans_eq, h]
  rfl

theorem spans_self (h : Uncut 0 ts) : spans ts = [ts] := spans_of_last (cutArgument_self h)

theorem spans_append_comma {span rest : List Token} {comma : Token} (hspan : Uncut 0 span)
    (hcomma : comma.kind = .comma) : spans (span ++ comma :: rest) = span :: spans rest :=
  spans_of_more (cutArgument_of_uncut hspan hcomma)

theorem flatten_spans_subset (ts : List Token) : (spans ts).flatten ⊆ ts := by
  induction ts using cut_induction with
  | last ts hcut _ => simp [spans_of_last hcut]
  | more span comma rest _ hcut _ ih =>
    rw [spans_of_more hcut, List.flatten_cons]
    grind

/-- The arguments consist of tokens of the list. -/
theorem flatten_splitArguments_subset (ts : List Token) : (splitArguments ts).flatten ⊆ ts := by
  unfold splitArguments
  split
  · simp
  · exact flatten_spans_subset ts

/-! ### Looking for a semicolon -/

/-- A token that is no semicolon goes to the statement. -/
theorem terminated?_cons (ht : t.kind ≠ .semicolon) (ts : List Token) :
    terminated? (t :: ts) = (terminated? ts).map fun cut => (t :: cut.1, cut.2) := by
  simp only [terminated?, ne_eq, ht, not_false_eq_true, decide_true,
    List.dropWhile_cons_of_pos, List.takeWhile_cons_of_pos]
  generalize List.dropWhile _ ts = rest
  cases rest <;> rfl

/-- A statement is cut off at the first semicolon. What follows is handed back and does not
matter. -/
theorem terminated?_eq_some_iff {statement : List Token} :
    terminated? ts = some (statement, after) ↔
      ∃ t : Token, t.kind = .semicolon ∧ ts = statement ++ t :: after ∧
        ∀ u ∈ statement, u.kind ≠ .semicolon := by
  induction ts generalizing statement with
  | nil => simp [terminated?]
  | cons t ts ih =>
    by_cases ht : t.kind = .semicolon
    · -- The semicolon is in front, so the statement is empty.
      have hcut : terminated? (t :: ts) = some ([], ts) := by simp [terminated?, ht]
      rw [hcut]
      constructor
      · intro h
        cases h
        exact ⟨t, ht, rfl, by simp⟩
      · rintro ⟨u, hu, hts, hfree⟩
        cases statement with
        | nil =>
          cases hts
          rfl
        | cons w statement =>
          cases hts
          exact absurd ht (hfree t List.mem_cons_self)
    · -- Any other token goes to the statement.
      rw [terminated?_cons ht, Option.map_eq_some_iff]
      constructor
      · rintro ⟨⟨statement', after'⟩, h, heq⟩
        cases heq
        obtain ⟨u, hu, hts, hfree⟩ := ih.1 h
        exact ⟨u, hu, by rw [hts, List.cons_append], List.forall_mem_cons.2 ⟨ht, hfree⟩⟩
      · rintro ⟨u, hu, hts, hfree⟩
        cases statement with
        | nil =>
          cases hts
          exact absurd hu ht
        | cons w statement =>
          cases hts
          exact ⟨(statement, after), ih.2 ⟨u, hu, rfl, fun x hx =>
            hfree x (List.mem_cons_of_mem _ hx)⟩, rfl⟩

/-- A statement and what follows it are tokens of the list. -/
theorem subset_of_terminated? {statement : List Token}
    (h : terminated? ts = some (statement, after)) : statement ⊆ ts ∧ after ⊆ ts := by
  obtain ⟨t, -, rfl, -⟩ := terminated?_eq_some_iff.1 h
  exact ⟨by simp, by simp⟩

end Bracket

end Quartz
