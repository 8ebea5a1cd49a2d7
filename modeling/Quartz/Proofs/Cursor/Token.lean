import Quartz.Proofs.Cursor.Simulation
import Quartz.Proofs.Declaration

/-!
# `Quartz.Proofs.Cursor.Token`: reading tokens by their index

A cursor at an index stands for the tokens from that index on. Each reading at an index is then
the reading at the front of those tokens: of a bracket (`matchingClose_eq`), of arguments
(`splitArguments_eq`), of a statement (`terminator_eq`), of declarations (`readsAs_parseFunction`,
`readsAs_parseClass`) and of the members of a class (`readsAs_scan`).
-/

set_option autoImplicit false

namespace Quartz

namespace Cursor

variable {ts rest : List Token} {t : Token} {i : Nat}

/-! ### Tokens -/

theorem lt_of_drop (h : ts.drop i = t :: rest) : i < ts.length := by
  apply Nat.lt_of_not_le
  intro hle
  rw [List.drop_of_length_le hle] at h
  cases h

theorem drop_succ (h : ts.drop i = t :: rest) : ts.drop (i + 1) = rest := by
  rw [← List.tail_drop, h, List.tail_cons]

theorem not_lt_of_drop (h : ts.drop i = []) : ¬ i < ts.length :=
  Nat.not_lt.2 (List.drop_eq_nil_iff.1 h)

theorem tokenAt_eq (h : ts.drop i = t :: rest) : tokenAt ts i = pure t := by
  have hget : ts[i]? = some t := by rw [← List.head?_drop, h, List.head?_cons]
  unfold tokenAt
  rw [hget]

/-- The tokens in front of others are a slice. -/
theorem slice_eq {inner after : List Token} (hi : i ≤ ts.length) (h : ts.drop i = inner ++ after) :
    slice ts i (i + inner.length) = pure inner := by
  have hlen := congrArg List.length h
  simp only [List.length_drop, List.length_append] at hlen
  unfold slice
  rw [if_pos ⟨by omega, by omega⟩, List.drop_take, h, Nat.add_sub_cancel_left,
    List.take_left]

theorem ahead_eq {j : Nat} (h : ts.length - j < ts.length - i) : ahead ts i j = pure ⟨h⟩ :=
  Guarded.ensure_eq h

/-- A cursor that stands for fewer tokens has moved on. -/
theorem left_lt {left after : List Token} {j : Nat} (hi : ts.drop i = left)
    (hj : ts.drop j = after) (h : after.length < left.length) :
    ts.length - j < ts.length - i := by
  rwa [← List.length_drop, ← List.length_drop, hi, hj]

theorem holdsAt_eq (ts : List Token) (i : Nat) (p : Token → Bool) :
    holdsAt ts i p = pure ((ts.drop i).head?.any p) := by
  unfold holdsAt
  cases h : ts.drop i with
  | nil =>
    rw [if_neg (not_lt_of_drop h)]
    rfl
  | cons t rest =>
    rw [if_pos (lt_of_drop h), tokenAt_eq h, pure_bind]
    rfl

theorem tokenAt_last (h : 0 < ts.length) :
    ∃ t, tokenAt ts (ts.length - 1) = pure t ∧ t.offset = Token.endOffset ts := by
  have hne : ts ≠ [] := List.ne_nil_of_length_pos h
  refine ⟨ts.getLast hne, ?_, ?_⟩
  · unfold tokenAt
    rw [← List.getLast?_eq_getElem?, List.getLast?_eq_some_getLast hne]
  · unfold Token.endOffset
    rw [List.getLast?_eq_some_getLast hne]
    rfl

theorem placeAt_eq (ts : List Token) (i : Nat) :
    placeAt ts i = pure (Token.place (Token.endOffset ts) (ts.drop i)) := by
  unfold placeAt
  cases h : ts.drop i with
  | cons t rest =>
    rw [if_pos (lt_of_drop h), tokenAt_eq h, pure_bind]
    rfl
  | nil =>
    rw [if_neg (not_lt_of_drop h)]
    cases ts with
    | nil => rfl
    | cons u us =>
      have hpos : 0 < (u :: us).length := Nat.succ_pos _
      obtain ⟨last, hlast, hoffset⟩ := tokenAt_last hpos
      rw [if_pos hpos, hlast, pure_bind, hoffset]
      rfl

theorem complain_eq {α : Type} (form : Malformation) (ts : List Token) (i : Nat) :
    (complain form ts i : Guarded α) = Guarded.ofEval (Eval.malformed form
      (Token.place (Token.endOffset ts) (ts.drop i))) := by
  unfold complain
  rw [placeAt_eq, pure_bind]
  rfl

/-! ### Brackets -/

/-- The search for a closing bracket, with at least one bracket open. -/
theorem closeFrom_eq (ts : List Token) (opener closer : Kind) (depth i : Nat) :
    closeFrom ts opener closer (depth + 1) i =
      pure ((Bracket.closeFrom opener closer depth (ts.drop i)).map (i + ·)) := by
  -- On what is left: each step moves the cursor by one.
  generalize hleft : ts.drop i = left
  induction left generalizing depth i with
  | nil =>
    rw [closeFrom, if_neg (not_lt_of_drop hleft)]
    rfl
  | cons t rest ih =>
    have hshift : ∀ r : Option Nat, r.map (i + 1 + ·) = (r.map (· + 1)).map (i + ·) := by
      intro r
      cases r with
      | none => rfl
      | some n => exact congrArg some (Nat.add_right_comm i 1 n)
    rw [closeFrom, if_pos (lt_of_drop hleft), tokenAt_eq hleft, pure_bind,
      Bracket.closeFrom.eq_def]
    dsimp only
    split
    · rw [← hshift, ← ih (depth + 1) (i + 1) (drop_succ hleft)]
      rfl
    · split
      · cases depth with
        | zero => rfl
        | succ d =>
          have hpos : ¬ ((d + 1 : Nat) : Int) + 1 - 1 = 0 := by omega
          have hdepth : ((d + 1 : Nat) : Int) + 1 - 1 = (d : Int) + 1 := by omega
          rw [if_neg hpos, hdepth, ih d (i + 1) (drop_succ hleft), hshift]
      · rw [ih depth (i + 1) (drop_succ hleft), hshift]

theorem matchingClose_eq (ts : List Token) (i : Nat) :
    matchingClose ts i = pure (Bracket.matchingClose? ts i) := by
  unfold matchingClose Bracket.matchingClose?
  cases h : ts.drop i with
  | nil =>
    rw [if_neg (not_lt_of_drop h)]
    rfl
  | cons t rest =>
    rw [if_pos (lt_of_drop h), tokenAt_eq h, pure_bind, Bracket.enclosed?]
    cases hcloser : Bracket.closer? t.kind with
    | none => rfl
    | some closer =>
      -- The bracket itself is the first one that is counted.
      dsimp only
      rw [closeFrom, if_pos (lt_of_drop h), tokenAt_eq h, pure_bind, if_pos rfl]
      have hfrom := closeFrom_eq ts t.kind closer 0 (i + 1)
      rw [drop_succ h] at hfrom
      rw [Option.map_map]
      refine hfrom.trans ?_
      cases hclose : Bracket.closeFrom t.kind closer 0 rest with
      | none => rfl
      | some n =>
        have hlt := Bracket.closeFrom_lt hclose
        simp only [Option.map_some, Function.comp_apply, List.length_take]
        congr 2
        omega

/-- A closing bracket and what it closes, in a token list. -/
structure Encloses (ts : List Token) (i close : Nat) (cut : List Token × List Token) : Prop where
  lt : i < close
  slice_eq : slice ts (i + 1) close = pure cut.1
  drop_eq : ts.drop (close + 1) = cut.2
  close_lt : close < ts.length
  length_eq : close = i + 1 + cut.1.length

theorem encloses_of_enclosed? {cut : List Token × List Token}
    (h : Bracket.enclosed? (ts.drop i) = some cut) :
    matchingClose ts i = pure (some (i + 1 + cut.1.length)) ∧
      Encloses ts i (i + 1 + cut.1.length) cut := by
  obtain ⟨inner, after⟩ := cut
  obtain ⟨o, c, hdrop, _, _⟩ := Bracket.enclosed?_eq_some_iff.1 h
  have hlt := lt_of_drop hdrop
  have hinner := drop_succ hdrop
  have hlen := congrArg List.length hinner
  simp only [List.length_drop, List.length_append, List.length_cons] at hlen
  constructor
  · rw [matchingClose_eq, Bracket.matchingClose?, h]
    rfl
  · constructor
    · dsimp only
      omega
    · exact Cursor.slice_eq hlt hinner
    · show ts.drop (i + 1 + inner.length + 1) = after
      rw [← List.drop_drop, ← List.drop_drop, hinner, List.drop_left]
      rfl
    · dsimp only
      omega
    · rfl

theorem matchingClose_none (h : Bracket.enclosed? (ts.drop i) = none) :
    matchingClose ts i = pure none := by
  rw [matchingClose_eq, Bracket.matchingClose?, h]
  rfl

theorem terminator_eq (ts : List Token) (i : Nat) :
    terminator ts i = pure ((Bracket.terminated? (ts.drop i)).map fun cut => i + cut.1.length) := by
  generalize hleft : ts.drop i = left
  induction left generalizing i with
  | nil =>
    rw [terminator, if_neg (not_lt_of_drop hleft)]
    rfl
  | cons t rest ih =>
    rw [terminator, if_pos (lt_of_drop hleft), tokenAt_eq hleft, pure_bind]
    split
    · next ht => simp [Bracket.terminated?, ht]
    · next ht =>
        rw [ih (i + 1) (drop_succ hleft), Bracket.terminated?_cons ht rest]
        cases Bracket.terminated? rest with
        | none => rfl
        | some cut =>
          simp only [Option.map_some, List.length_cons]
          congr 2
          omega

/-- A statement is a slice, and the cursor goes on behind its semicolon. -/
theorem slice_of_terminated? {statement after : List Token} (hi : i ≤ ts.length)
    (h : Bracket.terminated? (ts.drop i) = some (statement, after)) :
    slice ts i (i + statement.length) = pure statement ∧
      ts.drop (i + statement.length + 1) = after := by
  obtain ⟨semicolon, _, hdrop, _⟩ := Bracket.terminated?_eq_some_iff.1 h
  constructor
  · exact slice_eq hi hdrop
  · rw [← List.drop_drop, ← List.drop_drop, hdrop, List.drop_left]
    rfl

/-! ### Arguments -/

/-- The pieces from a cursor on, of which the first one began at `start`. -/
theorem splitFrom_eq (ts : List Token) (depth : Int) (start i : Nat) (done : List (List Token))
    (hstart : start ≤ i) (hi : i ≤ ts.length) :
    splitFrom ts depth start i done = pure (done ++
      ((ts.take i).drop start ++ (Bracket.cutFrom depth (ts.drop i)).1) ::
        ((Bracket.cutFrom depth (ts.drop i)).2.map Bracket.spans).getD []) := by
  generalize hleft : ts.drop i = left
  induction left generalizing depth start i done with
  | nil =>
    have hlen : i = ts.length := Nat.le_antisymm hi (List.drop_eq_nil_iff.1 hleft)
    subst hlen
    have hlast : slice ts start ts.length = pure ((ts.take ts.length).drop start) :=
      if_pos ⟨hstart, Nat.le_refl _⟩
    rw [splitFrom, if_neg (Nat.lt_irrefl _), hlast, pure_bind, Bracket.cutFrom,
      List.append_nil]
    rfl
  | cons t rest ih =>
    have hlt := lt_of_drop hleft
    have hrest := drop_succ hleft
    rw [splitFrom, if_pos hlt, tokenAt_eq hleft, pure_bind, Bracket.cutFrom]
    split
    · next hcomma =>
        -- A comma ends a piece, and the next one begins behind it.
        have hspan : slice ts start i = pure ((ts.take i).drop start) := if_pos ⟨hstart, hi⟩
        have hempty : (ts.take (i + 1)).drop (i + 1) = [] :=
          List.drop_of_length_le (List.length_take_le _ _)
        rw [hspan, pure_bind, ih depth (i + 1) (i + 1) _ (Nat.le_refl _) hlt hrest, hempty,
          hcomma.2, List.nil_append, List.append_nil, List.append_assoc]
        simp only [Option.map_some, Option.getD_some, List.singleton_append]
        rw [Bracket.spans_eq rest]
        rfl
    · -- Any other token goes to the piece.
      have hgrow : (ts.take (i + 1)).drop start = (ts.take i).drop start ++ [t] := by
        have hget : ts[i]? = some t := by rw [← List.head?_drop, hleft, List.head?_cons]
        rw [List.take_add_one, hget, List.drop_append_of_le_length]
        · rfl
        · rw [List.length_take]
          omega
      rw [ih _ start (i + 1) done (by omega) hlt hrest, hgrow, List.append_assoc]
      rfl

theorem splitArguments_eq (ts : List Token) :
    splitArguments ts = pure (Bracket.splitArguments ts) := by
  unfold splitArguments Bracket.splitArguments
  cases ts with
  | nil => rfl
  | cons t rest =>
    have hpos : (t :: rest).length ≠ 0 := Nat.succ_ne_zero _
    rw [if_neg hpos, if_neg (List.cons_ne_nil t rest),
      splitFrom_eq _ 0 0 0 [] (Nat.le_refl _) (Nat.zero_le _), Bracket.spans_eq]
    rfl

/-! ### Declarations -/

/-- A result with an index beside a result with the tokens from there on. -/
def At {α : Type} (ts : List Token) (x : α × Nat) (y : α × List Token) : Prop :=
  x.1 = y.1 ∧ x.2 ≤ ts.length ∧ ts.drop x.2 = y.2

theorem expectAt_of_holds {p : Token → Bool} (h : (ts.drop i).head?.any p = true)
    (form : Malformation) : expectAt ts i p form = pure () := by
  unfold expectAt
  rw [holdsAt_eq, pure_bind, if_pos h]

theorem expectAt_of_not {p : Token → Bool} (h : (ts.drop i).head?.any p = false)
    (form : Malformation) :
    expectAt ts i p form = Guarded.ofEval (Eval.stop (.runtime (Declaration.malformedAt form
      (Token.place (Token.endOffset ts) (ts.drop i))))) := by
  unfold expectAt
  rw [holdsAt_eq, pure_bind, h, complain_eq]
  rfl

theorem readsAs_expectAt (ts : List Token) (i : Nat) (p : Token → Bool) (form : Malformation) :
    ReadsAs (fun _ r => ts.drop i = r.1 :: r.2) (expectAt ts i p form)
      (Declaration.expect p form (Token.endOffset ts) (ts.drop i)) := by
  unfold Declaration.expect
  cases h : ts.drop i with
  | nil =>
    have hnot : (ts.drop i).head?.any p = false := by rw [h]; rfl
    rw [expectAt_of_not hnot, h]
    exact .error _
  | cons t rest =>
    have hhead : (ts.drop i).head?.any p = p t := by rw [h]; rfl
    dsimp only
    cases hp : p t with
    | true =>
      rw [expectAt_of_holds (hhead.trans hp)]
      exact .pure rfl
    | false =>
      rw [expectAt_of_not (hhead.trans hp), h]
      exact .error _

theorem readsAs_bracketAt (ts : List Token) (opener : Kind) (absent unclosed : Malformation)
    (i : Nat) :
    ReadsAs (Encloses ts i) (bracketAt ts opener absent unclosed i)
      (Declaration.bracketed opener absent unclosed (Token.endOffset ts) (ts.drop i)) := by
  unfold bracketAt
  cases h : ts.drop i with
  | nil =>
    have hnot : (ts.drop i).head?.any (·.kind = opener) = false := by rw [h]; rfl
    rw [expectAt_of_not hnot, Guarded.stop_bind, h]
    exact .error _
  | cons t rest =>
    have hhead : (ts.drop i).head?.any (·.kind = opener) = decide (t.kind = opener) := by
      rw [h]
      rfl
    rw [Declaration.bracketed]
    split
    · next hkind =>
        rw [expectAt_of_holds (hhead.trans (decide_eq_true hkind)), pure_bind, ← h]
        cases hcut : Bracket.enclosed? (ts.drop i) with
        | some cut =>
          obtain ⟨hclose, hencloses⟩ := encloses_of_enclosed? hcut
          rw [hclose, pure_bind]
          exact .pure hencloses
        | none =>
          rw [matchingClose_none hcut, pure_bind]
          dsimp only
          rw [complain_eq, h]
          exact .error _
    · next hkind =>
        rw [expectAt_of_not (hhead.trans (decide_eq_false hkind)), Guarded.stop_bind, h]
        exact .error _

/-! ### Parameters, functions and classes -/

theorem readsAs_parseParam (span : List Token) :
    ReadsAs Eq (parseParam span)
      (match Param.ofTokens? span with
      | none => .error (Declaration.malformedAt .parameterForm (Token.place (-1) span))
      | some p => .ok p) := by
  -- A parameter is declared by two tokens, and by any other number none is.
  rcases span with _ | ⟨type, _ | ⟨name, _ | ⟨more, rest⟩⟩⟩
  · exact .error _
  · exact .error _
  · have hparse : parseParam [type, name] =
        if type.namesType && decide (name.kind = .ident) then pure ⟨name.literal, type.literal⟩
        else Guarded.ofEval (Eval.malformed .parameterForm type.offset) := rfl
    have hread : Param.ofTokens? [type, name] =
        if type.namesType && decide (name.kind = .ident) then some ⟨name.literal, type.literal⟩
        else none := rfl
    rw [hparse, hread]
    split
    · exact .pure rfl
    · exact .error _
  · exact .error _

theorem readsAs_parseParams (spans : List (List Token)) :
    ReadsAs Eq (parseParams spans) (Param.readAll spans) := by
  induction spans with
  | nil => exact .pure rfl
  | cons span spans ih =>
    have hparam := readsAs_parseParam span
    unfold parseParams Param.readAll
    cases hp : Param.ofTokens? span with
    | none =>
      rw [hp] at hparam
      rw [hparam.eq_stop, Guarded.stop_bind]
      exact .error _
    | some p =>
      rw [hp] at hparam
      obtain ⟨_, rfl, hpure⟩ := hparam
      rw [hpure, pure_bind]
      cases hps : Param.readAll spans with
      | error e =>
        rw [hps] at ih
        rw [ih.eq_stop, Guarded.stop_bind]
        exact .error e
      | ok ps =>
        rw [hps] at ih
        obtain ⟨_, rfl, hpure⟩ := ih
        rw [hpure, pure_bind]
        exact .pure rfl

theorem readsAs_parseFunction (ts : List Token) (i : Nat) :
    ReadsAs (At ts) (parseFunction ts i) (FunctionDecl.read (Token.endOffset ts) (ts.drop i)) := by
  unfold parseFunction FunctionDecl.read
  apply (readsAs_expectAt ts i _ _).bind
  rintro _ ⟨word, afterWord⟩ hword
  have hword' := drop_succ hword
  dsimp only at hword' ⊢
  rw [← hword']
  apply (readsAs_expectAt ts (i + 1) _ _).bind
  rintro _ ⟨name, afterName⟩ hname
  have hname' := drop_succ hname
  dsimp only at hname' ⊢
  rw [← hname']
  apply ReadsAs.ofPure (tokenAt_eq hname)
  apply (readsAs_bracketAt ts _ _ _ (i + 2)).bind
  rintro close ⟨list, afterList⟩ hlist
  apply ReadsAs.ofPure hlist.slice_eq
  apply ReadsAs.ofPure (splitArguments_eq list)
  apply (readsAs_parseParams _).bind
  rintro params _ rfl
  have hlist' : ts.drop (close + 1) = afterList := hlist.drop_eq
  dsimp only
  rw [← hlist']
  apply (readsAs_bracketAt ts _ _ _ (close + 1)).bind
  rintro last ⟨body, after⟩ hbody
  apply ReadsAs.ofPure hbody.slice_eq
  exact .pure ⟨rfl, hbody.close_lt, hbody.drop_eq⟩

theorem readsAs_parseClass (ts : List Token) (i : Nat) :
    ReadsAs (At ts) (parseClass ts i) (ClassDecl.read (Token.endOffset ts) (ts.drop i)) := by
  unfold parseClass ClassDecl.read
  apply (readsAs_expectAt ts i _ _).bind
  rintro _ ⟨word, afterWord⟩ hword
  have hword' := drop_succ hword
  dsimp only at hword' ⊢
  rw [← hword']
  apply (readsAs_expectAt ts (i + 1) _ _).bind
  rintro _ ⟨name, afterName⟩ hname
  have hname' := drop_succ hname
  dsimp only at hname' ⊢
  rw [← hname']
  apply (readsAs_bracketAt ts _ _ _ (i + 2)).bind
  rintro close ⟨body, after⟩ hbody
  apply ReadsAs.ofPure (tokenAt_eq hname)
  apply ReadsAs.ofPure hbody.slice_eq
  exact .pure ⟨rfl, hbody.close_lt, hbody.drop_eq⟩

/-- The members of a class body, from an index on. -/
theorem readsAs_scanFrom (ts : List Token) (found : Members) (i : Nat) :
    ReadsAs Eq (scanFrom ts found i)
      (Members.scanFrom (Token.endOffset ts) found (ts.drop i)) := by
  have hfunction := readsAs_parseFunction ts
  have hblock := readsAs_bracketAt ts .leftBrace .expectedVariablesBlock .unbalancedVariablesBlock
  generalize hleft : ts.drop i = left
  -- One case for each kind of declaration, and for each way in which it can fail.
  fun_induction Members.scanFrom (Token.endOffset ts) found left generalizing i with
  | case1 found =>
    rw [scanFrom, if_neg (not_lt_of_drop hleft)]
    exact .pure rfl
  | case2 found t rest hword e he =>
    have hread := hfunction i
    rw [hleft, he] at hread
    rw [scanFrom, if_pos (lt_of_drop hleft), tokenAt_eq hleft, pure_bind, if_pos hword,
      hread.eq_stop, Guarded.stop_bind]
    exact .error e
  | case3 found t rest hword d after hd hshort ih =>
    have hread := hfunction i
    rw [hleft, hd] at hread
    obtain ⟨⟨_, next⟩, ⟨rfl, _, hnext⟩, hpure⟩ := hread
    have hlt : after.length < (t :: rest).length := by omega
    rw [scanFrom, if_pos (lt_of_drop hleft), tokenAt_eq hleft, pure_bind, if_pos hword, hpure,
      pure_bind, ahead_eq (left_lt hleft hnext hlt), pure_bind]
    exact ih next hnext
  | case4 found t rest hword hvars e he =>
    have hread := hblock (i + 1)
    rw [drop_succ hleft, he] at hread
    rw [scanFrom, if_pos (lt_of_drop hleft), tokenAt_eq hleft, pure_bind, if_neg hword,
      if_pos hvars, hread.eq_stop, Guarded.stop_bind]
    exact .error e
  | case5 found t rest hword hvars block after hread' _ hdup =>
    have hread := hblock (i + 1)
    rw [drop_succ hleft, hread'] at hread
    obtain ⟨close, _, hpure⟩ := hread
    rw [scanFrom, if_pos (lt_of_drop hleft), tokenAt_eq hleft, pure_bind, if_neg hword,
      if_pos hvars, hpure, pure_bind, if_pos hdup, complain_eq, hleft]
    exact .error _
  | case6 found t rest hword hvars block after hread' hshort hdup ih =>
    have hread := hblock (i + 1)
    rw [drop_succ hleft, hread'] at hread
    obtain ⟨close, hencloses, hpure⟩ := hread
    have hlt : after.length < (t :: rest).length := by
      rw [List.length_cons]
      omega
    rw [scanFrom, if_pos (lt_of_drop hleft), tokenAt_eq hleft, pure_bind, if_neg hword,
      if_pos hvars, hpure, pure_bind, if_neg hdup, hencloses.slice_eq, pure_bind,
      ahead_eq (left_lt hleft hencloses.drop_eq hlt), pure_bind]
    exact ih (close + 1) hencloses.drop_eq
  | case7 found t rest hword hvars hbrace hcut =>
    rw [← hleft] at hcut
    rw [scanFrom, if_pos (lt_of_drop hleft), tokenAt_eq hleft, pure_bind, if_neg hword,
      if_neg hvars, if_pos hbrace, matchingClose_none hcut, pure_bind]
    dsimp only
    rw [complain_eq, hleft]
    exact .error _
  | case8 found t rest hword hvars hbrace inner after hcut hshort ih =>
    rw [← hleft] at hcut
    obtain ⟨hclose, hencloses⟩ := encloses_of_enclosed? hcut
    have hlt : after.length < (t :: rest).length := by omega
    rw [scanFrom, if_pos (lt_of_drop hleft), tokenAt_eq hleft, pure_bind, if_neg hword,
      if_neg hvars, if_pos hbrace, hclose, pure_bind]
    dsimp only
    rw [ahead_eq (left_lt hleft hencloses.drop_eq hlt), pure_bind]
    exact ih _ hencloses.drop_eq
  | case9 found t rest hword hvars hbrace ih =>
    rw [scanFrom, if_pos (lt_of_drop hleft), tokenAt_eq hleft, pure_bind, if_neg hword,
      if_neg hvars, if_neg hbrace]
    exact ih (i + 1) (drop_succ hleft)

theorem readsAs_scan (body : List Token) :
    ReadsAs Eq (scanFrom body ⟨[], none⟩ 0) (Members.scan body) :=
  readsAs_scanFrom body ⟨[], none⟩ 0

end Cursor

end Quartz
