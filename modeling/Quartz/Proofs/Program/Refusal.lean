import Quartz.Proofs.Program.Locate

/-!
# `Quartz.Proofs.Program.Refusal`: where a source is refused

A source that does not compile is refused with a report about one of its tokens, and with one
exception only. The pieces between the commas of a parameter list are read one by one, and a piece
that is no parameter is reported at its first token. An empty piece has none, and then the error
has no place. `Param.Vacant` says which lists have such a piece before anything else is wrong with
them, and `OmitsParameter` which sources are refused because of one.

`slice_refused` goes through the scan of a source. What the scan complains about is a token, or the
end of the source, or a parameter that was left out in a declaration that the scan got to.
-/

set_option autoImplicit false

namespace Quartz

variable {ts : List Token} {ends : Int} {source : Bytes} {e : RuntimeError} {t : Token}

/-! ### Parameters -/

namespace Param

/-- A parameter list in which a parameter is left out, before anything else is wrong: a comma
stands where a parameter should, or nothing does. -/
inductive Vacant : List Token → Prop
  | nil : Vacant []
  | comma {comma : Token} {ts : List Token} (hc : comma.kind = .comma) : Vacant (comma :: ts)
  | more {type name comma : Token} {ts : List Token} (ht : type.namesType = true)
      (hn : name.kind = .ident) (hc : comma.kind = .comma) (h : Vacant ts) :
      Vacant (type :: name :: comma :: ts)

open Declaration

/-- A parameter that is left out is an error without a place. -/
theorem Vacant.readAll (h : Vacant ts) :
    Param.readAll (Bracket.spans ts) = .error (malformedAt .parameterForm (-1)) := by
  induction h with
  | nil =>
    rw [Bracket.spans_self fun _ _ _ => rfl]
    rfl
  | @comma comma ts hc =>
    have hspans := @Bracket.spans_append_comma [] ts comma (fun _ _ _ => rfl) hc
    rw [List.nil_append] at hspans
    rw [hspans]
    rfl
  | more ht hn hc _ ih =>
    rw [readAll_spans_pair ht hn hc, ih]
    rfl

/-- A list of parameters is refused at one of its tokens, or because one was left out. -/
theorem vacant_of_readAll (h : Param.readAll (Bracket.spans ts) = .error e) :
    (∃ t ∈ ts, t.offset = e.offset) ∨ (Vacant ts ∧ e = malformedAt .parameterForm (-1)) := by
  induction ts using Bracket.cut_induction with
  | last ts hcut _ =>
    rw [Bracket.spans_of_last hcut, Param.readAll] at h
    split at h
    · cases h
      cases ts with
      | nil => exact .inr ⟨.nil, rfl⟩
      | cons t ts => exact .inl ⟨t, List.mem_cons_self, rfl⟩
    · cases h
  | more span comma rest hcomma hcut _ ih =>
    rw [Bracket.spans_of_more hcut, Param.readAll] at h
    split at h
    · cases h
      cases span with
      | nil => exact .inr ⟨.comma hcomma, rfl⟩
      | cons t span => exact .inl ⟨t, by simp, rfl⟩
    · next p hp =>
        obtain ⟨type, name, rfl, ht, hn, rfl⟩ := ofTokens?_eq_some_iff.1 hp
        cases hrest : Param.readAll (Bracket.spans rest) with
        | ok params =>
          rw [hrest] at h
          cases h
        | error e' =>
          rw [hrest] at h
          cases h
          rcases ih hrest with ⟨t, ht', hoffset⟩ | ⟨hvacant, rfl⟩
          · exact .inl ⟨t, by simp [ht'], hoffset⟩
          · exact .inr ⟨.more ht hn hcomma hvacant, rfl⟩

end Param

/-! ### Declarations -/

namespace Declaration

theorem offset_of_expect {p : Token → Bool} {form : Malformation}
    (h : expect p form ends ts = .error e) : e.offset = Token.place ends ts := by
  unfold expect at h
  split at h
  · split at h <;> cases h
    rfl
  · cases h
    rfl

theorem offset_of_bracketed {opener : Kind} {absent unclosed : Malformation}
    (h : bracketed opener absent unclosed ends ts = .error e) : e.offset = Token.place ends ts := by
  unfold bracketed at h
  split at h
  · cases h
    rfl
  · split at h
    · split at h <;> cases h
      rfl
    · cases h
      rfl

end Declaration

open Declaration

/-- An offset of a token, or of the end. -/
def Token.Among (ends : Int) (ts : List Token) (offset : Int) : Prop :=
  offset = ends ∨ ∃ t ∈ ts, t.offset = offset

theorem Token.Among.mono {offset : Int} {us : List Token} (h : Among ends ts offset)
    (hsub : ts ⊆ us) : Among ends us offset := by
  rcases h with hends | ⟨t, ht, hoffset⟩
  · exact .inl hends
  · exact .inr ⟨t, hsub ht, hoffset⟩

theorem Token.among_place (ends : Int) (ts : List Token) : Among ends ts (place ends ts) := by
  cases ts with
  | nil => exact .inl rfl
  | cons t ts => exact .inr ⟨t, List.mem_cons_self, rfl⟩

namespace FunctionDecl

/-- Tokens that start a function declaration which leaves out a parameter. -/
inductive Omits : List Token → Prop
  | intro {word name o c : Token} {list rest : List Token}
      (hword : word.isKeyword .function = true) (hname : name.kind = .ident)
      (ho : o.kind = .leftParen) (hlist : Bracket.Closed .leftParen .rightParen list)
      (hne : list ≠ []) (hvacant : Param.Vacant list) (hc : c.kind = .rightParen) :
      Omits (word :: name :: o :: (list ++ c :: rest))

theorem Omits.read (h : Omits ts) (ends : Int) :
    read ends ts = .error (malformedAt .parameterForm (-1)) := by
  cases h with
  | @intro word name o c list rest hword hname ho hlist hne hvacant hc =>
    have hread : Param.readAll (Bracket.splitArguments list) =
        .error (malformedAt .parameterForm (-1)) := by
      rw [Bracket.splitArguments, if_neg hne]
      exact hvacant.readAll
    refine bind_eq_error.2 (.inr ⟨(word, _), expect_eq_ok_iff.2 ⟨rfl, hword⟩, ?_⟩)
    refine bind_eq_error.2 (.inr ⟨(name, _), expect_eq_ok_iff.2 ⟨rfl, decide_eq_true hname⟩, ?_⟩)
    refine bind_eq_error.2 (.inr ⟨(list, rest),
      (bracketed_eq_ok_iff rfl).2 ⟨o, c, rfl, ho, hc, hlist⟩, ?_⟩)
    exact bind_eq_error.2 (.inl hread)

/-- A declaration is refused at one of its tokens or at the end, or because it leaves out a
parameter. -/
theorem among_or_omits (h : read ends ts = .error e) :
    Token.Among ends ts e.offset ∨ (Omits ts ∧ e = malformedAt .parameterForm (-1)) := by
  -- Every step but the one that reads the parameters points at the token that it finds.
  rcases bind_eq_error.1 h with h | ⟨⟨word, ts₁⟩, h₁, h⟩
  · rw [offset_of_expect h]
    exact .inl (Token.among_place ends ts)
  have hsub₁ := (subset_of_expect h₁).2
  rcases bind_eq_error.1 h with h | ⟨⟨name, ts₂⟩, h₂, h⟩
  · rw [offset_of_expect h]
    exact .inl ((Token.among_place ends ts₁).mono hsub₁)
  have hsub₂ := List.Subset.trans (subset_of_expect h₂).2 hsub₁
  rcases bind_eq_error.1 h with h | ⟨⟨list, ts₃⟩, h₃, h⟩
  · rw [offset_of_bracketed h]
    exact .inl ((Token.among_place ends ts₂).mono hsub₂)
  have hlist := List.Subset.trans (subset_of_bracketed h₃).1 hsub₂
  have hsub₃ := List.Subset.trans (subset_of_bracketed h₃).2 hsub₂
  rcases bind_eq_error.1 h with h | ⟨params, -, h⟩
  · by_cases hne : list = []
    · subst hne
      cases h
    · rw [Bracket.splitArguments, if_neg hne] at h
      rcases Param.vacant_of_readAll h with ⟨t, ht, hoffset⟩ | ⟨hvacant, he⟩
      · exact .inl (.inr ⟨t, hlist ht, hoffset⟩)
      · obtain ⟨rfl, hword⟩ := expect_eq_ok_iff.1 h₁
        obtain ⟨rfl, hname⟩ := expect_eq_ok_iff.1 h₂
        obtain ⟨o, c, rfl, ho, hc, hclosed⟩ := (bracketed_eq_ok_iff rfl).1 h₃
        exact .inr ⟨.intro hword (of_decide_eq_true hname) ho hclosed hne hvacant hc, he⟩
  rcases bind_eq_error.1 h with h | ⟨⟨body, ts₄⟩, -, h⟩
  · rw [offset_of_bracketed h]
    exact .inl ((Token.among_place ends ts₃).mono hsub₃)
  · cases h

end FunctionDecl

namespace Program

open Bracket

/-! ### The scan -/

/-- Where a complaint points. -/
def Complaint.offset : Complaint → Int
  | .located _ offset => offset
  | .declaration e => e.offset

/-- How the scan is stopped: by a complaint about a token or about the end, or by a declaration
that leaves out a parameter. What it has found before declares no name twice. -/
def Refused (ends : Int) (found : Parts) (ts : List Token) (c : Complaint) : Prop :=
  Token.Among ends ts c.offset ∨
    (c = .declaration (malformedAt .parameterForm (-1)) ∧
      ∃ segs rest, Scans ts segs rest ∧ Distinct found segs ∧ FunctionDecl.Omits rest)

/-- What stops the scan behind a segment stops it. -/
theorem Refused.step {found : Parts} {after : List Token} {seg : Segment} {c : Complaint}
    (h : Refused ends (found.add seg) after c) (hstep : Step ts seg after)
    (hnew : found.declares seg = false) : Refused ends found ts c := by
  rcases h with hamong | ⟨hc, segs, rest, hs, hdistinct, homits⟩
  · refine .inl (hamong.mono ?_)
    rw [hstep.tokens_append]
    exact List.subset_append_right _ _
  · have hdistinct' : Distinct found (seg :: segs) := distinct_cons_iff.2 ⟨hnew, hdistinct⟩
    exact .inr ⟨hc, seg :: segs, rest, .step hstep hs, hdistinct', homits⟩

theorem among_of_readClass {offset : Int} {c : Complaint} (h : readClass offset ts = .error c) :
    c.offset = offset ∨ Token.Among ends ts c.offset := by
  unfold readClass at h
  split at h
  · next name rest =>
      split at h
      · split at h
        · cases h
        · cases h
          exact .inr (.inr ⟨name, List.mem_cons_self, rfl⟩)
      · cases h
        exact .inl rfl
  · cases h
    exact .inl rfl

/-- The scan is stopped in one of these ways. -/
theorem slice_refused {found : Parts} {stack : List Token} {c : Complaint}
    (hfound : Distinct found []) (hb : imbalanceFrom? stack ts = none)
    (h : slice ends found ts = .error c) : Refused ends found ts c := by
  fun_induction slice ends found ts generalizing stack with
  | case1 => cases h
  | case2 found t rest _ e hread =>
    cases h
    rcases FunctionDecl.among_or_omits hread with hamong | ⟨homits, rfl⟩
    · exact .inl hamong
    · exact .inr ⟨rfl, [], t :: rest, .start, hfound, homits⟩
  | case3 found t rest _ d after =>
    cases h
    exact .inl ((Token.among_place ends rest).mono (List.subset_cons_self t rest))
  | case4 found t rest _ d after hread _ hnew ih =>
    obtain ⟨used, hts, hwritten⟩ := FunctionDecl.read_eq_ok_iff.1 hread
    have hstep : Step (t :: rest) (.function d used) after := hts ▸ .function hwritten
    have hnew' : found.declares (.function d used) = false := Bool.eq_false_iff.2 hnew
    obtain ⟨above, habove, -⟩ := hstep.balanced hb
    exact (ih (hfound.add hnew') habove h).step hstep hnew'
  | case5 found t rest _ _ e hread =>
    cases h
    rcases among_of_readClass hread with hoffset | hamong
    · exact .inl (.inr ⟨t, List.mem_cons_self, hoffset.symm⟩)
    · exact .inl (hamong.mono (List.subset_cons_self t rest))
  | case6 found t rest _ hc d after hread =>
    cases h
    obtain ⟨used, hts, hwritten⟩ :=
      ClassDecl.read_eq_ok_iff.1 (read_of_readClass hc hread ends)
    cases hwritten with
    | @intro word name =>
      refine .inl (.inr ⟨name, ?_, rfl⟩)
      rw [hts]
      simp
  | case7 found t rest _ hc d after hread _ hnew ih =>
    obtain ⟨used, hts, hwritten⟩ :=
      ClassDecl.read_eq_ok_iff.1 (read_of_readClass hc hread ends)
    have hstep : Step (t :: rest) (.crystal d used) after := hts ▸ .crystal hwritten
    have hnew' : found.declares (.crystal d used) = false := Bool.eq_false_iff.2 hnew
    obtain ⟨above, habove, -⟩ := hstep.balanced hb
    exact (ih (hfound.add hnew') habove h).step hstep hnew'
  | case8 found t rest _ _ hbrace hcut =>
    -- A brace that is never closed is not in balance.
    obtain ⟨inner, after, hcut', -⟩ := enclosed?_of_balanced hb (by rw [hbrace]; rfl)
    cases hcut.symm.trans hcut'
  | case9 found t rest _ _ hbrace inner after hcut _ block =>
    rename_i ih
    obtain ⟨o, close, hts, hk, hinner⟩ := enclosed?_eq_some_iff.1 hcut
    cases hts
    have hclose : close.kind = .rightBrace := by
      rw [hbrace] at hk
      exact (Option.some.inj hk).symm
    rw [hbrace, hclose] at hinner
    have hstep := @Step.block t close inner after hbrace hclose hinner
    have hnew : found.declares (.statement (t :: (inner ++ [close]))) = false := rfl
    have hblock : block = t :: (inner ++ [close]) := by
      have hsplit : t :: (inner ++ close :: after) = t :: (inner ++ [close]) ++ after := by simp
      show List.take _ _ = _
      rw [hsplit]
      exact List.take_left' (by simp)
    rw [hblock] at ih h
    obtain ⟨above, habove, -⟩ := hstep.balanced hb
    exact (ih (hfound.add hnew) habove h).step hstep hnew
  | case10 found t rest hf hc hbrace ih =>
    have hstep : Step (t :: rest) (.statement [t]) rest :=
      .token (Bool.eq_false_iff.2 hf) (Bool.eq_false_iff.2 hc) hbrace
    have hnew : found.declares (.statement [t]) = false := rfl
    obtain ⟨above, habove, -⟩ := hstep.balanced hb
    exact (ih (hfound.add hnew) habove h).step hstep hnew

/-- The compiler gets through segments that declare no name twice, to what stands behind them. -/
theorem Scans.slice_eq {rest : List Token} {segs : List Segment} (h : Scans ts segs rest)
    (ends : Int) {found : Parts} (hd : Distinct found segs) :
    ∃ found', slice ends found ts = slice ends found' rest := by
  induction h generalizing found with
  | start => exact ⟨found, rfl⟩
  | step hstep _ ih =>
    obtain ⟨hnew, hd⟩ := distinct_cons_iff.1 hd
    rcases slice_step hstep ends found with ⟨hdeclares, -⟩ | ⟨-, hslice⟩
    · cases hdeclares.symm.trans hnew
    · rw [hslice]
      exact ih hd

theorem slice_of_omits (h : FunctionDecl.Omits ts) (ends : Int) (found : Parts) :
    slice ends found ts = .error (.declaration (malformedAt .parameterForm (-1))) := by
  have hread := h.read ends
  cases h with
  | intro hword =>
    rw [slice, if_pos hword]
    split
    · next heq => cases heq.symm.trans hread; rfl
    · next heq => cases heq.symm.trans hread

/-! ### The compiler -/

/-- Brackets that do not pair up are noticed at a token, one still open or one to come. -/
theorem mem_of_imbalanceFrom? {stack : List Token} {i : Imbalance}
    (h : imbalanceFrom? stack ts = some i) : ∃ t ∈ stack ++ ts, imbalanceOffset i = t.offset := by
  fun_induction imbalanceFrom? stack ts with
  | case1 => cases h
  | case2 s stack =>
    cases h
    exact ⟨s, by simp, rfl⟩
  | case3 stack t ts _ ih | case4 stack t ts _ ih =>
    obtain ⟨u, hu, hoffset⟩ := ih h
    exact ⟨u, List.perm_middle.mem_iff.2 hu, hoffset⟩
  | case5 t ts | case7 t ts | case8 t ts | case10 t ts =>
    cases h
    exact ⟨t, by simp, rfl⟩
  | case6 t ts _ s stack _ ih | case9 t ts _ s stack _ ih =>
    obtain ⟨u, hu, hoffset⟩ := ih h
    exact ⟨u, by grind, hoffset⟩
  | case11 stack t ts _ _ _ _ ih =>
    obtain ⟨u, hu, hoffset⟩ := ih h
    exact ⟨u, by grind, hoffset⟩

/-- The first thing wrong with the tokens of a source is a parameter that was left out. -/
structure OmitsParameter (ts : List Token) : Prop where
  lexed : ∀ t ∈ ts, t.kind ≠ .error
  nested : Nested ts
  header : ∃ segs rest, Scans ts segs rest ∧ FunctionDecl.Omits rest ∧
    ((segs.filterMap Segment.function?).map FunctionDecl.name).Nodup ∧
    ((segs.filterMap Segment.class?).map ClassDecl.name).Nodup

/-- A report of the lexer or the parser about a token of a source. -/
structure Locates (source : Bytes) (r : Report) : Prop where
  phase : r.phase = .lexer ∨ r.phase = .parser
  token : ∃ t ∈ Lexer.tokenize source, r.position = Position.ofOffset source t.offset
  line : 1 ≤ r.position.line ∧ r.position.line ≤ source.lineCount
  column : 1 ≤ r.position.column
  excerpt : r.excerpt ≠ []

theorem offset_nonneg (ht : t ∈ Lexer.tokenize source) : 0 ≤ t.offset :=
  ((Lexer.tokenize_covers source).slice List.drop_zero t ht).1

theorem locates_of_mem (ht : t ∈ Lexer.tokenize source) {phase : Phase}
    (hphase : phase = .lexer ∨ phase = .parser) (message : Bytes) (cause : Option Fault) :
    Locates source (Report.located phase message source t.offset cause) := by
  have hoffset := offset_nonneg ht
  have hline := Position.line_ofOffset source hoffset
  refine ⟨hphase, ⟨t, ht, rfl⟩, hline, ?_, ?_⟩
  · show 1 ≤ (Position.ofOffset source t.offset).column
    rw [Position.ofOffset, if_neg (by omega)]
    exact Nat.le_add_left _ _
  · exact Excerpt.around_ne_nil (Lexer.ne_nil_of_mem_tokenize ht) hline.1 hline.2

/-- The three ways in which a source is refused. -/
theorem compile_eq_error_cases {failure : Failure} (h : compile source = .error failure) :
    (∃ t ∈ Lexer.tokenize source, t.kind = .error ∧
        failure = .report (Report.located .lexer t.diagnostic source t.offset)) ∨
      (∃ i, imbalance? (Lexer.tokenize source) = some i ∧ failure =
        .report (Report.located .parser (imbalanceMessage i) source (imbalanceOffset i))) ∨
      ((∀ t ∈ Lexer.tokenize source, t.kind ≠ .error) ∧ Nested (Lexer.tokenize source) ∧
        ∃ c, slice (Token.endOffset (Lexer.tokenize source)) {} (Lexer.tokenize source) =
            .error c ∧ failure = c.failure source) := by
  unfold compile at h
  dsimp only at h
  split at h
  · next t hfind =>
      cases h
      exact .inl ⟨t, List.mem_of_find?_eq_some hfind, by simpa using List.find?_some hfind, rfl⟩
  · next hfind =>
      have hlexed : ∀ t ∈ Lexer.tokenize source, t.kind ≠ .error := by
        simpa using List.find?_eq_none.1 hfind
      split at h
      · next i hbalance =>
          cases h
          exact .inr (.inl ⟨i, hbalance, rfl⟩)
      · next hbalance =>
          split at h
          · next c hslice =>
              cases h
              exact .inr (.inr ⟨hlexed, imbalance?_eq_none_iff.1 hbalance, c, hslice, rfl⟩)
          · cases h

/-- A source whose first flaw is a parameter left out is refused with an error without a place. -/
theorem OmitsParameter.compile (h : OmitsParameter (Lexer.tokenize source)) :
    compile source = .error (.fault (.runtime (malformedAt .parameterForm (-1)))) := by
  obtain ⟨segs, rest, hs, homits, hfunctions, hclasses⟩ := h.header
  have hd : Distinct {} segs := ⟨by simpa using hfunctions, by simpa using hclasses⟩
  obtain ⟨found, hslice⟩ := hs.slice_eq (Token.endOffset (Lexer.tokenize source)) hd
  rw [slice_of_omits homits] at hslice
  have hfind : ((Lexer.tokenize source).find? fun t => t.kind = .error) = none :=
    List.find?_eq_none.2 (by simpa using h.lexed)
  unfold Program.compile
  dsimp only
  rw [hfind]
  dsimp only
  rw [imbalance?_eq_none_iff.2 h.nested]
  dsimp only
  rw [hslice]
  rfl

/-- A complaint about a token is a report about it. -/
theorem Complaint.exists_report {c : Complaint} (ht : t ∈ Lexer.tokenize source)
    (hoffset : c.offset = t.offset) : ∃ r, c.failure source = .report r ∧ Locates source r := by
  have hnonneg := offset_nonneg ht
  cases c with
  | located message offset =>
    cases hoffset
    exact ⟨_, rfl, locates_of_mem ht (.inr rfl) _ _⟩
  | declaration e =>
    have hplace : e.offset = t.offset := hoffset
    rw [failure, if_neg (by omega), hplace]
    exact ⟨_, rfl, locates_of_mem ht (.inr rfl) _ _⟩

/-- The end of a source is at its last token. -/
theorem exists_of_among {offset : Int} (hne : ts ≠ [])
    (h : Token.Among (Token.endOffset ts) ts offset) : ∃ t ∈ ts, offset = t.offset := by
  rcases h with hends | ⟨t, ht, hoffset⟩
  · refine ⟨ts.getLast hne, List.getLast_mem hne, ?_⟩
    rw [hends, Token.endOffset, List.getLast?_eq_some_getLast hne]
    rfl
  · exact ⟨t, ht, hoffset.symm⟩

/-- **Failures to compile are located, unless a parameter is left out.** A source that does not
compile is refused with a report of the lexer or the parser about one of its tokens, which has a
line of the source, a column and an excerpt, and takes the name of a file. The exception is a source
whose first flaw is a function declaration with a parameter left out: there the error of the
declaration has no place, and it is not reported. -/
theorem compile_failure_located {source : Bytes} {failure : Failure}
    (h : compile source = .error failure) :
    (¬ OmitsParameter (Lexer.tokenize source) →
      ∃ r, failure = .report r ∧ Locates source r ∧
        ∀ name, compileFile name source = .error (.report { r with file := name })) ∧
      (OmitsParameter (Lexer.tokenize source) →
        failure = .fault (.runtime (malformedAt .parameterForm (-1)))) := by
  refine ⟨fun homits => ?_, fun homits => ?_⟩
  · obtain ⟨r, rfl, hr⟩ : ∃ r, failure = .report r ∧ Locates source r := by
      rcases compile_eq_error_cases h with ⟨t, ht, -, rfl⟩ | ⟨i, hbalance, rfl⟩ |
        ⟨hlexed, hnested, c, hslice, rfl⟩
      · exact ⟨_, rfl, locates_of_mem ht (.inl rfl) _ _⟩
      · obtain ⟨t, ht, hoffset⟩ := mem_of_imbalanceFrom? hbalance
        rw [hoffset]
        exact ⟨_, rfl, locates_of_mem ht (.inr rfl) _ _⟩
      · have hempty : Distinct {} [] := ⟨List.nodup_nil, List.nodup_nil⟩
        rcases slice_refused hempty (imbalance?_eq_none_iff.2 hnested) hslice with
          hamong | ⟨rfl, segs, rest, hs, hd, hrest⟩
        · have hne : Lexer.tokenize source ≠ [] := by
            intro hnil
            rw [hnil, slice] at hslice
            cases hslice
          obtain ⟨t, ht, hoffset⟩ := exists_of_among hne hamong
          exact Complaint.exists_report ht hoffset
        · exact absurd ⟨hlexed, hnested, segs, rest, hs, hrest, by simpa using hd.functions,
            by simpa using hd.classes⟩ homits
    refine ⟨r, rfl, hr, fun name => ?_⟩
    rw [compileFile, h]
    rfl
  · cases h.symm.trans homits.compile
    rfl

/-- A parameter without a name on the second line of a source is reported there. -/
theorem compile_failure_located_nameless :
    let source := utf8 "x = 1;\nfunction f(number) \x7b \x7d"
    ∃ r, compile source = .error (.report r) ∧ ¬ OmitsParameter (Lexer.tokenize source) ∧
      r.position = ⟨2, 12⟩ ∧ Locates source r := by
  intro source
  have hcompile : compile source = .error (.report (Report.located .parser
      (utf8 "parameter must be declared as `type name`") source 18
      (some (.runtime (malformedAt .parameterForm 18))))) := by decide +kernel
  have hlocated := compile_failure_located hcompile
  have homits : ¬ OmitsParameter (Lexer.tokenize source) := fun h => by cases hlocated.2 h
  obtain ⟨r, hr, hlocates, -⟩ := hlocated.1 homits
  cases hr
  exact ⟨_, hcompile, homits, by decide +kernel, hlocates⟩

/-- A comma where a parameter should be: the source does not compile, and there is no report. -/
theorem compile_comma_unlocated :
    let source := utf8 "function f(,) \x7b \x7d"
    compile source = .error (.fault (.runtime (malformedAt .parameterForm (-1)))) ∧
      ¬ ∃ r, compile source = .error (.report r) := by
  intro source
  have hcompile :
      compile source = .error (.fault (.runtime (malformedAt .parameterForm (-1)))) := by
    decide +kernel
  refine ⟨hcompile, ?_⟩
  rintro ⟨r, hr⟩
  cases hcompile.symm.trans hr

end Program

end Quartz
