import Quartz.Prompt
import Quartz.Proofs.Program.Compile

/-!
# `Quartz.Proofs.Prompt`: the prompt waits for what the compiler finds unclosed

The prompt decides with a single count over both kinds of brackets whether more lines belong to
an input. The compiler keeps a stack, and stops at the first bracket that does not fit. The two
differ only where a closing bracket comes unexpected, and such a source does not compile anyway
(`incomplete_iff`). So what is held back never compiles (`compile_of_incomplete`), and what the
compiler rejects for a bracket left open at its end is held back (`incomplete_of_leftOpen`).

That a bracket was left open shows in the wording of a failure. `slice_not_unclosed` therefore
goes through all that is said about the declarations of a source.
-/

set_option autoImplicit false

namespace Quartz

namespace Program

/-! ### The wording of complaints -/

/-- The wording of a complaint. -/
def Complaint.message : Complaint → Bytes
  | .located message _ => message
  | .declaration e => e.cause.message

theorem Complaint.message_of_failure {source : Bytes} {c : Complaint} {r : Report}
    (h : c.failure source = .report r) : r.message = c.message := by
  cases c with
  | located message offset =>
    cases h
    rfl
  | declaration e =>
    rw [failure] at h
    split at h
    · cases h
    · cases h
      rfl

/-- The words that say of a bracket that it is left open. -/
def unclosedWords : Bytes := utf8 "unclosed "

/-- A text that differs from these words within its first part does not start with them. -/
theorem not_unclosed_append {start : Bytes} (h : ¬ unclosedWords <+: start)
    (h' : ¬ start <+: unclosedWords) (rest : Bytes) : ¬ unclosedWords <+: start ++ rest := by
  intro hwords
  exact (List.prefix_or_prefix_of_prefix hwords (List.prefix_append start rest)).elim h h'

theorem form_not_unclosed : ∀ form ∈ FunctionDecl.forms, ¬ unclosedWords <+: form.message := by
  decide

theorem readClass_not_unclosed {offset : Int} {ts : List Token} {c : Complaint}
    (h : readClass offset ts = .error c) : ¬ unclosedWords <+: c.message := by
  have hname : ¬ unclosedWords <+: utf8 "expected class name after crystal" := by decide
  unfold readClass at h
  split at h
  · next name rest =>
      split at h
      · split at h
        · cases h
        · cases h
          exact not_unclosed_append (by decide) (by decide) name.literal
      · cases h
        exact hname
  · cases h
    exact hname

/-- Nothing that is said about the declarations of a source starts with these words. -/
theorem slice_not_unclosed {ends : Int} {found : Parts} {ts : List Token} {c : Complaint}
    (h : slice ends found ts = .error c) : ¬ unclosedWords <+: c.message := by
  fun_induction slice ends found ts with
  | case1 => cases h
  | case2 found t rest _ e hread =>
    cases h
    obtain ⟨form, hform, hcause⟩ := (FunctionDecl.complains_of_read hread).form
    rw [Complaint.message, hcause]
    exact form_not_unclosed form hform
  | case3 found t rest _ d after =>
    cases h
    rw [Complaint.message, List.append_assoc]
    exact not_unclosed_append (by decide) (by decide) _
  | case4 found t rest _ d after _ _ _ ih =>
    exact ih h
  | case5 found t rest _ _ e hread =>
    cases h
    exact readClass_not_unclosed hread
  | case6 found t rest _ _ d after =>
    cases h
    rw [Complaint.message, List.append_assoc]
    exact not_unclosed_append (by decide) (by decide) _
  | case7 found t rest _ _ d after _ _ _ ih =>
    exact ih h
  | case8 found t rest _ _ _ _ ih => exact ih h
  | case9 found t rest _ _ _ inner after _ _ block ih => exact ih h
  | case10 found t rest _ _ _ ih => exact ih h

/-! ### Brackets left open -/

/-- Whether the compiler rejects a source for a bracket that is open at its end. -/
def leftOpen (source : Bytes) : Bool :=
  match compile source with
  | .error (.report r) => r.phase = .parser && unclosedWords.isPrefixOf r.message
  | _ => false

theorem imbalance_of_leftOpen {source : Bytes} (h : leftOpen source = true) :
    ∃ t, Bracket.imbalance? (Lexer.tokenize source) = some (.unclosed t) := by
  obtain ⟨r, hcompile, hphase, hwords⟩ : ∃ r, compile source = .error (.report r) ∧
      r.phase = .parser ∧ unclosedWords <+: r.message := by
    unfold leftOpen at h
    split at h
    · next r hcompile => exact ⟨r, hcompile, by simpa using h⟩
    · cases h
  unfold compile at hcompile
  dsimp only at hcompile
  split at hcompile
  -- An error token is reported by an earlier phase.
  · cases hcompile
    cases hphase
  · split at hcompile
    · next i hi =>
        cases i with
        | unclosed u => exact ⟨u, hi⟩
        | unexpected u =>
          cases hcompile
          exact absurd hwords (not_unclosed_append (by decide) (by decide) u.literal)
    · split at hcompile
      · next c hslice =>
          have hfailure := Except.error.inj hcompile
          rw [Complaint.message_of_failure hfailure] at hwords
          exact absurd hwords (slice_not_unclosed hslice)
      · cases hcompile

end Program

namespace Prompt

open Program

/-! ### The test of the prompt -/

theorem incomplete_iff {source : Bytes}
    (h : ∀ u, Bracket.imbalance? (Lexer.tokenize source) ≠ some (.unexpected u)) :
    incomplete source = true ↔ Bracket.imbalance? (Lexer.tokenize source) ≠ none := by
  obtain ⟨hnonneg, hzero⟩ := Bracket.openCount_of_expected h
  simp only [List.length_nil, Int.natCast_zero, Int.zero_add] at hnonneg hzero
  rw [incomplete, decide_eq_true_iff, ne_eq, Bracket.imbalance?, hzero]
  omega

theorem compile_of_incomplete {source : Bytes} (h : incomplete source = true) :
    ∃ f, compile source = .error f := by
  cases hcompile : compile source with
  | error f => exact ⟨f, rfl⟩
  | ok p =>
    have hbalanced := Bracket.imbalance?_eq_none_iff.2 (compile_eq_ok_iff.1 hcompile).2.1
    exact absurd hbalanced ((incomplete_iff (by simp [hbalanced])).1 h)

theorem incomplete_of_leftOpen {source : Bytes} (h : leftOpen source = true) :
    incomplete source = true := by
  obtain ⟨t, ht⟩ := imbalance_of_leftOpen h
  exact (incomplete_iff (by simp [ht])).2 (by simp [ht])

/-! ### Reading an input -/

/-- The text of several lines. -/
def whole (lines : List Bytes) : Bytes := lines.foldl joined []

/-- What an answer takes off the front of lines, if others were read before: lines that are held
back, and behind them the last line of its text, an interrupt, or nothing. -/
def Answer.Takes (a : Answer) (before held : List Bytes) (lines : List Line) : Prop :=
  match a.input with
  | .text s => ∃ last, lines = held.map .text ++ .text last :: a.rest ∧
      s = whole (before ++ held ++ [last])
  | .aborted => lines = held.map .text ++ .interrupt :: a.rest
  | .ended => lines = held.map .text ∧ a.rest = []

/-- A line that is held back belongs to the text of the answer that is found behind it. -/
theorem Answer.Takes.cons {a : Answer} {before held : List Bytes} {line : Bytes}
    {lines : List Line} (h : a.Takes (before ++ [line]) held lines) (prompts : List Bytes) :
    { a with prompts }.Takes before (line :: held) (.text line :: lines) := by
  unfold Takes at h ⊢
  cases hinput : a.input with
  | text s =>
    simp only [hinput] at h ⊢
    obtain ⟨last, rfl, rfl⟩ := h
    exact ⟨last, rfl, by simp⟩
  | aborted =>
    simp only [hinput] at h ⊢
    rw [h, List.map_cons, List.cons_append]
  | ended =>
    simp only [hinput] at h ⊢
    exact ⟨by rw [h.1, List.map_cons], h.2⟩

/-- What is read is made of lines that were held back and of what ends them. The count decides
about each line: it holds back the text so far, or hands it over. -/
theorem readFrom_takes (before : List Bytes) (lines : List Line) :
    ∃ held, (readFrom (whole before) lines).prompts.length = held.length + 1 ∧
      (readFrom (whole before) lines).Takes before held lines ∧
      (∀ k, 0 < k → k ≤ held.length → incomplete (whole (before ++ held.take k)) = true) ∧
      ∀ s, (readFrom (whole before) lines).input = .text s → incomplete s = false := by
  induction lines generalizing before with
  | nil => exact ⟨[], rfl, ⟨rfl, rfl⟩, by simp; omega, by simp [readFrom]⟩
  | cons line rest ih =>
    cases line with
    | interrupt => exact ⟨[], rfl, rfl, by simp; omega, by simp [readFrom]⟩
    | text line =>
      have hjoined : joined (whole before) line = whole (before ++ [line]) := by simp [whole]
      rw [readFrom, hjoined]
      dsimp only
      split
      · next hmore =>
          -- The line is held back, in front of all that is held back after it.
          obtain ⟨held, hprompts, htakes, hheld, hinput⟩ := ih (before ++ [line])
          refine ⟨line :: held, by simp [hprompts], ?_, fun k hpos hk => ?_, hinput⟩
          · exact htakes.cons _
          · cases k with
            | zero => omega
            | succ k =>
              cases k with
              | zero => simpa using hmore
              | succ k =>
                have := hheld (k + 1) (by omega) (by simpa using hk)
                simpa using this
      · next hdone =>
          refine ⟨[], rfl, ⟨line, by simp, by simp⟩, by simp; omega, fun s hs => ?_⟩
          cases hs
          simpa using hdone

/-- **The prompt agrees with the compiler.** A text for which the prompt waits does not compile,
and for a text that the compiler rejects as left open it waits. So every text that was held back
while an input was read fails to compile, and the text handed over is not left open. -/
theorem prompt_agrees_with_compile (source : Bytes) (lines : List Line) :
    (incomplete source = true → ∃ f, compile source = .error f) ∧
      (leftOpen source = true → incomplete source = true) ∧
      ∃ held, (readInput lines).prompts.length = held.length + 1 ∧
        (readInput lines).Takes [] held lines ∧
        (∀ k, 0 < k → k ≤ held.length → ∃ f, compile (whole (held.take k)) = .error f) ∧
        ∀ s, (readInput lines).input = .text s → leftOpen s = false := by
  refine ⟨compile_of_incomplete, incomplete_of_leftOpen, ?_⟩
  obtain ⟨held, hprompts, htakes, hheld, hinput⟩ := readFrom_takes [] lines
  refine ⟨held, hprompts, htakes, fun k hpos hk => ?_, fun s hs => ?_⟩
  · exact compile_of_incomplete (hheld k hpos hk)
  · have hopen := mt (@incomplete_of_leftOpen s)
    simpa [hinput s hs] using hopen

/-- A call over three lines. The first two are held back, and only the last one makes a text
that compiles. -/
theorem prompt_agrees_with_compile_call :
    let lines := [Line.text (utf8 "f("), .text (utf8 "1"), .text (utf8 ");")]
    (leftOpen (utf8 "f(") = true ∧ incomplete (utf8 "f(") = true) ∧
      (readInput lines).prompts = [first, further, further] ∧
      (∃ f, compile (utf8 "f(") = .error f) ∧ ∃ held, (readInput lines).Takes [] held lines := by
  have hopen : leftOpen (utf8 "f(") = true := by decide +kernel
  obtain ⟨hwaits, hopens, held, -, htakes, -⟩ := prompt_agrees_with_compile (utf8 "f(")
    [.text (utf8 "f("), .text (utf8 "1"), .text (utf8 ");")]
  exact ⟨⟨hopen, hopens hopen⟩, by decide +kernel, hwaits (hopens hopen), held, htakes⟩

end Prompt

end Quartz
