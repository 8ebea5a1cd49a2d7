import Quartz.Prompt
import Quartz.Proofs.Text.Bytes

/-!
# `Quartz.Proofs.Prompt.Stream`: the prompt cuts its lines into minimal inputs

`Reads` says what a single call takes off the front of the lines and what it hands over. It takes
lines as long as their text is incomplete, up to the first line that completes it, to an interrupt,
or to the end. `Cuts` lays calls side by side, so that what they take makes up the lines.

The rules leave no choice. A call that takes its lines by them is the one that is made
(`readInput_of_reads`), and there is one for every list of lines (`exists_reads`). So the calls that
are made are those that cut the lines (`inputs_eq_iff_cuts`).

Whether a call has read a line before is told from the text that is pending, and not from a count.
The two agree because the empty text is complete: a pending text is never empty.
-/

set_option autoImplicit false

namespace Quartz

variable {before held lines : List Bytes}

namespace Prompt

open Bytes

/-! ### Calls -/

/-- What is seen of a call: the text it hands over, whether there may be more to read, and the
prompts it shows. -/
structure Call where
  text : Bytes
  more : Bool
  prompts : List Bytes

/-- What is seen of an answer. -/
def Answer.call (a : Answer) : Call := ⟨a.input.result.1, a.input.result.2, a.prompts⟩

/-- The text of several lines. -/
def lineText (lines : List Bytes) : Bytes := join [newline] lines

/-- The prompt for a line, by the number of lines that were read before. -/
def promptFor (n : Nat) : Bytes := if n = 0 then first else further

/-- The prompts of a call that asks for a number of lines. -/
def asked (n : Nat) : List Bytes := (List.range n).map promptFor

/-- Of the lines, all that are fewer than a number are incomplete. -/
def Held (lines : List Bytes) (n : Nat) : Prop :=
  ∀ j, 0 < j → j < n → incomplete (lineText (lines.take j)) = true

/-- The lines that a call takes, and what is seen of it. A text is complete with its last line and
not before. An interrupt discards the lines before it, and so does the end of the lines. -/
inductive Reads : List Line → Call → Prop
  | text {lines : List Bytes} (hne : lines ≠ []) (hheld : Held lines lines.length)
      (hdone : incomplete (lineText lines) = false) :
      Reads (lines.map .text) ⟨lineText lines, true, asked lines.length⟩
  | aborted {lines : List Bytes} (hheld : Held lines (lines.length + 1)) :
      Reads (lines.map .text ++ [.interrupt]) ⟨[], true, asked (lines.length + 1)⟩
  | ended {lines : List Bytes} (hheld : Held lines (lines.length + 1)) :
      Reads (lines.map .text) ⟨[], false, asked (lines.length + 1)⟩

/-- Calls that take lines one after the other, until one meets the end. -/
inductive Cuts : List Line → List Call → Prop
  | last {taken : List Line} {c : Call} (h : Reads taken c) (hend : c.more = false) :
      Cuts taken [c]
  | next {taken rest : List Line} {c : Call} {calls : List Call} (h : Reads taken c)
      (hmore : c.more = true) (hrest : Cuts rest calls) : Cuts (taken ++ rest) (c :: calls)

/-! ### One call -/

theorem held_nil : Held [] 1 := by
  intro j hpos hj
  omega

/-- What is held back does not depend on later lines. -/
theorem held_append_iff {n : Nat} (hn : n ≤ before.length + 1) :
    Held (before ++ held) n ↔ Held before n := by
  refine forall_congr' fun j => imp_congr_right fun _ => imp_congr_right fun hj => ?_
  rw [List.take_append_of_le_length (by omega)]

theorem Held.left (h : Held (before ++ held) ((before ++ held).length + 1)) :
    Held before (before.length + 1) := by
  rw [← held_append_iff (Nat.le_refl _)]
  intro j hpos hj
  exact h j hpos (by rw [List.length_append]; omega)

/-- Lines are held back if the ones before the last are, and if all of them are incomplete. -/
theorem held_concat_iff {line : Bytes} :
    Held (lines ++ [line]) ((lines ++ [line]).length + 1) ↔
      Held lines (lines.length + 1) ∧ incomplete (lineText (lines ++ [line])) = true := by
  constructor
  · intro h
    have hall := h (lines ++ [line]).length (by simp) (Nat.lt_succ_self _)
    rw [List.take_length] at hall
    exact ⟨h.left, hall⟩
  · rintro ⟨h, hall⟩ j hpos hj
    rcases Nat.lt_or_eq_of_le (Nat.le_of_lt_succ hj) with hj | rfl
    · exact (held_append_iff (Nat.le_refl _)).2 h j hpos (by simpa using hj)
    · rwa [List.take_length]

/-- The empty text is complete. -/
theorem incomplete_nil : incomplete [] = false := by decide +kernel

/-- Lines that are held back have a text. -/
theorem lineText_eq_nil_iff (h : Held lines (lines.length + 1)) :
    lineText lines = [] ↔ lines = [] := by
  constructor
  · intro hnil
    cases lines with
    | nil => rfl
    | cons line lines =>
      have hall := h (line :: lines).length (by simp) (Nat.lt_succ_self _)
      rw [List.take_length, hnil, incomplete_nil] at hall
      cases hall
  · rintro rfl
    rfl

theorem asking_lineText (h : Held lines (lines.length + 1)) :
    readFrom.asking (lineText lines) = promptFor lines.length := by
  rw [readFrom.asking, promptFor]
  simp only [lineText_eq_nil_iff h, List.length_eq_zero_iff]

theorem joined_lineText (h : Held lines (lines.length + 1)) (line : Bytes) :
    joined (lineText lines) line = lineText (lines ++ [line]) := by
  rw [joined]
  split
  · next hnil =>
      rw [(lineText_eq_nil_iff h).1 hnil]
      rfl
  · next hne =>
      have hlines : lines ≠ [] := fun h' => hne ((lineText_eq_nil_iff h).2 h')
      rw [lineText, lineText, join_concat _ hlines, List.append_assoc, List.singleton_append]

/-- While lines are held back, a call reads on. -/
theorem readFrom_held (h : Held (before ++ held) ((before ++ held).length + 1)) (rest : List Line) :
    readFrom (lineText before) (held.map .text ++ rest) =
      { readFrom (lineText (before ++ held)) rest with
        prompts := (List.range' before.length held.length).map promptFor ++
          (readFrom (lineText (before ++ held)) rest).prompts } := by
  induction held generalizing before with
  | nil => simp
  | cons line held ih =>
    have hassoc : before ++ line :: held = before ++ [line] ++ held := by simp
    rw [hassoc] at h ⊢
    obtain ⟨hbefore, hmore⟩ := held_concat_iff.1 h.left
    rw [List.map_cons, List.cons_append, readFrom, joined_lineText hbefore, if_pos hmore, ih h,
      asking_lineText hbefore]
    simp [List.range'_succ]

theorem asked_succ (n : Nat) :
    asked (n + 1) = (List.range' 0 n).map promptFor ++ [promptFor n] := by
  rw [asked, List.range_succ, List.map_append, List.range_eq_range']
  rfl

theorem readInput_held (h : Held held (held.length + 1)) (rest : List Line) :
    readInput (held.map .text ++ rest) =
      { readFrom (lineText held) rest with
        prompts := (List.range' 0 held.length).map promptFor ++
          (readFrom (lineText held) rest).prompts } :=
  @readFrom_held [] held h rest

/-- A call that takes its lines by the rules is the one that is made. -/
theorem readInput_of_reads {taken rest : List Line} {c : Call} (h : Reads taken c)
    (hrest : c.more = false → rest = []) :
    (readInput (taken ++ rest)).call = c ∧ (readInput (taken ++ rest)).rest = rest := by
  cases h with
  | @text lines hne hheld hdone =>
    obtain ⟨held, last, rfl⟩ : ∃ held last, lines = held ++ [last] :=
      ⟨_, _, (List.dropLast_concat_getLast hne).symm⟩
    rw [List.length_append, List.length_singleton] at hheld ⊢
    have hheld' := (held_append_iff (Nat.le_refl _)).1 hheld
    rw [List.map_append, List.append_assoc, readInput_held hheld', List.map_singleton,
      List.singleton_append, readFrom, joined_lineText hheld', if_neg (by simp [hdone]),
      asking_lineText hheld', asked_succ]
    exact ⟨rfl, rfl⟩
  | @aborted lines hheld =>
    rw [List.append_assoc, readInput_held hheld, List.singleton_append, readFrom,
      asking_lineText hheld, asked_succ]
    exact ⟨rfl, rfl⟩
  | @ended lines hheld =>
    obtain rfl := hrest rfl
    rw [readInput_held hheld, readFrom, asking_lineText hheld, asked_succ]
    exact ⟨rfl, rfl⟩

/-- Every list of lines starts with a call. -/
theorem exists_reads (h : Held before (before.length + 1)) (lines : List Line) :
    ∃ taken rest c, before.map .text ++ lines = taken ++ rest ∧ Reads taken c ∧
      (c.more = false → rest = []) ∧ (c.more = true → taken ≠ []) := by
  induction lines generalizing before with
  | nil =>
    refine ⟨before.map .text, [], _, rfl, .ended h, fun _ => rfl, fun hmore => ?_⟩
    cases hmore
  | cons line lines ih =>
    cases line with
    | interrupt =>
      refine ⟨before.map .text ++ [.interrupt], lines, _, ?_, .aborted h, fun hmore => ?_, ?_⟩
      · simp
      · cases hmore
      · simp
    | text line =>
      have hassoc : before.map Line.text ++ .text line :: lines =
          (before ++ [line]).map .text ++ lines := by simp
      rw [hassoc]
      cases hmore : incomplete (lineText (before ++ [line])) with
      | true => exact ih (held_concat_iff.2 ⟨h, hmore⟩)
      | false =>
        have hheld : Held (before ++ [line]) (before ++ [line]).length := by
          rw [List.length_append, List.length_singleton]
          exact (held_append_iff (Nat.le_refl _)).2 h
        refine ⟨_, lines, _, rfl, .text (by simp) hheld hmore, fun hend => ?_, ?_⟩
        · cases hend
        · simp

/-! ### All calls -/

theorem exists_cuts (lines : List Line) : ∃ calls, Cuts lines calls := by
  induction hlen : lines.length using Nat.strongRecOn generalizing lines with
  | _ n ih =>
    obtain ⟨taken, rest, c, hsplit, hreads, hend, hne⟩ := exists_reads held_nil lines
    rw [List.map_nil, List.nil_append] at hsplit
    subst hsplit
    cases hmore : c.more with
    | false =>
      rw [hend hmore, List.append_nil]
      exact ⟨[c], .last hreads hmore⟩
    | true =>
      have htaken := List.length_pos_iff.2 (hne hmore)
      rw [List.length_append] at hlen
      obtain ⟨calls, hcalls⟩ := ih rest.length (by omega) rest rfl
      exact ⟨c :: calls, .next hreads hmore hcalls⟩

theorem input_eq_ended_iff (a : Answer) : a.input = .ended ↔ a.call.more = false := by
  unfold Answer.call Input.result
  cases a.input <;> simp

/-- Calls that cut the lines are those that are made. -/
theorem calls_of_cuts {lines : List Line} {calls : List Call} (h : Cuts lines calls) :
    (inputs lines).map Answer.call = calls := by
  induction h with
  | @last taken c h hend =>
    obtain ⟨hcall, -⟩ := readInput_of_reads h fun _ => rfl
    rw [List.append_nil] at hcall
    have hended := (input_eq_ended_iff (readInput taken)).2 (by rw [hcall, hend])
    rw [inputs]
    dsimp only
    rw [dif_pos hended, List.map_singleton, hcall]
  | @next taken rest c calls h hmore _ ih =>
    obtain ⟨hcall, hrest⟩ := @readInput_of_reads taken rest c h (by simp [hmore])
    have hended : (readInput (taken ++ rest)).input ≠ .ended := by
      rw [ne_eq, input_eq_ended_iff, hcall, hmore]
      simp
    rw [inputs]
    dsimp only
    rw [dif_neg hended, List.map_cons, hcall, hrest, ih]

/-- **The prompt cuts its lines into minimal complete inputs.** The calls that read all inputs from
a list of lines are those that take the lines one after the other by the rules: a text is handed
over with the first line that completes it, an interrupt discards the lines of its own call only,
and the last call meets the end. Each call asks for its first line with the main prompt and for all
others with the other one. -/
theorem inputs_eq_iff_cuts (lines : List Line) (calls : List Call) :
    ((inputs lines).map Answer.call = calls ↔ Cuts lines calls) ∧
      ∀ n, (promptFor n = first ↔ n = 0) ∧ (promptFor n = further ↔ n ≠ 0) := by
  refine ⟨⟨?_, calls_of_cuts⟩, fun n => ?_⟩
  · rintro rfl
    obtain ⟨calls, hcalls⟩ := exists_cuts lines
    rwa [calls_of_cuts hcalls]
  · have hdiffer : first ≠ further := by decide
    unfold promptFor
    by_cases hn : n = 0 <;> simp [hn, hdiffer, hdiffer.symm]

/-- A call that is aborted within brackets, an empty line, and a call over two lines. -/
example : (inputs [.text (utf8 "f("), .interrupt, .text [], .text (utf8 "("), .text (utf8 ")")]).map
    (fun a => (a.input.result, a.prompts.length)) =
      [(([], true), 2), (([], true), 1), ((utf8 "(\n)", true), 2), (([], false), 1)] := by
  decide +kernel

end Prompt

end Quartz
