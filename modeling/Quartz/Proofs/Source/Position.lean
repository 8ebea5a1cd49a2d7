import Quartz.Proofs.Text.Bytes
import Quartz.Proofs.Text.Utf8
import Quartz.Source.Position

/-!
# `Quartz.Proofs.Source.Position`: offsets and positions

A source is read in two ways: as bytes with offsets, and as lines of characters. `Lies` puts the
two side by side at one offset: whole lines with their line breaks lie before it, then the start of
its own line. On a boundary between characters the number of these lines and the number of
characters in that start are what `Position.ofOffset` gives (`exists_lies`), so the offset can be
computed from the position, and positions are ordered like offsets (`before_iff`).
-/

set_option autoImplicit false

namespace Quartz

variable {o o' : Nat} {source : Bytes} {lines : List Bytes}

namespace Bytes

/-! ### Lines -/

/-- The lines of a text. -/
def lineCount (s : Bytes) : Nat := (splitOn newline s).length

/-- Lines with a line break behind each of them. -/
def unlines (lines : List Bytes) : Bytes := lines.flatMap (· ++ [newline])

theorem unlines_cons (line : Bytes) (lines : List Bytes) :
    unlines (line :: lines) = line ++ newline :: unlines lines := by
  simp [unlines]

theorem unlines_append (lines more : List Bytes) :
    unlines (lines ++ more) = unlines lines ++ unlines more := by
  simp [unlines]

/-- Lines with line breaks are nothing at all, or end with a line break. -/
theorem unlines_cases (lines : List Bytes) :
    unlines lines = [] ∨ ∃ s, unlines lines = s ++ [newline] := by
  rcases List.eq_nil_or_concat lines with rfl | ⟨init, line, rfl⟩
  · exact .inl rfl
  · exact .inr ⟨unlines init ++ line, by simp [unlines]⟩

/-- Every text is lines with line breaks, and a line without one behind them. -/
theorem exists_unlines (s : Bytes) :
    ∃ lines last, s = unlines lines ++ last ∧ (∀ line ∈ lines, newline ∉ line) ∧
      newline ∉ last := by
  induction s with
  | nil => exact ⟨[], [], rfl, by simp, by simp⟩
  | cons b s ih =>
    obtain ⟨lines, last, rfl, hlines, hlast⟩ := ih
    by_cases hb : b = newline
    · subst hb
      exact ⟨[] :: lines, last, by simp [unlines], by simpa using hlines, hlast⟩
    · -- The byte belongs to the line in front, which may be the last one.
      have hb' : newline ≠ b := fun h => hb h.symm
      cases lines with
      | nil => exact ⟨[], b :: last, rfl, by simp, by simp [hb', hlast]⟩
      | cons line lines =>
        rw [List.forall_mem_cons] at hlines
        refine ⟨(b :: line) :: lines, last, by simp [unlines], ?_, hlast⟩
        exact List.forall_mem_cons.2 ⟨by simp [hb', hlines.1], hlines.2⟩

theorem count_unlines (h : ∀ line ∈ lines, newline ∉ line) :
    (unlines lines).count newline = lines.length := by
  induction lines with
  | nil => rfl
  | cons line lines ih =>
    rw [List.forall_mem_cons] at h
    rw [unlines_cons, List.count_append, List.count_eq_zero_of_not_mem h.1, List.count_cons_self,
      ih h.2, List.length_cons, Nat.zero_add]

theorem splitOn_unlines_append (h : ∀ line ∈ lines, newline ∉ line) (rest : Bytes) :
    splitOn newline (unlines lines ++ rest) = lines ++ splitOn newline rest := by
  induction lines with
  | nil => rfl
  | cons line lines ih =>
    rw [List.forall_mem_cons] at h
    rw [unlines_cons, List.append_assoc, List.cons_append, splitOn_append_cons h.1, ih h.2,
      List.cons_append]

end Bytes

namespace Position

open Bytes Rune

/-! ### The line of an offset -/

/-- An offset is on one of the lines of the source. -/
theorem line_ofOffset (source : Bytes) {offset : Int} (h : 0 ≤ offset) :
    1 ≤ (ofOffset source offset).line ∧ (ofOffset source offset).line ≤ source.lineCount := by
  have hcount : (source.take offset.toNat).count Bytes.newline ≤ source.count Bytes.newline :=
    (List.take_sublist _ _).count_le _
  rw [Bytes.lineCount, Bytes.length_splitOn, ofOffset, if_neg (by omega)]
  dsimp only
  omega

theorem ofOffset_natCast (source : Bytes) (o : Nat) :
    ofOffset source o =
      ⟨(source.take o).count newline + 1, (lastLine (source.take o)).runeCount + 1⟩ := by
  rw [ofOffset, if_neg (by omega), Int.toNat_natCast]

theorem lastLine_append {s t : Bytes} (h : newline ∉ t) : lastLine (s ++ t) = lastLine s ++ t := by
  have hkeeps : ∀ b ∈ t.reverse, decide (b ≠ newline) = true := by
    intro b hb
    refine decide_eq_true fun hn => h ?_
    rwa [← hn, ← List.mem_reverse]
  rw [lastLine, List.reverse_append, List.takeWhile_append_of_pos hkeeps, List.reverse_append,
    List.reverse_reverse, lastLine]

theorem lastLine_unlines_append {last : Bytes} (lines : List Bytes) (h : newline ∉ last) :
    lastLine (unlines lines ++ last) = last := by
  have hnil : lastLine (unlines lines) = [] := by
    rcases unlines_cases lines with hlines | ⟨s, hlines⟩
    · rw [hlines]
      rfl
    · simp [hlines, lastLine]
  rw [lastLine_append h, hnil, List.nil_append]

/-- The start of the last line of a well-formed text is well-formed. -/
theorem isUtf8_lastLine {s : Bytes} (h : s.isUtf8 = true) : (lastLine s).isUtf8 = true := by
  obtain ⟨lines, last, rfl, -, hlast⟩ := exists_unlines s
  rw [lastLine_unlines_append lines hlast]
  rcases unlines_cases lines with hlines | ⟨front, hlines⟩
  · rwa [hlines] at h
  · -- The line break in front of the last line is a character of its own.
    rw [hlines, List.append_assoc, List.singleton_append] at h
    exact (isUtf8_of_append_cons (by decide) h).2

/-- The rest of the line at an offset. -/
def onward (source : Bytes) (o : Nat) : Bytes := (source.drop o).takeWhile (· ≠ newline)

/-- The rest of the line goes up to a line break, or to the end. -/
theorem exists_eq_onward_append (source : Bytes) (o : Nat) :
    ∃ rest, source.drop o = onward source o ++ rest ∧ StartsAfresh rest := by
  refine ⟨(source.drop o).dropWhile (· ≠ newline), ?_, ?_⟩
  · rw [onward, List.takeWhile_append_dropWhile]
  · have hhead := List.head?_dropWhile_not (fun b => decide (b ≠ newline)) (source.drop o)
    cases hrest : (source.drop o).dropWhile fun b => decide (b ≠ newline) with
    | nil => trivial
    | cons b rest =>
      rw [hrest] at hhead
      obtain rfl : b = newline := by simpa using hhead
      exact isContinuation_of_lt (by decide)

/-- Where an offset lies: behind whole lines and the start of its own line. Its position counts
the lines, and the characters of that start. -/
structure Lies (source : Bytes) (o : Nat) (lines : List Bytes) (start : Bytes)
    (more : List Bytes) : Prop where
  before : source.take o = unlines lines ++ start
  isUtf8 : start.isUtf8 = true
  split : splitOn newline source = lines ++ (start ++ onward source o) :: more
  position : ofOffset source o = ⟨lines.length + 1, start.runeCount + 1⟩

theorem exists_lies (hs : source.isUtf8 = true) (ho : source.IsBoundary o) :
    ∃ lines start more, Lies source o lines start more := by
  obtain ⟨lines, start, hbefore, hlines, hstart⟩ := exists_unlines (source.take o)
  have hlast : lastLine (source.take o) = start := by
    rw [hbefore, lastLine_unlines_append lines hstart]
  have hcount : (source.take o).count newline = lines.length := by
    rw [hbefore, List.count_append, List.count_eq_zero_of_not_mem hstart, count_unlines hlines]
    rfl
  have hsource : source = unlines lines ++ (start ++ source.drop o) := by
    rw [← List.append_assoc, ← hbefore, List.take_append_drop]
  have hline : (start ++ source.drop o).takeWhile (· ≠ newline) = start ++ onward source o := by
    refine List.takeWhile_append_of_pos fun b hb => decide_eq_true fun hn => ?_
    exact hstart (hn ▸ hb)
  obtain ⟨more, hmore⟩ := exists_splitOn_eq_cons newline (start ++ source.drop o)
  refine ⟨lines, start, more, hbefore, ?_, ?_, ?_⟩
  · rw [← hlast]
    exact isUtf8_lastLine (ho.isUtf8 hs).1
  · rw [← hline, ← hmore, ← splitOn_unlines_append hlines, ← hsource]
  · rw [ofOffset_natCast, hcount, hlast]

/-- The position of an offset gives it back: it is as many bytes as there are in the lines before
and in the characters before the column. -/
theorem Lies.offset {start : Bytes} {more : List Bytes} (h : Lies source o lines start more)
    (ho : o ≤ source.length) :
    (unlines lines).length +
      (((decode (start ++ onward source o)).take start.runeCount).flatMap encode).length = o := by
  have hlength := congrArg List.length h.before
  rw [List.length_take, List.length_append] at hlength
  rw [decode_append h.isUtf8, runeCount, List.take_left, encode_decode]
  omega

/-! ### The order of positions -/

/-- Positions are ordered by line, and on a line by column. -/
def Before (p q : Position) : Prop := p.line < q.line ∨ p.line = q.line ∧ p.column < q.column

theorem not_before_self (p : Position) : ¬ p.Before p := by
  unfold Before
  omega

variable (hs : source.isUtf8 = true) (ho : source.IsBoundary o)
include hs ho

theorem before_of_lt (ho' : o' ≤ source.length) (h : o < o') :
    (ofOffset source o).Before (ofOffset source o') := by
  -- What lies between the offsets is not empty, and it holds a line break or it does not.
  obtain ⟨between, hbetween, htake⟩ : ∃ between, between ≠ [] ∧
      source.take o' = source.take o ++ between := by
    refine ⟨(source.drop o).take (o' - o), ?_, ?_⟩
    · rw [← List.length_pos_iff, List.length_take, List.length_drop]
      omega
    · rw [← List.take_add, Nat.add_sub_cancel' (Nat.le_of_lt h)]
  rw [ofOffset_natCast, ofOffset_natCast, htake, List.count_append]
  by_cases hbreak : newline ∈ between
  · left
    have hcount := List.count_pos_iff.2 hbreak
    dsimp only
    omega
  · right
    have hstart := isUtf8_lastLine (ho.isUtf8 hs).1
    rw [List.count_eq_zero_of_not_mem hbreak, lastLine_append hbreak]
    refine ⟨rfl, ?_⟩
    have hrunes := List.length_pos_iff.2 (decode_ne_nil hbetween)
    dsimp only
    rw [runeCount, runeCount, decode_append hstart, List.length_append]
    omega

/-- On boundaries, no two offsets have the same position. -/
theorem ofOffset_inj (ho' : source.IsBoundary o') (h : ofOffset source o = ofOffset source o') :
    o = o' := by
  rcases Nat.lt_trichotomy o o' with hlt | heq | hlt
  · have hbefore := before_of_lt hs ho ho'.le hlt
    rw [h] at hbefore
    exact absurd hbefore (not_before_self _)
  · exact heq
  · have hbefore := before_of_lt hs ho' ho.le hlt
    rw [h] at hbefore
    exact absurd hbefore (not_before_self _)

/-- On boundaries, positions are ordered like offsets. -/
theorem before_iff (ho' : source.IsBoundary o') :
    (ofOffset source o).Before (ofOffset source o') ↔ o < o' := by
  refine ⟨fun h => Nat.lt_of_not_le fun hle => ?_, before_of_lt hs ho ho'.le⟩
  rcases Nat.lt_or_eq_of_le hle with hlt | rfl
  · have hafter := before_of_lt hs ho' ho.le hlt
    unfold Before at h hafter
    omega
  · exact not_before_self _ h

end Position

end Quartz
