import Quartz.Proofs.Source.Position
import Quartz.Proofs.Token.Longest

/-!
# `Quartz.Proofs.Token.Character`: tokens are made of whole characters

The lexer reads bytes and knows of no characters. It cuts a source nevertheless only between two of
them, if the source is well-formed. A byte beyond ASCII belongs to a word, a string or a comment,
and these end next to an ASCII byte: a word in front of one, a string and a comment behind one. All
other tokens are ASCII. So gaps and literals are cut off as whole characters (`Blank.isUtf8`,
`Lexes.isUtf8`), one after the other (`Lexed.exists_cut`).
-/

set_option autoImplicit false

namespace Quartz

namespace Lexer

open Bytes Rune

/-! ### ASCII bytes -/

/-- Every byte beyond ASCII may stand in a word. -/
theorem lt_of_isWord_eq_false {b : UInt8} (h : isWord b = false) : b < 0x80 := by
  simp only [isWord, isLetter, Bool.or_eq_false_iff, decide_eq_false_iff_not] at h
  exact UInt8.not_le.1 h.1.2

theorem lt_of_isSpace {b : UInt8} (h : isSpace b = true) : b < 0x80 :=
  lt_of_isWord_eq_false (blank_halts h).1

theorem startsAfresh_of_halts {s : Bytes} (h : Halts isWord s) : s.StartsAfresh := by
  cases s with
  | nil => trivial
  | cons b s => exact isContinuation_of_lt (lt_of_isWord_eq_false h)

theorem Digits.lt {ds : Bytes} (h : Digits ds) : ∀ d ∈ ds, d < 0x80 :=
  fun d hd => lt_of_isDigit (h.all d hd)

/-! ### Gaps and literals -/

theorem Blank.isUtf8 {gap s : Bytes} (h : Blank false gap) (hs : (gap ++ s).isUtf8 = true) :
    gap.isUtf8 = true ∧ s.isUtf8 = true := by
  rcases h.eq_append_singleton with rfl | ⟨start, c, rfl, hc⟩
  · exact ⟨isUtf8_nil, hs⟩
  · rw [List.append_assoc, List.singleton_append] at hs
    obtain ⟨hstart, hrest⟩ := isUtf8_of_append_cons (lt_of_isSpace hc) hs
    have hlast := isUtf8_ascii (List.forall_mem_singleton.2 (lt_of_isSpace hc))
    exact ⟨isUtf8_append hstart hlast, hrest⟩

/-- A literal is cut off between characters. -/
theorem Lexes.isUtf8 {kind : Kind} {literal rest : Bytes} (h : Lexes kind literal rest)
    (hs : (literal ++ rest).isUtf8 = true) : literal.isUtf8 = true ∧ rest.isUtf8 = true := by
  -- Behind a well-formed literal the text is well-formed if it is so as a whole.
  have hbehind : literal.isUtf8 = true → literal.isUtf8 = true ∧ rest.isUtf8 = true :=
    fun hliteral => ⟨hliteral, (isUtf8_append_iff hliteral).1 hs⟩
  have hpoint : byte '.' < 0x80 := by decide
  cases h with
  | word _ hrest => exact isUtf8_of_append hs (startsAfresh_of_halts hrest)
  | whole hd _ _ => exact hbehind (isUtf8_ascii hd.lt)
  | fraction hd hf _ =>
    refine hbehind (isUtf8_ascii (List.forall_mem_append.2 ⟨hd.lt, ?_⟩))
    exact List.forall_mem_cons.2 ⟨hpoint, hf.lt⟩
  | @string s rest hs' =>
    rw [← List.cons_append, List.append_assoc, List.singleton_append] at hs
    obtain ⟨hopen, hrest⟩ := isUtf8_of_append_cons (by decide) hs
    have hquote : ∀ b ∈ [byte '"'], b < 0x80 := List.forall_mem_singleton.2 (by decide)
    exact ⟨isUtf8_append hopen (isUtf8_ascii hquote), hrest⟩
  | pair h => exact hbehind (isUtf8_iff.2 ⟨_, h.2⟩)
  | single h => exact hbehind (isUtf8_iff.2 ⟨_, h.2⟩)
  | stray hb =>
    refine hbehind (isUtf8_ascii fun c hc => ?_)
    rw [List.mem_singleton.1 hc]
    exact lt_of_isWord_eq_false hb.word
  | unclosed =>
    rw [List.append_nil] at hs
    exact ⟨hs, isUtf8_nil⟩

/-- A token and what lies before and behind it, all made of whole characters. -/
structure Cut (source : Bytes) (t : Token) (before rest : Bytes) : Prop where
  text : source = before ++ (t.literal ++ rest)
  offset : t.offset = (before.length : Nat)
  before : before.isUtf8 = true
  literal : t.literal.isUtf8 = true
  rest : rest.isUtf8 = true

/-- Every token of a well-formed source is cut out between characters. -/
theorem Lexed.exists_cut {source before s : Bytes} {pos : Nat} {ts : List Token}
    (h : Lexed pos s ts) (htext : source = before ++ s) (hpos : before.length = pos)
    (hbefore : before.isUtf8 = true) (hs : s.isUtf8 = true) {t : Token} (ht : t ∈ ts) :
    ∃ before rest, Cut source t before rest := by
  -- Along the tokens. What was read so far, and what is left, stay well-formed.
  induction h generalizing before with
  | done => cases ht
  | @token pos gap literal rest kind ts hgap hlexes _ ih =>
    obtain ⟨hgap', hs⟩ := hgap.isUtf8 hs
    obtain ⟨hliteral, hrest⟩ := hlexes.isUtf8 hs
    have hfront := isUtf8_append hbefore hgap'
    have htext' : source = before ++ gap ++ (literal ++ rest) := by rw [htext, List.append_assoc]
    have hlength : (before ++ gap).length = pos + gap.length := by rw [List.length_append, hpos]
    rcases List.mem_cons.1 ht with rfl | ht
    · exact ⟨before ++ gap, rest, htext', by rw [hlength], hfront, hliteral, hrest⟩
    · exact @ih (before ++ gap ++ literal) (by rw [htext', List.append_assoc (before ++ gap)])
        (by rw [List.length_append, hlength]) (isUtf8_append hfront hliteral) hrest ht

/-! ### Tokens of a source -/

/-- **The lexer never splits a character.** Let a source be well-formed. Then every token starts and
ends between two characters, its literal is well-formed, and if it has only one byte, as most errors
have, that is an ASCII byte. The column of a token is one more than the number of characters before
it on its line, and these are whole. -/
theorem tokenize_whole_characters {source : Bytes} (hs : source.isUtf8 = true) {t : Token}
    (ht : t ∈ tokenize source) :
    (∃ o : Nat, t.offset = o ∧ source.IsBoundary o ∧ source.IsBoundary (o + t.literal.length)) ∧
      t.literal.isUtf8 = true ∧
      (∀ b, t.literal = [b] → b < 0x80) ∧
      ∃ text : String, Position.lastLine (source.take t.offset.toNat) = utf8 text ∧
        (Position.ofOffset source t.offset).column = text.length + 1 := by
  have hlexed : Lexed 0 source (tokenize source) := tokenize_eq_iff.1 rfl
  obtain ⟨before, rest, hcut⟩ := hlexed.exists_cut (List.nil_append _).symm rfl isUtf8_nil hs ht
  have hliteral := hcut.literal
  refine ⟨⟨before.length, hcut.offset, ?_, ?_⟩, hliteral, fun b hb => ?_, ?_⟩
  · rw [hcut.text]
    exact isBoundary_of_append (isUtf8_append hliteral hcut.rest)
  · rw [hcut.text, ← List.append_assoc, ← List.length_append]
    exact isBoundary_of_append hcut.rest
  · rw [hb] at hliteral
    exact lt_of_isUtf8_singleton hliteral
  · have hbefore : source.take before.length = before := by rw [hcut.text, List.take_left]
    obtain ⟨text, htext⟩ := isUtf8_iff.1 (Position.isUtf8_lastLine hcut.before)
    refine ⟨text, ?_, ?_⟩
    · rw [hcut.offset, Int.toNat_natCast, hbefore, htext]
    · rw [hcut.offset, Position.ofOffset_natCast, hbefore]
      dsimp only
      rw [htext, runeCount_utf8]

/-- A letter of two bytes behind a backslash, in a string that is never closed. -/
theorem tokenize_whole_characters_escape :
    let source := utf8 "§\n ü1 \"\\ß"
    let t : Token := ⟨.error, utf8 "\"\\ß", 8⟩
    source.isUtf8 = true ∧ t ∈ tokenize source ∧ t.literal.isUtf8 = true ∧
      source.IsBoundary 8 ∧ source.IsBoundary 12 ∧ (Position.ofOffset source 8).column = 5 := by
  intro source t
  have hs : source.isUtf8 = true := isUtf8_iff.2 ⟨_, rfl⟩
  have ht : t ∈ tokenize source := by decide +kernel
  obtain ⟨⟨o, ho, hstart, hend⟩, hliteral, -⟩ := tokenize_whole_characters hs ht
  obtain rfl : 8 = o := Int.ofNat.inj ho
  exact ⟨hs, ht, hliteral, hstart, hend, by decide +kernel⟩

end Lexer

end Quartz
