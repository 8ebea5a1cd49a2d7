import Quartz.Proofs.Token.Longest
import Quartz.Value.Literal

/-!
# `Quartz.Proofs.Value.Literal`: literals and tokens have one grammar of numbers

A number is recognised in two places. The lexer scans a source and stops where the number ends, and
the value of a literal is a number if the whole text spells one. Both follow the grammar of
`Numeral`, digits with an optional fraction. For the value this is `isSome_number?_iff`, and for the
lexer `tokenize_eq_number_iff`, since a numeral with nothing behind it is one token.

So every number token has a number as its value, and a string is a number exactly if its text alone
would be a number token (`ofLiteral_shares_grammar`).
-/

set_option autoImplicit false

namespace Quartz

open Bytes

namespace Lexer

/-! ### The grammar of numbers -/

/-- Digits, with or without a fraction. -/
def Numeral (s : Bytes) : Prop :=
  Digits s ∨ ∃ ds fs, Digits ds ∧ Digits fs ∧ s = ds ++ byte '.' :: fs

theorem Numeral.exists_cons {s : Bytes} (h : Numeral s) :
    ∃ d tail, s = d :: tail ∧ isDigit d = true := by
  rcases h with hd | ⟨ds, fs, hd, -, rfl⟩
  · exact hd.exists_cons
  · obtain ⟨d, tail, rfl, hdigit⟩ := hd.exists_cons
    exact ⟨d, _, rfl, hdigit⟩

theorem Lexes.numeral {s rest : Bytes} (h : Lexes .number s rest) : Numeral s := by
  rcases h.of_number.2 with ⟨hd, -⟩ | hfraction
  · exact .inl hd
  · exact .inr hfraction

/-- A numeral with nothing behind it is a number token. -/
theorem lexes_number_iff {s : Bytes} : Lexes .number s [] ↔ Numeral s := by
  constructor
  · exact Lexes.numeral
  · rintro (hd | ⟨ds, fs, hd, hf, rfl⟩)
    · exact .whole hd trivial fun more hmore => by cases hmore
    · exact .fraction hd hf trivial

/-- A text is a single token of its own only if nothing stands around it. -/
theorem tokenize_eq_singleton_iff {kind : Kind} {s : Bytes} :
    tokenize s = [⟨kind, s, 0⟩] ↔ Lexes kind s [] := by
  rw [tokenize_eq_iff]
  constructor
  · intro h
    generalize hts : [Token.mk kind s 0] = ts at h
    generalize htext : s = text at h
    cases h with
    | done => cases hts
    | @token _ gap literal rest _ _ _ hlexes _ =>
      obtain ⟨ht, -⟩ := List.cons.inj hts
      obtain ⟨rfl, rfl, -⟩ := Token.mk.inj ht
      have hlength := congrArg List.length htext
      rw [List.length_append, List.length_append] at hlength
      obtain rfl : rest = [] := List.length_eq_zero_iff.1 (by omega)
      rwa [← htext]
  · intro h
    have hlexed : Lexed 0 ([] ++ (s ++ [])) [⟨kind, s, 0⟩] := .token .nil h (.done .nil)
    rwa [List.nil_append, List.append_nil] at hlexed

theorem tokenize_eq_number_iff {s : Bytes} : tokenize s = [⟨.number, s, 0⟩] ↔ Numeral s := by
  rw [tokenize_eq_singleton_iff, lexes_number_iff]

/-- A token of a source is a token of the grammar. -/
theorem exists_lexes_of_mem {source : Bytes} {t : Token} (ht : t ∈ tokenize source) :
    ∃ rest, Lexes t.kind t.literal rest := by
  have hlexed : Lexed 0 source (tokenize source) := tokenize_eq_iff.1 rfl
  obtain ⟨_, rest, hstands⟩ :=
    hlexed.exists_stands (List.nil_append _).symm rfl (fresh_nil _) ht
  exact ⟨rest, hstands.lexes⟩

end Lexer

open Lexer

namespace Literal

/-! ### The value of a text -/

theorem isSome_number?_iff {s : Bytes} : (number? s).isSome = true ↔ Numeral s := by
  rw [number?, Option.isSome_map]
  unfold Decimal.parsePlain?
  dsimp only
  constructor
  · intro h
    have hsplit := List.takeWhile_append_dropWhile (p := isDigit) (l := s)
    have hwhole : ∀ d ∈ s.takeWhile isDigit, isDigit d = true :=
      List.all_eq_true.1 List.all_takeWhile
    split at h
    · next hdrop =>
        split at h
        · cases h
        · next hne =>
            rw [hdrop, List.append_nil] at hsplit
            rw [hsplit] at hne hwhole
            exact .inl ⟨hne, hwhole⟩
    · next point fraction hdrop =>
        split at h
        · next hcond =>
            simp only [Bool.and_eq_true, decide_eq_true_eq, List.all_eq_true] at hcond
            obtain ⟨⟨⟨rfl, hne⟩, hfraction⟩, hall⟩ := hcond
            exact .inr ⟨_, _, ⟨hne, hwhole⟩, ⟨hfraction, hall⟩, by rw [← hdrop, hsplit]⟩
        · cases h
  · rintro (hd | ⟨ds, fs, hd, hf, rfl⟩)
    · have htake := @List.takeWhile_append_of_pos _ isDigit s [] hd.all
      have hdrop := @List.dropWhile_append_of_pos _ isDigit s [] hd.all
      rw [List.append_nil, List.takeWhile_nil, List.append_nil] at htake
      rw [List.append_nil, List.dropWhile_nil] at hdrop
      simp [htake, hdrop, hd.ne_nil]
    · have hpoint : isDigit (byte '.') = false := by decide
      have htake : (ds ++ byte '.' :: fs).takeWhile isDigit = ds := by
        rw [List.takeWhile_append_of_pos hd.all]
        simp [hpoint]
      have hdrop : (ds ++ byte '.' :: fs).dropWhile isDigit = byte '.' :: fs := by
        rw [List.dropWhile_append_of_pos hd.all]
        simp [hpoint]
      have hall : ∀ d ∈ fs, isDigit d = true := hf.all
      simpa [htake, hdrop, hd.ne_nil, hf.ne_nil] using hall

theorem numeral_of_number? {s : Bytes} {x : Float} (h : number? s = some x) : Numeral s :=
  isSome_number?_iff.1 (by rw [h, Option.isSome_some])

/-- A text without quotes stays as it is. -/
theorem unquoted_of_isDigit {d : UInt8} (h : isDigit d = true) (tail : Bytes) :
    unquoted (d :: tail) = d :: tail := by
  have hquote : d ≠ byte '"' := by
    rintro rfl
    cases h
  unfold unquoted
  dsimp only
  exact if_neg fun hquoted => hquote (Option.some.inj hquoted.2.1)

theorem unquoted_quoted (s : Bytes) : unquoted (byte '"' :: (s ++ [byte '"'])) = s := by
  have hlast : (byte '"' :: (s ++ [byte '"'])).getLast? = some (byte '"') := by
    rw [← List.cons_append, List.getLast?_concat]
  simp [unquoted, hlast]

end Literal

namespace Value

open Literal

/-! ### Coercion -/

/-- A truth value as it is written. -/
def boolWord (b : Bool) : Bytes := utf8 (if b then "true" else "false")

theorem not_numeral_boolWord (b : Bool) : ¬ Numeral (boolWord b) := by
  rw [← isSome_number?_iff, number?, Option.isSome_map]
  revert b
  decide

/-- The value that a text stands for: a number if it spells one, a truth value if it is the word
for one, and otherwise the text as it is. -/
inductive Coerces (s : Bytes) : Value → Prop
  | number {x : Float} (h : number? s = some x) : Coerces s (.number x)
  | bool {b : Bool} (h : s = boolWord b) : Coerces s (.bool b)
  | text (hn : ¬ Numeral s) (hb : ∀ b, s ≠ boolWord b) : Coerces s (.text s)

theorem coerces_ofLiteral (lexeme : Bytes) : Coerces (unquoted lexeme) (ofLiteral lexeme) := by
  unfold ofLiteral
  dsimp only
  split
  · next x hx => exact .number hx
  · next hnone =>
      split
      · next htrue => exact .bool htrue
      · next htrue =>
          split
          · next hfalse => exact .bool hfalse
          · next hfalse =>
              refine .text (fun h => ?_) fun b => ?_
              · rw [← isSome_number?_iff, hnone] at h
                cases h
              · cases b with
                | true => exact htrue
                | false => exact hfalse

namespace Coerces

variable {s : Bytes} {v : Value}

theorem exists_eq_number_iff (h : Coerces s v) : (∃ x, v = .number x) ↔ Numeral s := by
  cases h with
  | number h => exact ⟨fun _ => numeral_of_number? h, fun _ => ⟨_, rfl⟩⟩
  | bool h =>
    rw [h]
    simp [not_numeral_boolWord]
  | text hn _ => simp [hn]

theorem eq_bool_iff (h : Coerces s v) {b : Bool} : v = .bool b ↔ s = boolWord b := by
  cases h with
  | number h =>
    constructor
    · intro hv
      cases hv
    · rintro rfl
      exact absurd (numeral_of_number? h) (not_numeral_boolWord b)
  | @bool b' h =>
    have hwords : ∀ b' b, boolWord b' = boolWord b → b' = b := by decide
    rw [h, Value.bool.injEq]
    exact ⟨congrArg boolWord, hwords b' b⟩
  | text _ hb => simp [hb]

theorem eq_text (h : Coerces s v) (hn : ¬ Numeral s) (hb : ∀ b, s ≠ boolWord b) : v = .text s := by
  cases h with
  | number h => exact absurd (numeral_of_number? h) hn
  | bool h => exact absurd h (hb _)
  | text => rfl

end Coerces

/-- **Literals and tokens share one grammar of numbers.** A text spells a number exactly if it is a
single number token. So the value of a number token is a number. The value of a string token with a
given text between its quotes is a number exactly if the text alone is a number token, a truth value
exactly if the text is the word for it, and otherwise it is the text itself. -/
theorem ofLiteral_shares_grammar :
    (∀ s : Bytes, (number? s).isSome = true ↔ tokenize s = [⟨.number, s, 0⟩]) ∧
      ∀ (source : Bytes) (t : Token), t ∈ tokenize source →
        (t.kind = .number → ∃ x, ofLiteral t.literal = .number x) ∧
        (t.kind = .string → ∃ s, t.literal = byte '"' :: (s ++ [byte '"']) ∧
          ((∃ x, ofLiteral t.literal = .number x) ↔ tokenize s = [⟨.number, s, 0⟩]) ∧
          (∀ b, ofLiteral t.literal = .bool b ↔ s = utf8 (if b then "true" else "false")) ∧
          (tokenize s ≠ [⟨.number, s, 0⟩] → s ≠ utf8 "true" → s ≠ utf8 "false" →
            ofLiteral t.literal = .text s)) := by
  refine ⟨fun s => by rw [isSome_number?_iff, tokenize_eq_number_iff], fun source t ht => ?_⟩
  obtain ⟨rest, hlexes⟩ := exists_lexes_of_mem ht
  have hcoerces := coerces_ofLiteral t.literal
  refine ⟨fun hkind => ?_, fun hkind => ?_⟩
  · rw [hkind] at hlexes
    have hnumeral := hlexes.numeral
    obtain ⟨d, tail, hliteral, hd⟩ := hnumeral.exists_cons
    rw [hliteral, unquoted_of_isDigit hd, ← hliteral] at hcoerces
    exact hcoerces.exists_eq_number_iff.2 hnumeral
  · obtain ⟨s, -, hliteral⟩ := (hkind ▸ hlexes.form (by rw [hkind]; decide)).of_string
    have hs : unquoted t.literal = s := by rw [hliteral, unquoted_quoted]
    rw [hs] at hcoerces
    refine ⟨s, hliteral, ?_, fun b => hcoerces.eq_bool_iff, fun hn htrue hfalse => ?_⟩
    · rw [tokenize_eq_number_iff, hcoerces.exists_eq_number_iff]
    · rw [ne_eq, tokenize_eq_number_iff] at hn
      refine hcoerces.eq_text hn fun b => ?_
      cases b with
      | true => exact htrue
      | false => exact hfalse

/-- A number, and two strings that look like one. -/
theorem ofLiteral_shares_grammar_strings :
    let source := utf8 "1.50 \"007\" \"1.\""
    let number : Token := ⟨.number, utf8 "1.50", 0⟩
    let whole : Token := ⟨.string, utf8 "\"007\"", 5⟩
    let broken : Token := ⟨.string, utf8 "\"1.\"", 11⟩
    tokenize source = [number, whole, broken] ∧ (∃ x, ofLiteral number.literal = .number x) ∧
      (∃ x, ofLiteral whole.literal = .number x) ∧
      ofLiteral broken.literal = .text (utf8 "1.") := by
  intro source number whole broken
  have hsource : tokenize source = [number, whole, broken] := by decide +kernel
  obtain ⟨-, htokens⟩ := ofLiteral_shares_grammar
  have hnumber := (htokens source number (by rw [hsource]; simp)).1 rfl
  obtain ⟨s, hs, hwhole, -⟩ := (htokens source whole (by rw [hsource]; simp)).2 rfl
  obtain ⟨s', hs', -, -, hopen⟩ := (htokens source broken (by rw [hsource]; simp)).2 rfl
  obtain rfl : utf8 "007" = s := List.append_cancel_right (List.cons.inj hs).2
  obtain rfl : utf8 "1." = s' := List.append_cancel_right (List.cons.inj hs').2
  exact ⟨hsource, hnumber, hwhole.2 (by decide +kernel),
    hopen (by decide +kernel) (by decide) (by decide)⟩

end Value

end Quartz
