import Quartz.Proofs.Token.Lexical

/-!
# `Quartz.Proofs.Token.Longest`: tokens are the longest matches

A literal with a form is carried on to a token of the grammar, and the grammar has one token for a
text. So no literal with a form is longer than the token in front, and where an error stands no
literal has a form (`Form.length_le`).

What lies before a token matters for words only. A word might be the end of a longer run of letters
and digits, if the scan had stopped inside that run. It never does: `Fresh` says that what was read
so far does not end with a run that goes on, and every step of the scan keeps this.

`Classified` puts together what is known about a token of a source, and `tokenize_classified` says
that it holds of all of them.
-/

set_option autoImplicit false

namespace Quartz

open Bytes

variable {s rest before literal source : Bytes} {kind : Kind} {t : Token}

namespace Kind

/-- A word is a keyword exactly if it is reserved, and a name otherwise. -/
theorem ofWord_eq_keyword_iff : ofWord s = .keyword ↔ ∃ k : Keyword, s = k.spelling := by
  unfold ofWord Keyword.ofBytes?
  constructor
  · intro h
    split at h
    · next hfound =>
        obtain ⟨k, hk⟩ := Option.isSome_iff_exists.1 hfound
        have hspelling : k.spelling = s := by simpa using List.find?_some hk
        exact ⟨k, hspelling.symm⟩
    · cases h
  · rintro ⟨k, rfl⟩
    have hmem : k ∈ Keyword.all := by cases k <;> decide
    exact if_pos (List.find?_isSome.2 ⟨k, hmem, decide_eq_true rfl⟩)

end Kind

/-- The text from a token on. -/
def Token.onward (source : Bytes) (t : Token) : Bytes := source.drop t.offset.toNat

/-- The text behind a token. -/
def Token.behind (source : Bytes) (t : Token) : Bytes :=
  source.drop (t.offset.toNat + t.literal.length)

namespace Lexer

/-! ### The longest match -/

theorem Form.kind_ne_error (h : Form kind s) : kind ≠ .error := by
  cases h with
  | word => exact (Kind.ne_ofWord (by decide) (by decide) s).symm
  | whole => decide
  | fraction => decide
  | string => decide
  | symbol h =>
    rintro rfl
    cases h.1

/-- No literal with a form is longer than the token in front, which is then no error. One that is
as long has the same kind. -/
theorem Form.length_le {kind' : Kind} (hs : Form kind' s) (h : Lexes kind literal rest)
    (hstarts : s <+: literal ++ rest) :
    kind ≠ .error ∧ s.length ≤ literal.length ∧ (s = literal → kind' = kind) := by
  obtain ⟨tail, htail⟩ := hstarts
  have hcomment : ¬ utf8 "//" <+: s ++ tail := by
    obtain ⟨b, more, rfl, -, hcomment⟩ := h.exists_cons
    rwa [htail]
  obtain ⟨kind'', more, behind, rfl, hlexes, hform, hsame⟩ := hs.exists_lexes hcomment
  obtain ⟨rfl, rfl⟩ := h.unique hlexes (by rw [← htail, List.append_assoc])
  refine ⟨hform.kind_ne_error, by simp, fun hall => ?_⟩
  exact (hsame (List.self_eq_append_right.1 hall)).symm

/-! ### What lies before a word -/

/-- What was read does not end with a word that goes on. -/
def Fresh (before s : Bytes) : Prop := ∀ run, WordRun run → run <:+ before → Halts isWord s

theorem fresh_nil (s : Bytes) : Fresh [] s := by
  rintro run hrun hsuffix
  obtain ⟨b, tail, rfl, -, -⟩ := hrun.exists_cons
  cases List.suffix_nil.1 hsuffix

/-- A word does not end with a byte that belongs to no word. -/
theorem fresh_append_singleton (before s : Bytes) {c : UInt8} (hc : isWord c = false) :
    Fresh (before ++ [c]) s := by
  rintro run hrun ⟨start, hstart⟩
  have hlast : run.getLast? = some c := by
    obtain ⟨b, tail, rfl, -, -⟩ := hrun.exists_cons
    have hlast := congrArg List.getLast? hstart
    simpa using hlast
  cases hc.symm.trans (hrun.all c (List.mem_of_getLast? hlast))

theorem Blank.eq_append_singleton {gap : Bytes} (h : Blank false gap) :
    gap = [] ∨ ∃ start c, gap = start ++ [c] ∧ isSpace c = true := by
  induction h with
  | nil => exact .inl rfl
  | @space b gap hb _ ih =>
    rcases ih with rfl | ⟨start, c, rfl, hc⟩
    · exact .inr ⟨[], b, rfl, hb⟩
    · exact .inr ⟨b :: start, c, rfl, hc⟩
  | @comment text gap ht _ ih =>
    rcases ih with rfl | ⟨start, c, rfl, hc⟩
    · exact .inr ⟨byte '/' :: byte '/' :: text, newline, by simp, rfl⟩
    · exact .inr ⟨byte '/' :: byte '/' :: (text ++ newline :: start), c, by simp, hc⟩
  | lastComment hf => cases hf

/-- A gap ends words. -/
theorem Fresh.append_gap {gap : Bytes} (h : Fresh before (gap ++ s)) (hgap : Blank false gap) :
    Fresh (before ++ gap) s := by
  rcases hgap.eq_append_singleton with rfl | ⟨start, c, rfl, hc⟩
  · rwa [List.append_nil]
  · rw [← List.append_assoc]
    exact fresh_append_singleton _ _ (blank_halts hc).1

theorem WordRun.of_append {more : Bytes} (h : WordRun (s ++ more)) (hs : s ≠ []) : WordRun s := by
  cases s with
  | nil => exact absurd rfl hs
  | cons b tail =>
    obtain ⟨hb, hall⟩ := wordRun_cons_iff.1 h
    exact wordRun_cons_iff.2 ⟨hb, (List.forall_mem_append.1 hall).1⟩

/-- A number is no part of a word that goes on, since a word would have gone on into it. -/
theorem Fresh.append_number (h : Fresh before (literal ++ rest))
    (hfirst : ¬ Halts isWord (literal ++ rest)) (hletter : ∀ c ∈ literal, isLetter c = false) :
    Fresh (before ++ literal) rest := by
  rintro run hrun ⟨start, hstart⟩
  obtain ⟨b, tail, hcons, hb, -⟩ := hrun.exists_cons
  -- The run starts with a letter, so that it starts before the number.
  have houtside : ∀ more, literal ≠ more ++ run := by
    intro more hmore
    have hmem : b ∈ literal := by simp [hmore, hcons]
    cases hb.symm.trans (hletter b hmem)
  rcases List.append_eq_append_iff.1 hstart with ⟨more, hbefore, hmore⟩ | ⟨more, -, hmore⟩
  · have hne : more ≠ [] := by
      rintro rfl
      exact houtside [] hmore.symm
    rw [hmore] at hrun
    exact absurd (h more (hrun.of_append hne) ⟨start, hbefore.symm⟩) hfirst
  · exact absurd hmore (houtside more)

/-- A token keeps the scan out of words. -/
theorem Fresh.append_literal (h : Fresh before (literal ++ rest))
    (hlexes : Lexes kind literal rest) : Fresh (before ++ literal) rest := by
  have hnumber : ∀ {ds s : Bytes}, Digits ds → ¬ Halts isWord (ds ++ s) := by
    intro ds s hd
    obtain ⟨d, tail, rfl, hdigit⟩ := hd.exists_cons
    simp [Halts, isWord, hdigit]
  cases hlexes with
  | word _ hrest => exact fun _ _ _ => hrest
  | whole hd _ _ =>
    exact h.append_number (hnumber hd) fun c hc => isLetter_of_isDigit (hd.all c hc)
  | fraction hd hf _ =>
    refine h.append_number (by rw [List.append_assoc]; exact hnumber hd) fun c hc => ?_
    rcases List.mem_append.1 hc with hc | hc
    · exact isLetter_of_isDigit (hd.all c hc)
    · rcases List.mem_cons.1 hc with rfl | hc
      · decide
      · exact isLetter_of_isDigit (hf.all c hc)
  | string hs =>
    rw [← List.cons_append, ← List.append_assoc]
    exact fresh_append_singleton _ _ (by decide)
  | @pair kind a b rest hsymbol =>
    have hb : isWord b = false := (mark_of_joins hsymbol.of_pair.2.1).word
    have hsplit : before ++ [a, b] = before ++ [a] ++ [b] := by simp
    rw [hsplit]
    exact fresh_append_singleton _ _ hb
  | single hsymbol => exact fresh_append_singleton _ _ hsymbol.of_single.2.word
  | stray hb => exact fresh_append_singleton _ _ hb.word
  | unclosed => exact fun _ _ _ => trivial

/-! ### The rule of a kind -/

theorem Lexes.of_word (h : Lexes kind literal rest) (hkind : kind = .ident ∨ kind = .keyword) :
    WordRun literal ∧ Halts isWord rest ∧ kind = Kind.ofWord literal := by
  cases h with
  | word hs hrest => exact ⟨hs, hrest, rfl⟩
  | pair h => rcases hkind with rfl | rfl <;> cases h.1
  | single h => rcases hkind with rfl | rfl <;> cases h.1
  | _ => rcases hkind with hkind | hkind <;> cases hkind

theorem Lexes.of_number (h : Lexes .number literal rest) :
    Halts isDigit rest ∧
      ((Digits literal ∧ ∀ more, rest = byte '.' :: more → Halts isDigit more) ∨
        ∃ ds fs, Digits ds ∧ Digits fs ∧ literal = ds ++ byte '.' :: fs) := by
  generalize hkind : Kind.number = kind at h
  cases h with
  | word => exact absurd hkind (Kind.ne_ofWord (by decide) (by decide) literal)
  | whole hd hrest hpoint => exact ⟨hrest, .inl ⟨hd, hpoint⟩⟩
  | fraction hd hf hrest => exact ⟨hrest, .inr ⟨_, _, hd, hf, rfl⟩⟩
  | pair h => subst hkind; cases h.1
  | single h => subst hkind; cases h.1
  | _ => cases hkind

theorem Form.of_string (h : Form .string s) :
    ∃ items, Items items ∧ s = byte '"' :: (items ++ [byte '"']) := by
  generalize hkind : Kind.string = kind at h
  cases h with
  | word => exact absurd hkind (Kind.ne_ofWord (by decide) (by decide) s)
  | string hs => exact ⟨_, hs, rfl⟩
  | symbol h => subst hkind; cases h.1
  | _ => cases hkind

theorem Form.of_symbol (h : Form kind s) (hkind : (kind.isOperator || kind.isPunctuation) = true) :
    s = utf8 kind.name := by
  cases h with
  | word =>
    rcases Kind.ofWord_cases s with hword | hword <;> rw [hword] at hkind <;> cases hkind
  | symbol h => exact h.2
  | _ => cases hkind

/-! ### All tokens of a source -/

/-- Where a token stands: what lies before it and behind it. Only behind the last one there may be
nothing. -/
structure Stands (source : Bytes) (ts : List Token) (t : Token) (before rest : Bytes) : Prop where
  text : source = before ++ (t.literal ++ rest)
  offset : t.offset = (before.length : Nat)
  lexes : Lexes t.kind t.literal rest
  fresh : Fresh before (t.literal ++ rest)
  last : rest = [] → ts.getLast? = some t

/-- Every token of a source stands somewhere in it. -/
theorem Lexed.exists_stands {pos : Nat} {ts : List Token} (h : Lexed pos s ts)
    (htext : source = before ++ s) (hpos : before.length = pos) (hfresh : Fresh before s)
    (ht : t ∈ ts) : ∃ before rest, Stands source ts t before rest := by
  -- Along the tokens, with what was read so far.
  induction h generalizing before with
  | done => cases ht
  | @token pos gap literal rest kind ts hgap hlexes hrest ih =>
    have hfresh' := hfresh.append_gap hgap
    have htext' : source = before ++ gap ++ (literal ++ rest) := by rw [htext, List.append_assoc]
    have hlength : (before ++ gap).length = pos + gap.length := by rw [List.length_append, hpos]
    rcases List.mem_cons.1 ht with rfl | ht
    · refine ⟨before ++ gap, rest, htext', by rw [hlength], hlexes, hfresh', ?_⟩
      rintro rfl
      rw [hrest.eq_nil]
      rfl
    · obtain ⟨before', rest', hstands⟩ := @ih (before ++ gap ++ literal)
        (by rw [htext', List.append_assoc (before ++ gap)])
        (by rw [List.length_append, hlength]) (hfresh'.append_literal hlexes) ht
      refine ⟨before', rest', hstands.text, hstands.offset, hstands.lexes, hstands.fresh, ?_⟩
      intro hend
      rw [List.getLast?_cons, hstands.last hend]
      rfl

/-- No run of letters and digits that starts with a letter covers a word and more. -/
theorem Stands.eq_of_run {ts : List Token} (h : Stands source ts t before rest)
    (hword : WordRun t.literal) {before' run after : Bytes}
    (htext : source = before' ++ run ++ after) (hrun : WordRun run)
    (hstart : before'.length ≤ before.length)
    (hend : before.length + t.literal.length ≤ before'.length + run.length) :
    before'.length = before.length ∧ run = t.literal := by
  have hboth : before' ++ (run ++ after) = before ++ (t.literal ++ rest) := by
    rw [← List.append_assoc, ← htext, h.text]
  obtain ⟨more, rfl⟩ : before' <+: before :=
    List.prefix_of_prefix_length_le ⟨_, rfl⟩ ⟨_, hboth.symm⟩ hstart
  rw [List.append_assoc] at hboth
  have hrest : run ++ after = more ++ (t.literal ++ rest) := List.append_cancel_left hboth
  rw [List.length_append] at hend
  cases more with
  | nil =>
    -- The run starts where the word does, and it is no longer.
    rw [List.nil_append] at hrest
    rw [List.length_nil] at hend
    have hle := (Form.length_le (.word hrun) h.lexes ⟨after, hrest⟩).2.1
    exact ⟨by simp, (List.append_inj hrest (by omega)).1⟩
  | cons b more =>
    -- The run starts before the word, and goes on with it.
    obtain ⟨tail, rfl⟩ : b :: more <+: run :=
      List.prefix_of_prefix_length_le ⟨_, hrest.symm⟩ ⟨_, rfl⟩ (by omega)
    have hhalts := h.fresh _ (hrun.of_append (List.cons_ne_nil b more)) ⟨before', rfl⟩
    obtain ⟨c, literal, hliteral, hletter, -⟩ := hword.exists_cons
    rw [hliteral] at hhalts
    simp [Halts, isWord, hletter] at hhalts

/-- What is known of a token of a source. -/
structure Classified (source : Bytes) (t : Token) : Prop where
  /-- The literal stands in the source. -/
  slice : 0 ≤ t.offset ∧ t.onward source = t.literal ++ t.behind source
  /-- A token has the form of its kind, and nothing longer with a form starts where it does. -/
  longest : t.kind ≠ .error → Form t.kind t.literal ∧
    ∀ kind s, Form kind s → s <+: t.onward source →
      s.length ≤ t.literal.length ∧ (s = t.literal → kind = t.kind)
  /-- A name or a keyword is a run of letters and digits that starts with a letter, and no other
  such run covers it. Reserved words are the keywords. -/
  word : t.kind = .ident ∨ t.kind = .keyword → WordRun t.literal ∧
    Halts isWord (t.behind source) ∧
    (∀ before run after, source = before ++ run ++ after → WordRun run →
      (before.length : Int) ≤ t.offset →
      t.offset + t.literal.length ≤ before.length + run.length →
      (before.length : Int) = t.offset ∧ run = t.literal) ∧
    (t.kind = .keyword ↔ ∃ k : Keyword, t.literal = k.spelling)
  /-- A number is digits with at most one fraction. No digit follows it, and no fraction follows
  one that has none. -/
  number : t.kind = .number → Halts isDigit (t.behind source) ∧
    ((Digits t.literal ∧ ∀ more, t.behind source = byte '.' :: more → Halts isDigit more) ∨
      ∃ ds fs, Digits ds ∧ Digits fs ∧ t.literal = ds ++ byte '.' :: fs)
  /-- A string is items in quotes. -/
  string : t.kind = .string →
    ∃ items, Items items ∧ t.literal = byte '"' :: (items ++ [byte '"'])
  /-- An operator or a punctuation mark is written as its name. -/
  symbol : (t.kind.isOperator || t.kind.isPunctuation) = true → t.literal = utf8 t.kind.name
  /-- One byte is not the first byte of an operator of two bytes or of a comment. -/
  single : t.literal.length = 1 → ∀ s ∈ compounds, ¬ s <+: t.onward source
  /-- Where an error stands nothing has a form. It is one byte, or a string that is not closed up
  to the end of the source, and then there is no further token. -/
  error : t.kind = .error → (∀ kind s, Form kind s → ¬ s <+: t.onward source) ∧
    ((∃ b, t.literal = [b] ∧ Mark b) ∨
      ((∃ items last, Items items ∧ (last = [] ∨ last = [byte '\\']) ∧
          t.literal = byte '"' :: (items ++ last)) ∧
        t.offset + t.literal.length = source.length ∧ (tokenize source).getLast? = some t))

theorem Stands.classified (h : Stands source (tokenize source) t before rest) :
    Classified source t := by
  have hat : t.offset.toNat = before.length := by rw [h.offset, Int.toNat_natCast]
  have honward : t.onward source = t.literal ++ rest := by
    rw [Token.onward, hat, h.text, List.drop_left]
  have hbehind : t.behind source = rest := by
    rw [Token.behind, ← List.drop_drop, ← Token.onward, honward, List.drop_left]
  have hoffset := h.offset
  have hlength : source.length = before.length + (t.literal.length + rest.length) := by
    rw [h.text, List.length_append, List.length_append]
  constructor
  case slice => exact ⟨by omega, by rw [honward, hbehind]⟩
  case longest =>
    refine fun hkind => ⟨h.lexes.form hkind, fun kind s hs hstarts => ?_⟩
    rw [honward] at hstarts
    exact (hs.length_le h.lexes hstarts).2
  case word =>
    intro hkind
    obtain ⟨hrun, hhalts, hof⟩ := h.lexes.of_word hkind
    rw [hbehind]
    refine ⟨hrun, hhalts, fun before' run after htext hrun' hstart hend => ?_, ?_⟩
    · obtain ⟨hsame, rfl⟩ := h.eq_of_run hrun htext hrun' (by omega) (by omega)
      exact ⟨by omega, rfl⟩
    · rw [hof, Kind.ofWord_eq_keyword_iff]
  case number =>
    intro hkind
    have hlexes := h.lexes
    rw [hkind] at hlexes
    rw [hbehind]
    exact hlexes.of_number
  case string =>
    intro hkind
    have hform := h.lexes.form (by rw [hkind]; decide)
    rw [hkind] at hform
    exact hform.of_string
  case symbol =>
    intro hkind
    refine (h.lexes.form fun herror => ?_).of_symbol hkind
    rw [herror] at hkind
    cases hkind
  case single =>
    intro hone s hs hstarts
    rw [honward] at hstarts
    obtain ⟨htwo, ⟨kind, hsymbol⟩ | rfl⟩ := compound_cases hs
    · have hle := (Form.length_le (.symbol hsymbol) h.lexes hstarts).2.1
      omega
    · obtain ⟨b, tail, hliteral, -, hcomment⟩ := h.lexes.exists_cons
      rw [hliteral] at hstarts
      exact hcomment hstarts
  case error =>
    intro hkind
    have hlexes := h.lexes
    rw [hkind] at hlexes
    refine ⟨fun kind s hs hstarts => ?_, ?_⟩
    · rw [honward] at hstarts
      exact (hs.length_le hlexes hstarts).1 rfl
    · rcases hlexes.of_error with hstray | ⟨rfl, hunclosed⟩
      · exact .inl hstray
      · rw [List.length_nil] at hlength
        exact .inr ⟨hunclosed, by omega, h.last rfl⟩

/-- **Tokens are classified by the grammar and by longest match.** -/
theorem tokenize_classified (source : Bytes) (t : Token) (ht : t ∈ tokenize source) :
    Classified source t := by
  have hlexed : Lexed 0 source (tokenize source) := tokenize_eq_iff.1 rfl
  obtain ⟨before, rest, hstands⟩ :=
    hlexed.exists_stands (List.nil_append _).symm rfl (fresh_nil _) ht
  exact hstands.classified

/-- A word behind a digit that is no part of it, with a keyword in front. -/
theorem tokenize_classified_word :
    let source := utf8 "1if2.=\"\\"
    let t : Token := ⟨.ident, utf8 "if2", 1⟩
    t ∈ tokenize source ∧ Classified source t := by
  intro source t
  have ht : t ∈ tokenize source := by decide +kernel
  exact ⟨ht, tokenize_classified source t ht⟩

end Lexer

end Quartz
