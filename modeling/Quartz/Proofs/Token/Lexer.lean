import Quartz.Token.Lexer

/-!
# `Quartz.Proofs.Token.Lexer`: the tokens and the gaps make up the source

A lexer drops blanks and comments and keeps everything else. `Blank` says what may be
dropped, and `Covers` lays tokens and gaps side by side: a text from a position on is a gap,
a literal, a gap, a literal and so on, with each token at the offset at which its literal
stands. `tokenize_covers` is the invariant of the scan.

`tokenize_lossless` reads off what callers rely on. The offsets increase, literals are
slices of the source, and what the offsets leave out between them is blank. Nothing is asked
of the source: zero bytes, invalid UTF-8 and strings without an end are covered like all else.
-/

set_option autoImplicit false

namespace Quartz

namespace Lexer

open Bytes

/-! ### What separates tokens -/

/-- A text that separates tokens: blank bytes, and comments that run from two slashes to a
newline. Where the input ends, a comment may end with it. -/
inductive Blank (final : Bool) : Bytes → Prop
  | nil : Blank final []
  | space {b : UInt8} {gap : Bytes} (hb : isSpace b = true) (h : Blank final gap) :
      Blank final (b :: gap)
  | comment {text gap : Bytes} (ht : newline ∉ text) (h : Blank final gap) :
      Blank final (byte '/' :: byte '/' :: (text ++ newline :: gap))
  | lastComment {text : Bytes} (hf : final = true) (ht : newline ∉ text) :
      Blank final (byte '/' :: byte '/' :: text)

/-- Inside a comment: it runs to the end of the text, or to a newline behind which the
skipping goes on. -/
theorem skipFrom_true_cases (s : Bytes) :
    (newline ∉ s ∧ skipFrom true s = []) ∨
      ∃ text rest, s = text ++ newline :: rest ∧ newline ∉ text ∧
        skipFrom true s = skipFrom false rest := by
  induction s with
  | nil => exact .inl ⟨by simp, rfl⟩
  | cons b s ih =>
    by_cases hb : b = newline
    · right
      subst hb
      exact ⟨[], s, rfl, by simp, by simp [skipFrom]⟩
    · -- Any other byte belongs to the comment.
      have hstays : (b != newline) = true := bne_iff_ne.2 hb
      rw [skipFrom, hstays]
      rcases ih with ⟨hs, hend⟩ | ⟨text, rest, hs, ht, hrest⟩
      · left
        have hb' : newline ≠ b := fun h => hb h.symm
        exact ⟨by simp [hb', hs], hend⟩
      · right
        have hb' : newline ≠ b := fun h => hb h.symm
        exact ⟨b :: text, rest, by simp [hs], by simp [hb', ht], hrest⟩

/-- What is skipped is blank. -/
theorem skip_blank (s : Bytes) :
    ∃ gap, s = gap ++ skip s ∧ Blank (skip s).isEmpty gap := by
  -- On the length, since a comment takes several bytes at once.
  induction hlen : s.length using Nat.strongRecOn generalizing s with
  | _ n ih =>
    unfold skip
    cases s with
    | nil => exact ⟨[], rfl, .nil⟩
    | cons b rest =>
      rw [List.length_cons] at hlen
      rw [skipFrom]
      split
      · next hb =>
          obtain ⟨gap, hgap, hblank⟩ := ih rest.length (by omega) rest rfl
          have hall : b :: rest = b :: gap ++ skip rest := by
            rw [List.cons_append, ← hgap]
          exact ⟨b :: gap, hall, .space hb hblank⟩
      · split
        · next hslash =>
            simp only [Bool.and_eq_true, decide_eq_true_eq] at hslash
            obtain ⟨rfl, hhead⟩ := hslash
            obtain ⟨u, rfl⟩ : ∃ u, rest = byte '/' :: u := by
              cases rest with
              | nil => cases hhead
              | cons a u => exact ⟨u, by rw [Option.some.inj hhead]⟩
            -- The second slash is the first byte inside the comment.
            have hopen : skipFrom true (byte '/' :: u) = skipFrom true u := rfl
            rw [hopen]
            rcases skipFrom_true_cases u with ⟨hu, hend⟩ | ⟨text, more, rfl, ht, hmore⟩
            · rw [hend]
              exact ⟨_, (List.append_nil _).symm, .lastComment rfl hu⟩
            · rw [hmore]
              simp only [List.length_cons, List.length_append] at hlen
              obtain ⟨gap, hgap, hblank⟩ := ih more.length (by omega) more rfl
              have hall : byte '/' :: byte '/' :: (text ++ newline :: more) =
                  byte '/' :: byte '/' :: (text ++ newline :: gap) ++ skip more := by
                simp only [List.cons_append, List.append_assoc]
                rw [← hgap]
              exact ⟨_, hall, .comment ht hblank⟩
        · exact ⟨[], rfl, .nil⟩

/-! ### The length of a token -/

theorem run_le (p : UInt8 → Bool) (s : Bytes) : run p s ≤ s.length :=
  (List.takeWhile_sublist p).length_le

theorem numberLength_le (s : Bytes) : numberLength s ≤ s.length := by
  have hwhole := run_le isDigit s
  have hdrop : (s.drop (run isDigit s)).length = s.length - run isDigit s := List.length_drop
  unfold numberLength
  dsimp only
  split
  · next point fraction heq =>
      have hfraction := run_le isDigit fraction
      rw [heq, List.length_cons] at hdrop
      split <;> omega
  · exact hwhole

/-- A number takes at least the digit that it starts with. -/
theorem numberLength_pos {b : UInt8} (hb : isDigit b = true) (rest : Bytes) :
    1 ≤ numberLength (b :: rest) := by
  have hwhole : 1 ≤ run isDigit (b :: rest) := by
    simp [run, hb]
  unfold numberLength
  dsimp only
  split
  · split <;> omega
  · exact hwhole

theorem stringLength?_le {s : Bytes} {n : Nat} (h : stringLength? s = some n) : n ≤ s.length := by
  fun_induction stringLength? s generalizing n with
  | case1 => exact nomatch h
  | case2 => simp_all
  | case3 => exact nomatch h
  | case4 _ more _ ih =>
    obtain ⟨m, hm, rfl⟩ := Option.map_eq_some_iff.1 h
    have hle := ih hm
    simp only [List.length_cons]
    omega
  | case5 _ rest _ _ ih =>
    obtain ⟨m, hm, rfl⟩ := Option.map_eq_some_iff.1 h
    have hle := ih hm
    simp only [List.length_cons]
    omega

/-- A token takes at least one byte, and no more than there are. -/
theorem lexeme_length (b : UInt8) (rest : Bytes) :
    1 ≤ (lexeme b rest).2 ∧ (lexeme b rest).2 ≤ (b :: rest).length := by
  rw [List.length_cons]
  unfold lexeme
  split
  · have hrun := run_le isWord rest
    dsimp only
    omega
  · split
    · next hdigit =>
        have hle := numberLength_le (b :: rest)
        rw [List.length_cons] at hle
        exact ⟨numberLength_pos hdigit rest, hle⟩
    · split
      · split
        · next n hn =>
            have hle := stringLength?_le hn
            dsimp only
            omega
        · dsimp only
          omega
      · split
        -- An operator of two bytes needs a second one.
        · next hpair =>
            cases rest with
            | nil => exact nomatch hpair
            | cons c rest => simp
        · simp

/-! ### The scan -/

/-- Tokens cover a text from a position on: a blank gap and a literal for each token, and a
blank gap at the end. -/
inductive Covers : Nat → Bytes → List Token → Prop
  | done {pos : Nat} {gap : Bytes} (h : Blank true gap) : Covers pos gap []
  | token {pos : Nat} {gap rest : Bytes} {t : Token} {ts : List Token} (hg : Blank false gap)
      (hl : t.literal ≠ []) (ho : t.offset = (pos + gap.length : Nat))
      (h : Covers (pos + gap.length + t.literal.length) rest ts) :
      Covers pos (gap ++ (t.literal ++ rest)) (t :: ts)

theorem blank_of_step?_eq_none {l : Lexer} (h : l.step? = none) : Blank true l.rest := by
  obtain ⟨gap, hgap, hblank⟩ := skip_blank l.rest
  have hskip : skip l.rest = [] := by
    unfold step? at h
    split at h
    · assumption
    · cases h
  rw [hskip] at hgap hblank
  rw [hgap, List.append_nil]
  exact hblank

/-- One step splits off a gap and a literal. -/
theorem split_of_step? {l l' : Lexer} {t : Token} (h : l.step? = some (t, l')) :
    ∃ gap, l.rest = gap ++ (t.literal ++ l'.rest) ∧ Blank false gap ∧ t.literal ≠ [] ∧
      t.offset = (l.length : Int) - (t.literal ++ l'.rest).length ∧ l'.length = l.length := by
  obtain ⟨gap, hgap, hblank⟩ := skip_blank l.rest
  unfold step? at h
  split at h
  · cases h
  · next b rest hskip =>
      obtain ⟨hpos, -⟩ := lexeme_length b rest
      -- From here on only the length counts, which is one more than some number.
      generalize lexeme b rest = token at h hpos
      obtain ⟨kind, n⟩ := token
      obtain ⟨n, rfl⟩ : ∃ m, n = m + 1 := ⟨n - 1, by omega⟩
      cases h
      rw [hskip] at hgap hblank
      have hparts : (b :: rest).take (n + 1) ++ rest.drop n = b :: rest := by
        rw [List.take_succ_cons, List.cons_append, List.take_append_drop]
      refine ⟨gap, ?_, hblank, List.cons_ne_nil _ _, ?_, rfl⟩
      · show l.rest = gap ++ ((b :: rest).take (n + 1) ++ rest.drop n)
        rw [hparts, hgap]
      · show (l.length : Int) - (b :: rest).length =
          (l.length : Int) - ((b :: rest).take (n + 1) ++ rest.drop n).length
        rw [hparts]

/-- From every point of the scan, the tokens to come cover what is left. -/
theorem tokens_covers (l : Lexer) {pos : Nat} (hpos : pos + l.rest.length = l.length) :
    Covers pos l.rest l.tokens := by
  -- Along the scan. The position and the rest always add up to the length of the source.
  fun_induction tokens l generalizing pos with
  | case1 l h => exact .done (blank_of_step?_eq_none h)
  | case2 l t l' h _ ih =>
    obtain ⟨gap, hrest, hblank, hliteral, hoffset, hlength⟩ := split_of_step? h
    have hsum : pos + (gap.length + (t.literal.length + l'.rest.length)) = l.length := by
      rw [hrest, List.length_append, List.length_append] at hpos
      exact hpos
    rw [hrest]
    refine .token hblank hliteral ?_ (ih (by omega))
    rw [hoffset, List.length_append]
    omega

theorem tokenize_covers (source : Bytes) : Covers 0 source (tokenize source) :=
  tokens_covers (ofSource source) (Nat.zero_add _)

/-! ### Reading the cover off the offsets -/

/-- The bytes in front of each token that no token covers, by the offsets of the tokens. -/
def gapsBefore (source : Bytes) : Nat → List Token → List Bytes
  | _, [] => []
  | pos, t :: ts =>
    (source.drop pos).take (t.offset.toNat - pos) ::
      gapsBefore source (t.offset.toNat + t.literal.length) ts

/-- The bytes behind the last token. -/
def gapBehind (source : Bytes) : Nat → List Token → Bytes
  | pos, [] => source.drop pos
  | _, t :: ts => gapBehind source (t.offset.toNat + t.literal.length) ts

/-- Gaps and literals in turn, and a gap at the end. -/
def weave : List Bytes → List Token → Bytes → Bytes
  | gap :: gaps, t :: ts, last => gap ++ (t.literal ++ weave gaps ts last)
  | _, _, last => last

section

variable {rest : Bytes} {pos : Nat} {ts : List Token} (h : Covers pos rest ts)
include h

/-- A cover of what a source holds from a position on says what its gaps are. -/
theorem Covers.gaps {source : Bytes} (hrest : source.drop pos = rest) :
    (∀ gap ∈ gapsBefore source pos ts, Blank false gap) ∧
      Blank true (gapBehind source pos ts) ∧
      rest = weave (gapsBefore source pos ts) ts (gapBehind source pos ts) := by
  induction h with
  | done hblank =>
    rw [gapsBefore, gapBehind, hrest]
    exact ⟨by simp, hblank, rfl⟩
  | @token pos gap rest t ts hgap _ hoffset _ ih =>
    have hat : t.offset.toNat = pos + gap.length := by omega
    have hdrop : source.drop (pos + gap.length + t.literal.length) = rest := by
      rw [← List.drop_drop, ← List.drop_drop, hrest, List.drop_left, List.drop_left]
    obtain ⟨hbefore, hbehind, hweave⟩ := ih hdrop
    have hfirst : (source.drop pos).take (pos + gap.length - pos) = gap := by
      rw [hrest, Nat.add_sub_cancel_left, List.take_left]
    rw [gapsBefore, gapBehind, hat, hfirst, weave]
    refine ⟨List.forall_mem_cons.2 ⟨hgap, hbefore⟩, hbehind, ?_⟩
    rw [← hweave]

/-- Every token of a cover stands where its offset says, from the position on. -/
theorem Covers.slice {source : Bytes} (hrest : source.drop pos = rest) (t : Token) (ht : t ∈ ts) :
    (pos : Int) ≤ t.offset ∧ t.literal ≠ [] ∧
      t.literal = (source.drop t.offset.toNat).take t.literal.length := by
  induction h with
  | done => exact nomatch ht
  | @token pos gap rest u ts _ hliteral hoffset _ ih =>
    have hat : u.offset.toNat = pos + gap.length := by omega
    have hbehind : source.drop (pos + gap.length) = u.literal ++ rest := by
      rw [← List.drop_drop, hrest, List.drop_left]
    rcases List.mem_cons.1 ht with rfl | ht
    · refine ⟨by omega, hliteral, ?_⟩
      rw [hat, hbehind, List.take_left]
    · have hdrop : source.drop (pos + gap.length + u.literal.length) = rest := by
        rw [← List.drop_drop, hbehind, List.drop_left]
      obtain ⟨hle, hne, hslice⟩ := ih hdrop ht
      exact ⟨by omega, hne, hslice⟩

/-- A token of a cover starts behind the end of every token before it. -/
theorem Covers.pairwise :
    (∀ t ∈ ts, (pos : Int) ≤ t.offset) ∧
      ts.Pairwise fun t u : Token =>
        t.offset < u.offset ∧ t.offset + t.literal.length ≤ u.offset := by
  induction h with
  | done => exact ⟨by simp, .nil⟩
  | @token pos gap rest t ts _ hliteral hoffset _ ih =>
    obtain ⟨hbound, hpairs⟩ := ih
    have hlen : 0 < t.literal.length := List.length_pos_iff.2 hliteral
    constructor
    · intro u hu
      rcases List.mem_cons.1 hu with rfl | hu
      · omega
      · have hu' := hbound u hu
        omega
    · refine List.Pairwise.cons (fun u hu => ?_) hpairs
      have hu' := hbound u hu
      omega

end

/-- **Lexing loses nothing.** The tokens of a source have increasing offsets and do not
overlap, their literals are not empty and stand in the source at their offsets, the gaps
before, between and behind them are blank, and gaps and literals in turn are the source. -/
theorem tokenize_lossless (source : Bytes) :
    let ts := tokenize source
    ts.Pairwise (fun t u : Token =>
        t.offset < u.offset ∧ t.offset + t.literal.length ≤ u.offset) ∧
      (∀ t ∈ ts, 0 ≤ t.offset ∧ t.literal ≠ [] ∧
        t.literal = (source.drop t.offset.toNat).take t.literal.length) ∧
      (∀ gap ∈ gapsBefore source 0 ts, Blank false gap) ∧
      Blank true (gapBehind source 0 ts) ∧
      source = weave (gapsBefore source 0 ts) ts (gapBehind source 0 ts) := by
  intro ts
  have hcovers : Covers 0 source ts := tokenize_covers source
  have hslices := hcovers.slice (List.drop_zero : source.drop 0 = source)
  obtain ⟨hbefore, hbehind, hweave⟩ := hcovers.gaps (List.drop_zero : source.drop 0 = source)
  exact ⟨hcovers.pairwise.2, hslices, hbefore, hbehind, hweave⟩

end Lexer

end Quartz
