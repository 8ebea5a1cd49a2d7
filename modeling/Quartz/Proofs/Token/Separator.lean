import Quartz.Proofs.Token.Lexical

/-!
# `Quartz.Proofs.Token.Separator`: blanks keep tokens apart

A blank byte carries no literal on. So a literal is the same token when it stands alone
(`Lexes.alone`), and it stays that token when a blank byte is put anywhere behind it
(`Lexes.append_space`). Only a string that is never closed is different: it takes what comes.

Two uses follow. The literals of a source with spaces between them are a source with the same
tokens (`tokenize_joined_literals`). And a newline is a safe place to join two sources, unless a
string is open at the end of the first (`tokenize_append_newline`).
-/

set_option autoImplicit false

namespace Quartz

open Bytes

variable {pos : Nat} {s gap literal rest : Bytes} {ts : List Token}

/-- A string without its closing quote. -/
def Token.Unclosed (t : Token) : Prop := t.kind = .error ∧ t.literal.head? = some (byte '"')

instance (t : Token) : Decidable t.Unclosed := inferInstanceAs (Decidable (_ ∧ _))

/-- The same token further on in a text. -/
def Token.moved (n : Nat) (t : Token) : Token := { t with offset := t.offset + n }

namespace Lexer

/-! ### One token -/

/-- Nothing carries a literal on where nothing follows. -/
theorem Lexes.alone {kind : Kind} (h : Lexes kind literal rest) : Lexes kind literal [] := by
  cases h with
  | word hs _ => exact .word hs trivial
  | whole hd _ _ => exact .whole hd trivial (fun _ hmore => by cases hmore)
  | fraction hd hf _ => exact .fraction hd hf trivial
  | string hs => exact .string hs
  | pair h => exact .pair h
  | single h _ => exact .single h trivial
  | stray hb h _ => exact .stray hb h trivial
  | unclosed hs hlast => exact .unclosed hs hlast

/-- A blank byte behind a token, however far behind, makes no difference to it. -/
theorem Lexes.append_space {kind : Kind} (h : Lexes kind literal rest)
    (hclosed : ¬ (kind = .error ∧ literal.head? = some (byte '"'))) {c : UInt8}
    (hc : isSpace c = true) (more : Bytes) : Lexes kind literal (rest ++ c :: more) := by
  obtain ⟨hword, hdigit, hjoins⟩ := blank_halts hc
  cases h with
  | word hs hrest => exact .word hs (halts_append_cons hrest hword more)
  | whole hd hrest hpoint =>
    refine .whole hd (halts_append_cons hrest hdigit more) fun behind hbehind => ?_
    -- The blank byte is no point, and behind a point it is no digit.
    cases rest with
    | nil =>
      cases hbehind
      cases hc
    | cons point tail =>
      cases hbehind
      exact halts_append_cons (hpoint tail rfl) hdigit more
  | fraction hd hf hrest => exact .fraction hd hf (halts_append_cons hrest hdigit more)
  | string hs => exact .string hs
  | pair h => exact .pair h
  | single h hrest => exact .single h (halts_append_cons hrest (hjoins _) more)
  | stray hb h hrest => exact .stray hb h (halts_append_cons hrest (hjoins _) more)
  | unclosed => exact absurd ⟨rfl, rfl⟩ hclosed

/-- A string that is not closed goes to the end of the text. -/
theorem Lexes.rest_eq_nil (h : Lexes .error literal rest)
    (hquote : literal.head? = some (byte '"')) : rest = [] := by
  rcases h.of_error with ⟨b, rfl, hb⟩ | ⟨hrest, -⟩
  · exact absurd (Option.some.inj hquote) hb.quote
  · exact hrest

/-! ### Texts side by side -/

theorem Blank.append {final : Bool} {more : Bytes} (h : Blank false gap)
    (hmore : Blank final more) : Blank final (gap ++ more) := by
  induction h with
  | nil => exact hmore
  | space hb _ ih => exact .space hb ih
  | comment ht _ ih =>
    rw [List.cons_append, List.cons_append, List.append_assoc]
    exact .comment ht ih
  | lastComment hf => cases hf

/-- A newline ends the comment that may stand at the end of a text. -/
theorem Blank.append_newline (h : Blank true gap) : Blank false (gap ++ [newline]) := by
  have hlast : Blank false [newline] := .space rfl .nil
  induction h with
  | nil => exact hlast
  | space hb _ ih => exact .space hb ih
  | comment ht _ ih =>
    rw [List.cons_append, List.cons_append, List.append_assoc]
    exact .comment ht ih
  | lastComment _ ht => exact .comment ht .nil

/-- A gap in front of a text has no tokens. -/
theorem Lexed.append_gap (hgap : Blank false gap) (h : Lexed (pos + gap.length) s ts) :
    Lexed pos (gap ++ s) ts := by
  cases h with
  | done hlast => exact .done (hgap.append hlast)
  | @token _ gap' literal rest kind ts hgap' hlexes h =>
    have hlength : pos + gap.length + gap'.length = pos + (gap ++ gap').length := by
      rw [List.length_append, Nat.add_assoc]
    rw [hlength] at h ⊢
    rw [← List.append_assoc]
    exact .token (hgap.append hgap') hlexes h

/-- A text further on has the same tokens, further on. -/
theorem Lexed.moved (h : Lexed pos s ts) (n : Nat) :
    Lexed (pos + n) s (ts.map (Token.moved n)) := by
  induction h with
  | done hgap => exact .done hgap
  | @token pos gap literal rest kind ts hgap hlexes _ ih =>
    have hoffset : Token.moved n ⟨kind, literal, (pos + gap.length : Nat)⟩ =
        ⟨kind, literal, (pos + n + gap.length : Nat)⟩ := by
      simp only [Token.moved, Token.mk.injEq, true_and]
      omega
    rw [Nat.add_right_comm, Nat.add_right_comm pos] at ih
    rw [List.map_cons, hoffset]
    exact .token hgap hlexes ih

/-- Two texts with a newline between them have the tokens of both. -/
theorem Lexed.append {more : Bytes} {us : List Token} (h : Lexed pos s ts)
    (hclosed : ∀ t ∈ ts, ¬ t.Unclosed) (hmore : Lexed (pos + (s.length + 1)) more us) :
    Lexed pos (s ++ newline :: more) (ts ++ us) := by
  induction h with
  | @done pos gap hgap =>
    have hgap' := hgap.append_newline
    rw [List.append_cons, List.nil_append]
    exact .append_gap hgap' (by rwa [List.length_append])
  | @token pos gap literal rest kind ts hgap hlexes _ ih =>
    have hhead := hclosed _ List.mem_cons_self
    have htail := fun t ht => hclosed t (List.mem_cons_of_mem _ ht)
    have hbehind : pos + ((gap ++ (literal ++ rest)).length + 1) =
        pos + gap.length + literal.length + (rest.length + 1) := by
      simp only [List.length_append]
      omega
    rw [hbehind] at hmore
    rw [List.append_assoc, List.append_assoc, List.cons_append]
    exact .token hgap (hlexes.append_space hhead rfl more) (ih htail hmore)

/-! ### Literals with spaces between them -/

/-- The tokens of a line that holds their literals with spaces between them. -/
def spaced : Nat → List Token → List Token
  | _, [] => []
  | pos, t :: ts => { t with offset := pos } :: spaced (pos + t.literal.length + 1) ts

/-- The literals of tokens, with spaces between them, are a text with these tokens. -/
theorem Lexed.spaced (h : Lexed pos s ts) (start : Nat) :
    Lexed start (join [byte ' '] (ts.map Token.literal)) (Lexer.spaced start ts) := by
  induction h generalizing start with
  | done => exact .done .nil
  | @token pos gap literal rest kind ts hgap hlexes hrest ih =>
    have halone := hlexes.alone
    cases ts with
    | nil =>
      have hsingle : Lexed start ([] ++ (literal ++ [])) [⟨kind, literal, (start : Nat)⟩] :=
        .token .nil halone (.done .nil)
      rwa [List.append_nil] at hsingle
    | cons u us =>
      -- What follows an unclosed string is nothing, so this is none.
      have hclosed : ¬ (kind = .error ∧ literal.head? = some (byte '"')) := by
        rintro ⟨rfl, hquote⟩
        rw [hlexes.rest_eq_nil hquote] at hrest
        cases hrest.eq_nil
      have hjoin : join [byte ' '] (literal :: (u :: us).map Token.literal) =
          [] ++ (literal ++
            ([] ++ byte ' ' :: join [byte ' '] ((u :: us).map Token.literal))) := by
        simp [join]
      have hspace : Blank false [byte ' '] := .space rfl .nil
      have hbehind := Lexed.append_gap hspace (ih (start + literal.length + 1))
      rw [List.map_cons, hjoin]
      exact .token .nil (halone.append_space hclosed rfl _) hbehind

theorem map_kind_spaced (pos : Nat) (ts : List Token) :
    (spaced pos ts).map Token.kind = ts.map Token.kind := by
  induction ts generalizing pos with
  | nil => rfl
  | cons t ts ih => rw [spaced, List.map_cons, ih, List.map_cons]

theorem map_literal_spaced (pos : Nat) (ts : List Token) :
    (spaced pos ts).map Token.literal = ts.map Token.literal := by
  induction ts generalizing pos with
  | nil => rfl
  | cons t ts ih => rw [spaced, List.map_cons, ih, List.map_cons]

/-- **Lexing again.** The literals of a source, joined with single spaces, are lexed to as many
tokens, each of the kind and with the literal that it had, error tokens included. -/
theorem tokenize_joined_literals (source : Bytes) :
    let ts := tokenize source
    let us := tokenize (join [byte ' '] (ts.map Token.literal))
    us.length = ts.length ∧
      ∀ i : Nat, us[i]?.map Token.kind = ts[i]?.map Token.kind ∧
        us[i]?.map Token.literal = ts[i]?.map Token.literal := by
  intro ts us
  have hus : us = spaced 0 ts := tokenize_eq_iff.2 ((tokenize_eq_iff.1 rfl).spaced 0)
  have hkinds : us.map Token.kind = ts.map Token.kind := by rw [hus, map_kind_spaced]
  have hliterals : us.map Token.literal = ts.map Token.literal := by rw [hus, map_literal_spaced]
  refine ⟨by simpa using congrArg List.length hkinds, fun i => ⟨?_, ?_⟩⟩
  · rw [← List.getElem?_map, hkinds, List.getElem?_map]
  · rw [← List.getElem?_map, hliterals, List.getElem?_map]

/-- **A newline joins sources.** If no string is left open in a source, then a newline and a second
source behind it leave its tokens as they are, and the tokens of the second source follow, moved
by what stands before them. -/
theorem tokenize_append_newline {source more : Bytes}
    (hclosed : ∀ t ∈ tokenize source, ¬ t.Unclosed) :
    tokenize (source ++ [newline] ++ more) =
      tokenize source ++ (tokenize more).map (Token.moved (source.length + 1)) := by
  have hsource : Lexed 0 source (tokenize source) := tokenize_eq_iff.1 rfl
  have hmore : Lexed 0 more (tokenize more) := tokenize_eq_iff.1 rfl
  rw [List.append_assoc, List.singleton_append]
  exact tokenize_eq_iff.2 (hsource.append hclosed (hmore.moved _))

/-- The first source ends with a comment, behind a number, a point and half an operator. The second
one would carry on each of them, and leaves a string open. -/
theorem tokenize_append_newline_comment :
    let source := utf8 "a = 1.& // b"
    let more := utf8 "5&= \"c"
    (∀ t ∈ tokenize source, ¬ t.Unclosed) ∧
      tokenize (source ++ [newline] ++ more) =
        tokenize source ++ (tokenize more).map (Token.moved (source.length + 1)) ∧
      (tokenize (source ++ [newline] ++ more)).map Token.offset =
        [0, 2, 4, 5, 6, 13, 14, 15, 17] := by
  intro source more
  have hclosed : ∀ t ∈ tokenize source, ¬ t.Unclosed := by decide +kernel
  exact ⟨hclosed, tokenize_append_newline hclosed, by decide +kernel⟩

end Lexer

end Quartz
