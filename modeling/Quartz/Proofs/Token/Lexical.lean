import Quartz.Proofs.Token.Lexer

/-!
# `Quartz.Proofs.Token.Lexical`: the lexical grammar

`Form` lists the literals of each kind of token, and says nothing of what follows them. `Lexes` is
the rule for a token in front of a text: a literal with a form, and a text behind it that does not
carry it on. A word ends where no letter or digit follows, a number where no digit and no fraction
does, and one byte stands alone unless the next one makes it an operator of two bytes or a
comment. Errors have rules of their own. `Lexed` lays tokens and blank gaps side by side.

The rules speak of no scan, and they leave a text no choice. Every text that starts with neither a
blank nor a comment has a token in front (`exists_lexes`), `lexeme` finds it whenever there is one
(`lexeme_of_lexes`), and so the tokens of a source are those that the grammar lays out
(`tokenize_eq_iff`).
-/

set_option autoImplicit false

namespace Quartz

open Bytes

variable {b c : UInt8} {rest s literal ds gap : Bytes} {kind : Kind} {l : Lexer} {ts : List Token}

theorem Kind.ofWord_cases (s : Bytes) : ofWord s = .ident ∨ ofWord s = .keyword := by
  unfold ofWord
  split
  · exact .inr rfl
  · exact .inl rfl

/-- A word has no kind but these two. -/
theorem Kind.ne_ofWord (hi : kind ≠ .ident) (hk : kind ≠ .keyword) (s : Bytes) :
    kind ≠ ofWord s := by
  rcases ofWord_cases s with hword | hword
  · rwa [hword]
  · rwa [hword]

namespace Lexer

/-! ### Where a token ends -/

/-- A text does not go on with a byte that passes a test. -/
def Halts (p : UInt8 → Bool) : Bytes → Prop
  | [] => True
  | c :: _ => p c = false

/-- What has two bytes, and is told from its first byte by the second. -/
def compounds : List Bytes :=
  [utf8 "==", utf8 "!=", utf8 ">=", utf8 "<=", utf8 "&&", utf8 "||", utf8 "//"]

/-- Whether two bytes belong together. -/
def joins (b c : UInt8) : Bool := [b, c] ∈ compounds

theorem halts_append_cons {p : UInt8 → Bool} (h : Halts p s) (hc : p c = false) (rest : Bytes) :
    Halts p (s ++ c :: rest) := by
  cases s with
  | nil => exact hc
  | cons d s => exact h

theorem halts_dropWhile (p : UInt8 → Bool) (s : Bytes) : Halts p (s.dropWhile p) := by
  have hhead := List.head?_dropWhile_not p s
  cases hrest : s.dropWhile p with
  | nil => trivial
  | cons c rest =>
    rw [hrest] at hhead
    exact hhead

/-- A run ends where its text halts. -/
theorem run_append {p : UInt8 → Bool} {w rest : Bytes} (hw : ∀ c ∈ w, p c = true)
    (hrest : Halts p rest) : run p (w ++ rest) = w.length := by
  have hnone : rest.takeWhile p = [] := by
    cases rest with
    | nil => rfl
    | cons c rest => rw [List.takeWhile_cons, if_neg (by simp [show p c = false from hrest])]
  rw [run, List.takeWhile_append_of_pos hw, hnone, List.append_nil]

/-! ### Literals -/

/-- A run of letters and digits that starts with a letter. -/
structure WordRun (s : Bytes) : Prop where
  first : ∃ b, s.head? = some b ∧ isLetter b = true
  all : ∀ c ∈ s, isWord c = true

/-- At least one digit, and nothing else. -/
structure Digits (s : Bytes) : Prop where
  ne_nil : s ≠ []
  all : ∀ d ∈ s, isDigit d = true

/-- What a string holds between its quotes: bytes other than a quote and a backslash, and
backslashes with any byte behind them. -/
inductive Items : Bytes → Prop
  | nil : Items []
  | plain {b : UInt8} {s : Bytes} (hq : b ≠ byte '"') (hb : b ≠ byte '\\') (h : Items s) :
      Items (b :: s)
  | escape {b : UInt8} {s : Bytes} (h : Items s) : Items (byte '\\' :: b :: s)

/-- An operator or a punctuation mark as it is written. -/
def Symbol (kind : Kind) (s : Bytes) : Prop :=
  (kind.isOperator || kind.isPunctuation) = true ∧ s = utf8 kind.name

/-- The literals of a kind of token. Errors have none. -/
inductive Form : Kind → Bytes → Prop
  | word {s : Bytes} (hs : WordRun s) : Form (Kind.ofWord s) s
  | whole {ds : Bytes} (hd : Digits ds) : Form .number ds
  | fraction {ds fs : Bytes} (hd : Digits ds) (hf : Digits fs) : Form .number (ds ++ byte '.' :: fs)
  | string {s : Bytes} (hs : Items s) : Form .string (byte '"' :: (s ++ [byte '"']))
  | symbol {kind : Kind} {s : Bytes} (h : Symbol kind s) : Form kind s

/-! ### Tokens -/

/-- A byte that is not blank, belongs to no word and opens no string. -/
structure Mark (b : UInt8) : Prop where
  space : isSpace b = false
  word : isWord b = false
  quote : b ≠ byte '"'

/-- A token in front of a text: its kind, its literal, and the text behind it, which does not
carry the literal on. The last two rules are those of errors: a byte that starts nothing, and a
string that is never closed. -/
inductive Lexes : Kind → Bytes → Bytes → Prop
  | word {s rest : Bytes} (hs : WordRun s) (hrest : Halts isWord rest) :
      Lexes (Kind.ofWord s) s rest
  | whole {ds rest : Bytes} (hd : Digits ds) (hrest : Halts isDigit rest)
      (hpoint : ∀ more, rest = byte '.' :: more → Halts isDigit more) : Lexes .number ds rest
  | fraction {ds fs rest : Bytes} (hd : Digits ds) (hf : Digits fs) (hrest : Halts isDigit rest) :
      Lexes .number (ds ++ byte '.' :: fs) rest
  | string {s rest : Bytes} (hs : Items s) : Lexes .string (byte '"' :: (s ++ [byte '"'])) rest
  | pair {kind : Kind} {a b : UInt8} {rest : Bytes} (h : Symbol kind [a, b]) :
      Lexes kind [a, b] rest
  | single {kind : Kind} {b : UInt8} {rest : Bytes} (h : Symbol kind [b])
      (hrest : Halts (joins b) rest) : Lexes kind [b] rest
  | stray {b : UInt8} {rest : Bytes} (hb : Mark b) (h : ∀ kind, ¬ Symbol kind [b])
      (hrest : Halts (joins b) rest) : Lexes .error [b] rest
  | unclosed {s last : Bytes} (hs : Items s) (hlast : last = [] ∨ last = [byte '\\']) :
      Lexes .error (byte '"' :: (s ++ last)) []

/-- Tokens and blank gaps that make up a text from a position on. -/
inductive Lexed : Nat → Bytes → List Token → Prop
  | done {pos : Nat} {gap : Bytes} (hgap : Blank true gap) : Lexed pos gap []
  | token {pos : Nat} {gap literal rest : Bytes} {kind : Kind} {ts : List Token}
      (hgap : Blank false gap) (hlexes : Lexes kind literal rest)
      (h : Lexed (pos + gap.length + literal.length) rest ts) :
      Lexed pos (gap ++ (literal ++ rest)) (⟨kind, literal, (pos + gap.length : Nat)⟩ :: ts)

/-! ### Symbols -/

instance (kind : Kind) (s : Bytes) : Decidable (Symbol kind s) :=
  inferInstanceAs (Decidable (_ ∧ _))

theorem symbol_of_pair? {a : UInt8} (h : pair? a b = some kind) : Symbol kind [a, b] := by
  have hcases : (a, b, kind) ∈ [(byte '=', byte '=', Kind.equal), (byte '!', byte '=', .notEqual),
      (byte '>', byte '=', .greaterEqual), (byte '<', byte '=', .lessEqual),
      (byte '&', byte '&', .and), (byte '|', byte '|', .or)] := by
    grind [pair?]
  exact (by decide : ∀ p ∈ _, Symbol p.2.2 [p.1, p.2.1]) _ hcases

theorem symbol_of_single? (h : single? b = some kind) : Symbol kind [b] := by
  obtain ⟨⟨c, kind⟩, hfind, rfl⟩ := Option.map_eq_some_iff.1 h
  obtain rfl : byte c = b := by simpa using List.find?_some hfind
  exact (by decide : ∀ p ∈ _, Symbol p.2 [byte p.1]) _ (List.mem_of_find?_eq_some hfind)

/-- A symbol has one byte or two, and is looked up by them. -/
theorem Symbol.cases (h : Symbol kind s) :
    (∃ b, s = [b] ∧ single? b = some kind ∧ Mark b) ∨
      ∃ a b, s = [a, b] ∧ pair? a b = some kind ∧ s ∈ compounds ∧ Mark a := by
  obtain ⟨hkind, rfl⟩ := h
  cases kind with
  | equal | notEqual | greaterEqual | lessEqual | and | or =>
    exact .inr ⟨_, _, rfl, rfl, by decide, by decide, by decide, by decide⟩
  | error | eof | ident | keyword | number | string | unknown => cases hkind
  | _ => exact .inl ⟨_, rfl, rfl, by decide, by decide, by decide⟩

theorem Symbol.of_pair {a : UInt8} (h : Symbol kind [a, b]) :
    pair? a b = some kind ∧ joins a b = true ∧ Mark a := by
  rcases h.cases with ⟨_, hs, _⟩ | ⟨a', b', hs, hpair, hmem, hmark⟩
  · cases hs
  · cases hs
    exact ⟨hpair, decide_eq_true hmem, hmark⟩

theorem Symbol.of_single (h : Symbol kind [b]) : single? b = some kind ∧ Mark b := by
  rcases h.cases with ⟨b', hs, hsingle, hmark⟩ | ⟨_, _, hs, _⟩
  · cases hs
    exact ⟨hsingle, hmark⟩
  · cases hs

theorem compound_cases (h : s ∈ compounds) :
    s.length = 2 ∧ ((∃ kind, Symbol kind s) ∨ s = utf8 "//") := by
  have hall : ∀ s ∈ compounds, s.length = 2 ∧
      ((∃ kind ∈ Kind.numbered, Symbol kind s) ∨ s = utf8 "//") := by decide
  obtain ⟨hlength, ⟨kind, -, hsymbol⟩ | hcomment⟩ := hall s h
  · exact ⟨hlength, .inl ⟨kind, hsymbol⟩⟩
  · exact ⟨hlength, .inr hcomment⟩

/-- Two bytes belong together as an operator, or as the mark of a comment. -/
theorem joins_eq_true_iff :
    joins b c = true ↔ (∃ kind, Symbol kind [b, c]) ∨ (b = byte '/' ∧ c = byte '/') := by
  constructor
  · intro h
    rcases (compound_cases (of_decide_eq_true h)).2 with hsymbol | hcomment
    · exact .inl hsymbol
    · cases hcomment
      exact .inr ⟨rfl, rfl⟩
  · rintro (⟨kind, hsymbol⟩ | ⟨rfl, rfl⟩)
    · exact hsymbol.of_pair.2.1
    · decide

theorem mark_of_joins (h : joins b c = true) : Mark c := by
  have hmem : [b, c] ∈ compounds := of_decide_eq_true h
  simp only [compounds, List.mem_cons, List.not_mem_nil, or_false] at hmem
  rcases hmem with h | h | h | h | h | h | h <;> cases h <;>
    exact ⟨by decide, by decide, by decide⟩

/-- A blank byte belongs to nothing before it. -/
theorem blank_halts (h : isSpace c = true) :
    isWord c = false ∧ isDigit c = false ∧ ∀ b, joins b c = false := by
  have hjoins : ∀ b, joins b c = false :=
    fun b => Bool.eq_false_iff.2 fun hb => by cases h.symm.trans (mark_of_joins hb).space
  simp only [isSpace, Bool.or_eq_true, decide_eq_true_eq] at h
  refine ⟨?_, ?_, hjoins⟩
  · rcases h with ((rfl | rfl) | rfl) | rfl <;> decide
  · rcases h with ((rfl | rfl) | rfl) | rfl <;> decide

/-- The byte of a mark is in none of the classes that are tried before symbols. -/
theorem Mark.lexeme (h : Mark b) (rest : Bytes) :
    lexeme b rest = ((rest.head?.bind (pair? b)).map fun kind => (kind, 2)).getD
      ((single? b).getD .error, 1) := by
  have hword := h.word
  simp only [isWord, Bool.or_eq_false_iff] at hword
  rw [Lexer.lexeme, if_neg (by simp [hword.1]), if_neg (by simp [hword.2]), if_neg h.quote]
  cases rest.head?.bind (pair? b) <;> rfl

/-! ### Strings -/

theorem stringLength?_quote (rest : Bytes) : stringLength? (byte '"' :: rest) = some 1 := by
  rw [stringLength?.eq_def]
  exact if_pos rfl

theorem stringLength?_plain (hq : b ≠ byte '"') (hb : b ≠ byte '\\') (rest : Bytes) :
    stringLength? (b :: rest) = (stringLength? rest).map (· + 1) := by
  rw [stringLength?.eq_def]
  dsimp only
  rw [if_neg hq, if_neg hb]

theorem stringLength?_escape (b : UInt8) (rest : Bytes) :
    stringLength? (byte '\\' :: b :: rest) = (stringLength? rest).map (· + 2) := by
  rw [stringLength?.eq_def]
  dsimp only
  rw [if_neg (by decide), if_pos rfl]

/-- The scan goes over items and counts them. -/
theorem Items.stringLength?_append (h : Items s) (rest : Bytes) :
    stringLength? (s ++ rest) = (stringLength? rest).map (· + s.length) := by
  induction h with
  | nil => simp
  | plain hq hb _ ih =>
    rw [List.cons_append, stringLength?_plain hq hb, ih, Option.map_map]
    rfl
  | escape _ ih =>
    rw [List.cons_append, List.cons_append, stringLength?_escape, ih, Option.map_map]
    rfl

/-- Behind an opening quote, items go up to a closing quote or to the end of the text. -/
theorem exists_items (s : Bytes) :
    ∃ items, Items items ∧
      ((∃ rest, s = items ++ byte '"' :: rest) ∨
        ∃ last, s = items ++ last ∧ (last = [] ∨ last = [byte '\\'])) := by
  -- Along the scan for the closing quote, which takes an escape in one step.
  fun_induction stringLength? s with
  | case1 => exact ⟨[], .nil, .inr ⟨[], rfl, .inl rfl⟩⟩
  | case2 rest => exact ⟨[], .nil, .inl ⟨rest, rfl⟩⟩
  | case3 => exact ⟨[], .nil, .inr ⟨_, rfl, .inr rfl⟩⟩
  | case4 b more _ ih =>
    obtain ⟨items, hitems, ⟨rest, rfl⟩ | ⟨last, rfl, hlast⟩⟩ := ih
    · exact ⟨_, hitems.escape, .inl ⟨rest, rfl⟩⟩
    · exact ⟨_, hitems.escape, .inr ⟨last, rfl, hlast⟩⟩
  | case5 b rest hq hb ih =>
    obtain ⟨items, hitems, ⟨rest, rfl⟩ | ⟨last, rfl, hlast⟩⟩ := ih
    · exact ⟨_, hitems.plain hq hb, .inl ⟨rest, rfl⟩⟩
    · exact ⟨_, hitems.plain hq hb, .inr ⟨last, rfl, hlast⟩⟩

/-! ### Words and numbers -/

theorem wordRun_cons_iff : WordRun (b :: s) ↔ isLetter b = true ∧ ∀ c ∈ s, isWord c = true := by
  constructor
  · rintro ⟨⟨b', hhead, hb⟩, hall⟩
    cases hhead
    exact ⟨hb, fun c hc => hall c (List.mem_cons_of_mem _ hc)⟩
  · rintro ⟨hb, hs⟩
    exact ⟨⟨b, rfl, hb⟩, List.forall_mem_cons.2 ⟨by simp [isWord, hb], hs⟩⟩

theorem WordRun.exists_cons (h : WordRun s) :
    ∃ b tail, s = b :: tail ∧ isLetter b = true ∧ ∀ c ∈ tail, isWord c = true := by
  cases s with
  | nil =>
    obtain ⟨_, hhead, _⟩ := h.first
    cases hhead
  | cons b tail => exact ⟨b, tail, rfl, wordRun_cons_iff.1 h⟩

theorem WordRun.append {more : Bytes} (h : WordRun s) (hmore : ∀ c ∈ more, isWord c = true) :
    WordRun (s ++ more) := by
  obtain ⟨b, tail, rfl, hb, htail⟩ := h.exists_cons
  exact wordRun_cons_iff.2 ⟨hb, List.forall_mem_append.2 ⟨htail, hmore⟩⟩

theorem Digits.exists_cons (h : Digits ds) : ∃ d tail, ds = d :: tail ∧ isDigit d = true := by
  cases ds with
  | nil => exact absurd rfl h.ne_nil
  | cons d tail => exact ⟨d, tail, rfl, h.all d List.mem_cons_self⟩

theorem Digits.append {more : Bytes} (h : Digits ds) (hmore : ∀ d ∈ more, isDigit d = true) :
    Digits (ds ++ more) where
  ne_nil := by simp [h.ne_nil]
  all := List.forall_mem_append.2 ⟨h.all, hmore⟩

theorem isLetter_of_isDigit (h : isDigit b = true) : isLetter b = false := by
  grind [isDigit, isLetter]

theorem numberLength_whole (hd : Digits ds) (hrest : Halts isDigit rest)
    (hpoint : ∀ more, rest = byte '.' :: more → Halts isDigit more) :
    numberLength (ds ++ rest) = ds.length := by
  have hrun := run_append hd.all hrest
  unfold numberLength
  dsimp only
  rw [hrun, List.drop_left]
  cases rest with
  | nil => rfl
  | cons point more =>
    refine if_neg fun h => ?_
    simp only [Bool.and_eq_true, decide_eq_true_eq] at h
    -- Behind a point there is no digit, so that no run starts there.
    obtain ⟨rfl, hlong⟩ := h
    have hnone := @run_append isDigit [] more (by simp) (hpoint more rfl)
    rw [List.nil_append, List.length_nil] at hnone
    omega

theorem numberLength_fraction {fs : Bytes} (hd : Digits ds) (hf : Digits fs)
    (hrest : Halts isDigit rest) :
    numberLength (ds ++ byte '.' :: fs ++ rest) = (ds ++ byte '.' :: fs).length := by
  have hpoint : isDigit (byte '.') = false := by decide
  have hwhole : run isDigit (ds ++ byte '.' :: (fs ++ rest)) = ds.length :=
    run_append hd.all hpoint
  have hlong : 0 < fs.length := List.length_pos_iff.2 hf.ne_nil
  rw [List.append_assoc, List.cons_append]
  unfold numberLength
  dsimp only
  rw [hwhole, List.drop_left]
  dsimp only
  rw [run_append hf.all hrest, if_pos (by simp [hlong]), List.length_append, List.length_cons]
  omega

/-! ### Gaps -/

theorem skipFrom_true_append {text : Bytes} (h : newline ∉ text) (rest : Bytes) :
    skipFrom true (text ++ newline :: rest) = skipFrom false rest := by
  induction text with
  | nil => rfl
  | cons b text ih =>
    rw [List.mem_cons, not_or] at h
    have hstays : (b != newline) = true := bne_iff_ne.2 fun hb => h.1 hb.symm
    rw [List.cons_append, skipFrom, hstays]
    exact ih h.2

theorem skipFrom_true_of_not_mem {text : Bytes} (h : newline ∉ text) : skipFrom true text = [] := by
  rcases skipFrom_true_cases text with ⟨_, hend⟩ | ⟨_, _, rfl, _⟩
  · exact hend
  · simp at h

theorem skip_slashes (s : Bytes) : skip (byte '/' :: byte '/' :: s) = skipFrom true s := by
  rfl

theorem skip_space (h : isSpace b = true) (s : Bytes) : skip (b :: s) = skip s := by
  rw [skip, skipFrom, if_pos h, skip]

/-- A gap is skipped. -/
theorem Blank.skip_append (h : Blank false gap) (s : Bytes) : skip (gap ++ s) = skip s := by
  induction h with
  | nil => rfl
  | space hb _ ih => rw [List.cons_append, skip_space hb, ih]
  | comment ht _ ih =>
    rw [List.cons_append, List.cons_append, List.append_assoc, List.cons_append, skip_slashes,
      skipFrom_true_append ht]
    exact ih
  | lastComment hf => cases hf

/-- A gap at the end is skipped up to the end. -/
theorem Blank.skip_eq_nil (h : Blank true gap) : skip gap = [] := by
  induction h with
  | nil => rfl
  | space hb _ ih => rw [skip_space hb, ih]
  | comment ht _ ih => rw [skip_slashes, skipFrom_true_append ht, ← skip, ih]
  | lastComment _ ht => rw [skip_slashes, skipFrom_true_of_not_mem ht]

theorem slashes_prefix_iff :
    utf8 "//" <+: b :: rest ↔ b = byte '/' ∧ rest.head? = some (byte '/') := by
  constructor
  · rintro ⟨more, hmore⟩
    cases hmore
    exact ⟨rfl, rfl⟩
  · rintro ⟨rfl, hhead⟩
    obtain ⟨more, rfl⟩ := List.head?_eq_some_iff.1 hhead
    exact ⟨more, rfl⟩

/-- Skipping stops in front of a byte that starts neither a blank nor a comment. -/
theorem of_skipFrom_eq_cons {c : Bool} (h : skipFrom c s = b :: rest) :
    isSpace b = false ∧ ¬ utf8 "//" <+: b :: rest := by
  rw [slashes_prefix_iff]
  fun_induction skipFrom c s with
  | case1 => cases h
  | case2 _ _ ih => exact ih h
  | case3 _ _ _ ih => exact ih h
  | case4 _ _ _ _ ih => exact ih h
  | case5 b' rest' hspace hslash =>
    cases h
    exact ⟨Bool.eq_false_iff.2 hspace, by simpa using hslash⟩

theorem skip_eq_self (hspace : isSpace b = false) (hcomment : ¬ utf8 "//" <+: b :: rest) :
    skip (b :: rest) = b :: rest := by
  rw [slashes_prefix_iff] at hcomment
  rw [skip, skipFrom, if_neg (by simp [hspace]), if_neg (by simpa using hcomment)]

/-! ### One token -/

/-- Every token has a first byte, which starts neither a blank nor a comment. -/
theorem Lexes.exists_cons (h : Lexes kind literal rest) :
    ∃ b tail, literal = b :: tail ∧ isSpace b = false ∧ ¬ utf8 "//" <+: b :: (tail ++ rest) := by
  have hother : ∀ {b : UInt8} {s : Bytes}, b ≠ byte '/' → ¬ utf8 "//" <+: b :: s :=
    fun hb hslashes => hb (slashes_prefix_iff.1 hslashes).1
  have hword : ∀ {b : UInt8}, isWord b = true → isSpace b = false ∧ b ≠ byte '/' := by
    intro b hb
    refine ⟨Bool.eq_false_iff.2 fun hspace => ?_, ?_⟩
    · cases hb.symm.trans (blank_halts hspace).1
    · rintro rfl
      cases hb
  have hsingle : ∀ {b : UInt8}, Halts (joins b) rest → ¬ utf8 "//" <+: b :: rest := by
    rintro b hrest hslashes
    obtain ⟨rfl, hhead⟩ := slashes_prefix_iff.1 hslashes
    obtain ⟨more, rfl⟩ := List.head?_eq_some_iff.1 hhead
    cases hrest
  cases h with
  | word hs _ =>
    obtain ⟨b, tail, rfl, hb, -⟩ := hs.exists_cons
    obtain ⟨hspace, hslash⟩ := hword (hs.all b List.mem_cons_self)
    exact ⟨b, tail, rfl, hspace, hother hslash⟩
  | whole hd _ _ =>
    obtain ⟨d, tail, rfl, hdigit⟩ := hd.exists_cons
    obtain ⟨hspace, hslash⟩ := @hword d (by simp [isWord, hdigit])
    exact ⟨d, tail, rfl, hspace, hother hslash⟩
  | fraction hd _ _ =>
    obtain ⟨d, tail, rfl, hdigit⟩ := hd.exists_cons
    obtain ⟨hspace, hslash⟩ := @hword d (by simp [isWord, hdigit])
    exact ⟨d, _, rfl, hspace, hother hslash⟩
  | string => exact ⟨_, _, rfl, by decide, hother (by decide)⟩
  | @pair kind a b rest h =>
    refine ⟨a, [b], rfl, h.of_pair.2.2.space, fun hslashes => ?_⟩
    obtain ⟨rfl, hhead⟩ := slashes_prefix_iff.1 hslashes
    cases hhead
    cases h.of_pair.1
  | single h hrest => exact ⟨_, [], rfl, h.of_single.2.space, hsingle hrest⟩
  | stray hb _ hrest => exact ⟨_, [], rfl, hb.space, hsingle hrest⟩
  | unclosed => exact ⟨_, _, rfl, by decide, hother (by decide)⟩

theorem pair?_of_halts (h : Halts (joins b) rest) : rest.head?.bind (pair? b) = none := by
  cases rest with
  | nil => rfl
  | cons c rest =>
    cases hpair : pair? b c with
    | none => exact hpair
    | some kind =>
      have hjoins := joins_eq_true_iff.2 (.inl ⟨kind, symbol_of_pair? hpair⟩)
      cases hjoins.symm.trans h

/-- The token in front of a text is the one that is read. -/
theorem lexeme_of_lexes (h : Lexes kind literal rest) {tail : Bytes}
    (hliteral : literal = b :: tail) : lexeme b (tail ++ rest) = (kind, literal.length) := by
  cases h with
  | word hs hrest =>
    subst hliteral
    obtain ⟨hb, htail⟩ := wordRun_cons_iff.1 hs
    rw [lexeme, if_pos hb]
    dsimp only
    rw [run_append htail hrest, Nat.add_comm, ← List.cons_append, List.take_left' (by simp)]
    rfl
  | whole hd hrest hpoint =>
    have hb := hd.all b (by simp [hliteral])
    rw [lexeme, if_neg (by simp [isLetter_of_isDigit hb]), if_pos hb, ← List.cons_append,
      ← hliteral, numberLength_whole hd hrest hpoint]
  | fraction hd hf hrest =>
    have hb : isDigit b = true := by
      obtain ⟨d, ds, rfl, hb⟩ := hd.exists_cons
      rwa [(List.cons.inj hliteral).1] at hb
    rw [lexeme, if_neg (by simp [isLetter_of_isDigit hb]), if_pos hb, ← List.cons_append,
      ← hliteral, numberLength_fraction hd hf hrest]
  | string hs =>
    cases hliteral
    rw [lexeme, if_neg (by decide), if_neg (by decide), if_pos rfl, List.append_assoc,
      List.singleton_append, hs.stringLength?_append, stringLength?_quote]
    simp [Nat.add_comm]
  | pair h =>
    cases hliteral
    obtain ⟨hpair, -, hmark⟩ := h.of_pair
    rw [hmark.lexeme]
    simp [hpair]
  | single h hrest =>
    cases hliteral
    obtain ⟨hsingle, hmark⟩ := h.of_single
    rw [List.nil_append, hmark.lexeme, pair?_of_halts hrest, hsingle]
    rfl
  | stray hmark h hrest =>
    cases hliteral
    have hsingle : single? b = none := by
      cases hsingle : single? b with
      | none => rfl
      | some kind => exact absurd (symbol_of_single? hsingle) (h kind)
    rw [List.nil_append, hmark.lexeme, pair?_of_halts hrest, hsingle]
    rfl
  | @unclosed s last hs hlast =>
    cases hliteral
    have hnone : stringLength? last = none := by
      rcases hlast with rfl | rfl <;> rfl
    rw [lexeme, if_neg (by decide), if_neg (by decide), if_pos rfl, List.append_nil,
      hs.stringLength?_append, hnone]
    rfl

/-- The grammar has one token for a text. -/
theorem Lexes.unique {kind' : Kind} {literal' rest' : Bytes} (h : Lexes kind literal rest)
    (h' : Lexes kind' literal' rest') (htext : literal ++ rest = literal' ++ rest') :
    kind = kind' ∧ literal = literal' := by
  obtain ⟨b, tail, rfl, -, -⟩ := h.exists_cons
  obtain ⟨b', tail', rfl, -, -⟩ := h'.exists_cons
  have hread := lexeme_of_lexes h rfl
  have hread' := lexeme_of_lexes h' rfl
  obtain ⟨rfl, htail⟩ := List.cons.inj htext
  rw [show tail ++ rest = tail' ++ rest' from htail, hread'] at hread
  obtain ⟨hkind, hlength⟩ := Prod.mk.inj hread
  exact ⟨hkind.symm, (List.append_inj htext hlength.symm).1⟩

/-- Digits are carried on to a number: by digits, and by a point with digits behind it. -/
theorem Digits.exists_lexes (h : Digits ds) (rest : Bytes) :
    ∃ more behind, rest = more ++ behind ∧ Lexes .number (ds ++ more) behind := by
  have hds : Digits (ds ++ rest.takeWhile isDigit) :=
    h.append (List.all_eq_true.1 List.all_takeWhile)
  have hhalts := halts_dropWhile isDigit rest
  have hsplit := List.takeWhile_append_dropWhile (p := isDigit) (l := rest)
  by_cases hpoint : ∃ f more, rest.dropWhile isDigit = byte '.' :: f :: more ∧ isDigit f = true
  · obtain ⟨f, more, hdrop, hf⟩ := hpoint
    have hfs : Digits ([f] ++ more.takeWhile isDigit) :=
      Digits.append ⟨by simp, by simpa using hf⟩ (List.all_eq_true.1 List.all_takeWhile)
    refine ⟨rest.takeWhile isDigit ++ byte '.' :: ([f] ++ more.takeWhile isDigit),
      more.dropWhile isDigit, ?_, ?_⟩
    · rw [List.append_assoc, List.cons_append, List.append_assoc, List.takeWhile_append_dropWhile,
        List.singleton_append, ← hdrop, hsplit]
    · rw [← List.append_assoc]
      exact .fraction hds hfs (halts_dropWhile isDigit more)
  · refine ⟨_, _, hsplit.symm, .whole hds hhalts fun more hdrop => ?_⟩
    cases more with
    | nil => trivial
    | cons f more => exact Bool.eq_false_iff.2 fun hf => hpoint ⟨f, more, hdrop, hf⟩

/-- A token that is no error has a form. -/
theorem Lexes.form (h : Lexes kind literal rest) (hkind : kind ≠ .error) : Form kind literal := by
  cases h with
  | word hs _ => exact .word hs
  | whole hd _ _ => exact .whole hd
  | fraction hd hf _ => exact .fraction hd hf
  | string hs => exact .string hs
  | pair h => exact .symbol h
  | single h _ => exact .symbol h
  | stray => exact absurd rfl hkind
  | unclosed => exact absurd rfl hkind

/-- An error is a byte that starts nothing, or a string up to the end of the text. -/
theorem Lexes.of_error (h : Lexes .error literal rest) :
    (∃ b, literal = [b] ∧ Mark b) ∨
      (rest = [] ∧ ∃ items last, Items items ∧ (last = [] ∨ last = [byte '\\']) ∧
        literal = byte '"' :: (items ++ last)) := by
  generalize hkind : Kind.error = kind at h
  cases h with
  | word => exact absurd hkind (Kind.ne_ofWord (by decide) (by decide) literal)
  | pair h => subst hkind; cases h.1
  | single h => subst hkind; cases h.1
  | stray hb => exact .inl ⟨_, rfl, hb⟩
  | unclosed hs hlast => exact .inr ⟨rfl, _, _, hs, hlast, rfl⟩
  | _ => cases hkind

/-- A literal with a form is carried on as far as it goes, unless it starts a comment. One that
is not carried on at all is a token of its kind. -/
theorem Form.exists_lexes (h : Form kind s) (hcomment : ¬ utf8 "//" <+: s ++ rest) :
    ∃ kind' more behind, rest = more ++ behind ∧ Lexes kind' (s ++ more) behind ∧
      Form kind' (s ++ more) ∧ (more = [] → kind' = kind) := by
  cases h with
  | word hs =>
    have hrun := hs.append (List.all_eq_true.1 (List.all_takeWhile (p := isWord) (l := rest)))
    refine ⟨_, rest.takeWhile isWord, rest.dropWhile isWord, ?_,
      .word hrun (halts_dropWhile isWord rest), .word hrun, fun hmore => ?_⟩
    · rw [List.takeWhile_append_dropWhile]
    · rw [hmore, List.append_nil]
  | whole hd =>
    obtain ⟨more, behind, hrest, hlexes⟩ := hd.exists_lexes rest
    exact ⟨_, more, behind, hrest, hlexes, hlexes.form (by decide), fun _ => rfl⟩
  | @fraction ds fs hd hf =>
    have hfs := hf.append (List.all_eq_true.1 (List.all_takeWhile (p := isDigit) (l := rest)))
    have hlexes := Lexes.fraction hd hfs (halts_dropWhile isDigit rest)
    rw [← List.cons_append, ← List.append_assoc] at hlexes
    exact ⟨_, _, _, List.takeWhile_append_dropWhile.symm, hlexes, hlexes.form (by decide),
      fun _ => rfl⟩
  | string hs =>
    refine ⟨_, [], rest, rfl, ?_, ?_, fun _ => rfl⟩
    · rw [List.append_nil]
      exact .string hs
    · rw [List.append_nil]
      exact .string hs
  | symbol hs =>
    rcases hs.cases with ⟨b, rfl, _⟩ | ⟨a, b, rfl, _⟩
    · by_cases hrest : Halts (joins b) rest
      · exact ⟨kind, [], rest, rfl, .single hs hrest, .symbol hs, fun _ => rfl⟩
      · -- The next byte joins in, and if it makes no comment it makes an operator.
        cases rest with
        | nil => exact absurd trivial hrest
        | cons c rest =>
          have hjoins : joins b c = true := Bool.not_eq_false _ ▸ hrest
          rcases joins_eq_true_iff.1 hjoins with ⟨kind', hpair⟩ | ⟨rfl, rfl⟩
          · exact ⟨kind', [c], rest, rfl, .pair hpair, .symbol hpair, fun h => by cases h⟩
          · exact absurd (slashes_prefix_iff.2 ⟨rfl, rfl⟩) hcomment
    · exact ⟨kind, [], rest, rfl, .pair hs, .symbol hs, fun _ => rfl⟩

/-- Where neither a blank nor a comment starts, there is a token. -/
theorem exists_lexes (hspace : isSpace b = false) (hcomment : ¬ utf8 "//" <+: b :: rest) :
    ∃ kind literal behind, b :: rest = literal ++ behind ∧ Lexes kind literal behind := by
  by_cases hform : ∃ kind s tail, Form kind s ∧ b :: rest = s ++ tail
  · obtain ⟨kind, s, tail, hform, htext⟩ := hform
    rw [htext] at hcomment ⊢
    obtain ⟨kind', more, behind, rfl, hlexes, -, -⟩ := hform.exists_lexes hcomment
    exact ⟨kind', s ++ more, behind, (List.append_assoc _ _ _).symm, hlexes⟩
  -- No form fits, so that there is an error.
  have hnone : ∀ {kind : Kind} {s : Bytes} (tail : Bytes), Form kind s → b :: rest ≠ s ++ tail :=
    fun tail hs htext => hform ⟨_, _, tail, hs, htext⟩
  by_cases hquote : b = byte '"'
  · subst hquote
    obtain ⟨items, hitems, ⟨behind, rfl⟩ | ⟨last, rfl, hlast⟩⟩ := exists_items rest
    · exact (hnone behind (.string hitems) (by simp)).elim
    · exact ⟨.error, _, [], by simp, .unclosed hitems hlast⟩
  · have hword : isWord b = false := by
      refine Bool.eq_false_iff.2 fun hword => ?_
      rcases Bool.or_eq_true _ _ ▸ hword with hletter | hdigit
      · have hrun : WordRun [b] := wordRun_cons_iff.2 ⟨hletter, by simp⟩
        exact hnone rest (.word hrun) rfl
      · have hdigits : Digits [b] := ⟨by simp, by simpa using hdigit⟩
        exact hnone rest (.whole hdigits) rfl
    have hsymbol : ∀ kind, ¬ Symbol kind [b] := fun kind hs => hnone rest (.symbol hs) rfl
    have hrest : Halts (joins b) rest := by
      cases rest with
      | nil => trivial
      | cons c rest =>
        refine Bool.eq_false_iff.2 fun hjoins => ?_
        rcases joins_eq_true_iff.1 hjoins with ⟨kind, hpair⟩ | ⟨rfl, rfl⟩
        · exact hnone rest (.symbol hpair) rfl
        · exact hcomment (slashes_prefix_iff.2 ⟨rfl, rfl⟩)
    exact ⟨.error, [b], rest, rfl, .stray ⟨hspace, hword, hquote⟩ hsymbol hrest⟩

/-! ### The whole text -/

/-- A step of the scan takes the token in front. -/
theorem step?_of_lexes (hl : l.rest = gap ++ (literal ++ rest)) (hgap : Blank false gap)
    (h : Lexes kind literal rest) :
    l.step? = some (⟨kind, literal, (l.length : Int) - (literal ++ rest).length⟩,
      { l with rest := rest }) := by
  obtain ⟨b, tail, rfl, hspace, hcomment⟩ := h.exists_cons
  have hskip : skip l.rest = b :: (tail ++ rest) := by
    rw [hl, hgap.skip_append, List.cons_append, skip_eq_self hspace hcomment]
  unfold step?
  rw [hskip]
  dsimp only
  rw [lexeme_of_lexes h rfl]
  dsimp only
  rw [← List.cons_append, List.take_left, List.length_cons, Nat.add_sub_cancel, List.drop_left]

theorem step?_of_blank (h : Blank true l.rest) : l.step? = none := by
  unfold step?
  rw [h.skip_eq_nil]

/-- Every text is a gap, or a gap with a token behind it. -/
theorem exists_gap (s : Bytes) :
    Blank true s ∨ ∃ kind gap literal rest, s = gap ++ (literal ++ rest) ∧ Blank false gap ∧
      Lexes kind literal rest := by
  obtain ⟨gap, hgap, hblank⟩ := skip_blank s
  cases hskip : skip s with
  | nil =>
    rw [hskip] at hgap hblank
    rw [hgap, List.append_nil]
    exact .inl hblank
  | cons b rest =>
    rw [hskip] at hgap hblank
    obtain ⟨hspace, hcomment⟩ := of_skipFrom_eq_cons hskip
    obtain ⟨kind, literal, behind, hsplit, hlexes⟩ := exists_lexes hspace hcomment
    exact .inr ⟨kind, gap, literal, behind, by rw [← hsplit, hgap], hblank, hlexes⟩

/-- The grammar has tokens for every text. -/
theorem exists_lexed (pos : Nat) (s : Bytes) : ∃ ts, Lexed pos s ts := by
  induction hlen : s.length using Nat.strongRecOn generalizing pos s with
  | _ n ih =>
    rcases exists_gap s with hblank | ⟨kind, gap, literal, rest, rfl, hgap, hlexes⟩
    · exact ⟨[], .done hblank⟩
    · obtain ⟨b, tail, rfl, -, -⟩ := hlexes.exists_cons
      simp only [List.length_append, List.length_cons] at hlen
      obtain ⟨ts, hts⟩ := ih rest.length (by omega) (pos + gap.length + (b :: tail).length) rest rfl
      exact ⟨_, .token hgap hlexes hts⟩

/-- An empty text has no tokens. -/
theorem Lexed.eq_nil {pos : Nat} (h : Lexed pos [] ts) : ts = [] := by
  generalize hs : ([] : Bytes) = s at h
  cases h with
  | done => rfl
  | token _ hlexes _ =>
    obtain ⟨b, tail, rfl, -, -⟩ := hlexes.exists_cons
    simp at hs

/-- The scan finds the tokens that the grammar has for what is left. -/
theorem tokens_of_lexed {pos : Nat} (h : Lexed pos l.rest ts)
    (hpos : pos + l.rest.length = l.length) : l.tokens = ts := by
  generalize hrest : l.rest = s at h
  induction h generalizing l with
  | done hgap =>
    have hstep : l.step? = none := step?_of_blank (hrest ▸ hgap)
    rw [tokens]
    split
    · rfl
    · next heq => cases heq.symm.trans hstep
  | @token pos gap literal rest kind ts hgap hlexes _ ih =>
    have hstep := step?_of_lexes hrest hgap hlexes
    rw [hrest, List.length_append, List.length_append] at hpos
    have hoffset : (l.length : Int) - (literal ++ rest).length = (pos + gap.length : Nat) := by
      rw [List.length_append]
      omega
    rw [hoffset] at hstep
    have hbehind : ({ l with rest := rest } : Lexer).tokens = ts := ih (by dsimp only; omega) rfl
    rw [tokens]
    split
    · next heq => cases heq.symm.trans hstep
    · next t l' heq =>
        cases heq.symm.trans hstep
        rw [hbehind]

/-- **The lexer implements the grammar.** The tokens of a source are the ones that make it up
together with blank gaps, and by the rules of the grammar there is one way to do so. -/
theorem tokenize_eq_iff {source : Bytes} : tokenize source = ts ↔ Lexed 0 source ts := by
  have hall : ∀ us, Lexed 0 source us → tokenize source = us :=
    fun us h => tokens_of_lexed (l := ofSource source) h (Nat.zero_add _)
  constructor
  · rintro rfl
    obtain ⟨us, hus⟩ := exists_lexed 0 source
    rwa [hall us hus]
  · exact hall ts

end Lexer

end Quartz
