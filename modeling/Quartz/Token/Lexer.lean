import Quartz.Token.Basic

/-!
# `Quartz.Token.Lexer`: from bytes to tokens

The lexer reads bytes. Blanks and comments from `//` to the end of the line
separate tokens and are dropped; every other byte belongs to exactly one
token. `lexeme` gives the kind and the length of the token at the front of
a text, always the longest one of its class, and a length of at least one,
so the scan ends.

A byte that starts no token is an error token of its own, and a string
that is never closed is an error token up to the end of the text. Errors
do not stop the scan.
-/

set_option autoImplicit false

namespace Quartz

namespace Lexer

open Bytes

/-- A byte that separates tokens. -/
def isSpace (b : UInt8) : Bool := b = 32 || b = 9 || b = 10 || b = 13

/-- A byte that may start a name: an ASCII letter, the underscore, or any
byte of a character beyond ASCII. -/
def isLetter (b : UInt8) : Bool :=
  (97 ≤ b && b ≤ 122) || (65 ≤ b && b ≤ 90) || b = 95 || 128 ≤ b

/-- A byte that may continue a name. -/
def isWord (b : UInt8) : Bool := isLetter b || isDigit b

/-- The text after the blanks and comments in front, inside a comment if
the flag says so. -/
def skipFrom : Bool → Bytes → Bytes
  | _, [] => []
  | true, b :: rest => skipFrom (b != newline) rest
  | false, b :: rest =>
    if isSpace b then skipFrom false rest
    else if b = byte '/' && rest.head? = some (byte '/') then skipFrom true rest
    else b :: rest

/-- The text after the blanks and comments in front. -/
def skip (s : Bytes) : Bytes := skipFrom false s

/-- The number of leading bytes that satisfy a test. -/
def run (p : UInt8 → Bool) (s : Bytes) : Nat := (s.takeWhile p).length

/-- The length of the number at the front: digits, and a fraction if a
digit follows the point. -/
def numberLength (s : Bytes) : Nat :=
  let whole := run isDigit s
  match s.drop whole with
  | point :: fraction =>
    if point = byte '.' && 0 < run isDigit fraction then whole + 1 + run isDigit fraction
    else whole
  | [] => whole

/-- The length of what follows an opening quote, up to and with the
closing one. A backslash takes the next byte with it, whatever it is. -/
def stringLength? : Bytes → Option Nat
  | [] => none
  | b :: rest =>
    if b = byte '"' then some 1
    else if b = byte '\\' then
      match rest with
      | [] => none
      | _ :: more => (stringLength? more).map (· + 2)
    else (stringLength? rest).map (· + 1)

/-- The operators of two bytes. -/
def pair? (a b : UInt8) : Option Kind :=
  if b = byte '=' then
    if a = byte '=' then some .equal
    else if a = byte '!' then some .notEqual
    else if a = byte '>' then some .greaterEqual
    else if a = byte '<' then some .lessEqual
    else none
  else if a = byte '&' && b = byte '&' then some .and
  else if a = byte '|' && b = byte '|' then some .or
  else none

/-- The operators and the punctuation of one byte. -/
def single? (b : UInt8) : Option Kind :=
  ([('+', Kind.plus), ('-', .minus), ('*', .asterisk), ('/', .slash), ('%', .percent),
    ('>', .greater), ('<', .less), ('!', .not), ('\x7b', .leftBrace), ('\x7d', .rightBrace),
    ('(', .leftParen), (')', .rightParen), (';', .semicolon), ('=', .assign),
    (',', .comma)].find? fun p => byte p.1 = b).map Prod.snd

/-- The kind and the length of the token that starts with `b`. -/
def lexeme (b : UInt8) (rest : Bytes) : Kind × Nat :=
  if isLetter b then
    let n := 1 + run isWord rest
    (Kind.ofWord ((b :: rest).take n), n)
  else if isDigit b then (.number, numberLength (b :: rest))
  else if b = byte '"' then
    match stringLength? rest with
    | some n => (.string, n + 1)
    | none => (.error, rest.length + 1)
  else
    match rest.head?.bind (pair? b) with
    | some kind => (kind, 2)
    | none => ((single? b).getD .error, 1)

end Lexer

/-- A lexer part way through a source: how long the source is, and what is
left of it. -/
structure Lexer where
  length : Nat
  rest : Bytes

namespace Lexer

/-- A lexer at the start of a source. -/
def ofSource (source : Bytes) : Lexer := ⟨source.length, source⟩

/-- The token in front, and the lexer behind it; nothing at the end of the
source. A token takes at least its first byte. -/
def step? (l : Lexer) : Option (Token × Lexer) :=
  match skip l.rest with
  | [] => none
  | b :: rest =>
    let (kind, n) := lexeme b rest
    some (⟨kind, (b :: rest).take n, (l.length : Int) - (b :: rest).length⟩,
      { l with rest := rest.drop (n - 1) })

/-- The next token. At the end of the source this is the end token, again
and again. -/
def next (l : Lexer) : Token × Lexer :=
  l.step?.getD (⟨.eof, [], l.length⟩, { l with rest := [] })

/-- Skipping takes bytes away and adds none. -/
theorem length_skipFrom_le (c : Bool) (s : Bytes) : (skipFrom c s).length ≤ s.length := by
  induction s generalizing c with
  | nil => cases c <;> simp [skipFrom]
  | cons b rest ih =>
      have hin := ih true
      have hout := ih false
      have hnext := ih (b != Bytes.newline)
      cases c with
      | true =>
          simp only [skipFrom, List.length_cons]
          omega
      | false =>
          simp only [skipFrom]
          split
          · simp only [List.length_cons]; omega
          · split <;> simp only [List.length_cons] <;> omega

/-- A step leaves a strictly shorter text. -/
theorem rest_length_lt_of_step? {l l' : Lexer} {t : Token} (h : l.step? = some (t, l')) :
    l'.rest.length < l.rest.length := by
  have hle := length_skipFrom_le false l.rest
  unfold step? at h
  split at h
  · simp at h
  · next b rest hs =>
      simp only [Option.some.injEq, Prod.mk.injEq] at h
      obtain ⟨-, rfl⟩ := h
      rw [show skipFrom false l.rest = b :: rest from hs] at hle
      simp only [List.length_drop, List.length_cons] at hle ⊢
      omega

/-- The tokens from here to the end of the source. -/
def tokens (l : Lexer) : List Token :=
  match h : l.step? with
  | none => []
  | some (t, l') =>
    have := rest_length_lt_of_step? h
    t :: l'.tokens
termination_by l.rest.length

/-- The tokens of a source, without the end token. -/
def tokenize (source : Bytes) : List Token := (ofSource source).tokens

end Lexer

end Quartz
