import Mathlib.Data.List.Induction
import Quartz.Application

/-!
# `Quartz.Proofs.Options`: the script path may stand anywhere among the options

A command line is a list of groups: a switch, a flag with its value in the next word, or a flag with
its value behind an equals sign. A group goes to the flags as a whole when the words are arranged
(`sortWords_words`), and is read as a whole whatever stands behind it (`readFlags_words`). So the
path ends up behind the flags, wherever it was (`read_path_anywhere`).

Two spellings of switches are not known where the words are arranged. Such a switch takes the word
behind it for its value. A path that follows it ends the flags (`read_path_behind_switch`), unless
there are none behind it.
-/

set_option autoImplicit false

namespace Quartz

open Bytes

namespace Options

/-! ### Groups of words -/

/-- A way to write a flag: by one of its names and with one dash or two. -/
structure Spelling where
  flag : Flag
  name : Bytes
  named : Flag.named? name = some flag
  double : Bool

/-- A name behind one dash or two. -/
def dashed (double : Bool) (name : Bytes) : Bytes :=
  if double then dash :: dash :: name else dash :: name

/-- A value as it stands behind the name of a flag. -/
def assignment : Option Bytes → Bytes
  | none => []
  | some value => byte '=' :: value

/-- The word for a flag, with its value if it stands in the same word. -/
def Spelling.word (s : Spelling) (value : Option Bytes) : Bytes :=
  dashed s.double (s.name ++ assignment value)

/-- Words that belong together on a command line. -/
inductive Group where
  | switch (s : Spelling) (h : s.flag.isSwitch = true)
  | valued (s : Spelling) (h : s.flag.isSwitch = false) (value : Bytes)
      (hvalue : isValueWord value = true)
  | assigned (s : Spelling) (value : Bytes)

def Group.words : Group → List Bytes
  | switch s _ => [s.word none]
  | valued s _ value _ => [s.word none, value]
  | assigned s value => [s.word (some value)]

/-- The switches that are not known as such where words are arranged. -/
def Group.IsLoose (g : Group) : Prop := g.words = [utf8 "--h"] ∨ g.words = [utf8 "--i"]
  deriving Decidable

/-- The words of a command line. -/
def wordsOf (groups : List Group) : List Bytes := groups.flatMap Group.words

theorem of_named? {name : Bytes} {flag : Flag} (h : Flag.named? name = some flag) :
    name ≠ [] ∧ name.head? ≠ some dash ∧ byte '=' ∉ name ∧ ∀ double,
      (flag.isSwitch = false → isClosed (dashed double name) = false) ∧
      (flag.isSwitch = true → isClosed (dashed double name) = true ∨
        dashed double name = utf8 "--h" ∨ dashed double name = utf8 "--i") := by
  obtain ⟨entry, hentry, rfl⟩ := Option.map_eq_some_iff.1 h
  have hname : utf8 entry.1 = name := by simpa using List.find?_some hentry
  have hmem := List.mem_of_find?_eq_some hentry
  subst hname
  clear h hentry
  revert entry
  decide

section

variable (s : Spelling) (value : Option Bytes)

theorem Spelling.exists_name :
    ∃ b rest, s.name = b :: rest ∧ b ≠ dash ∧ ∀ c ∈ s.name, c ≠ byte '=' := by
  obtain ⟨hne, hdash, hsign, -⟩ := of_named? s.named
  obtain ⟨b, rest, hname⟩ := List.exists_cons_of_ne_nil hne
  refine ⟨b, rest, hname, fun h => hdash ?_, fun c hc h => hsign (h ▸ hc)⟩
  rw [hname, h, List.head?_cons]

/-- A spelling is a flag word, and neither the separator nor a value. -/
theorem Spelling.word_facts : isFlagWord (s.word value) = true ∧ s.word value ≠ separator ∧
    isValueWord (s.word value) = false := by
  obtain ⟨b, rest, hname, hdash, -⟩ := s.exists_name
  have hseparator : separator = [dash, dash] := by decide
  cases hdouble : s.double <;>
    simp [word, hname, hdouble, dashed, isFlagWord, isValueWord, hseparator, hdash]

theorem splitFlag_word : splitFlag (s.word value) = .ok (s.name, value) := by
  obtain ⟨b, rest, hname, hdash, hsign⟩ := s.exists_name
  have hseparator : separator = [dash, dash] := by decide
  have hbody : (if separator.isPrefixOf (s.word value) then (s.word value).drop 2
      else (s.word value).drop 1) = s.name ++ assignment value := by
    cases hdouble : s.double <;>
      simp [Spelling.word, hname, hdouble, dashed, hseparator, hdash.symm]
  have hb : b ≠ byte '=' := hsign b (by simp [hname])
  have hsign' : ∀ c ∈ s.name, decide (c ≠ byte '=') = true :=
    fun c hc => decide_eq_true (hsign c hc)
  unfold splitFlag
  dsimp only
  rw [hbody, if_neg (by simp [hname, hdash, hb]), List.dropWhile_append_of_pos hsign',
    List.takeWhile_append_of_pos hsign']
  cases value with
  | none => simp [assignment]
  | some v => simp [assignment]

end

/-! ### Arranging the words -/

section

variable {w v : Bytes} (hflag : isFlagWord w = true) (hw : w ≠ separator)
include hflag hw

/-- A flag word that takes no value leaves the words behind it alone. -/
theorem sortWords_alone {rest : List Bytes}
    (h : isClosed w = true ∨ ∀ v ∈ rest.head?, isValueWord v = false) :
    sortWords (w :: rest) = (w :: (sortWords rest).1, (sortWords rest).2) := by
  rw [sortWords.eq_def]
  cases rest with
  | nil => simp [hflag, hw, sortWords]
  | cons v more =>
    have hkept : (!isClosed w && isValueWord v) = false := by
      rcases h with h | h
      · simp [h]
      · simp [h v rfl]
    simp [hflag, hw, hkept]

theorem sortWords_valued (hopen : isClosed w = false) (hv : isValueWord v = true)
    (rest : List Bytes) :
    sortWords (w :: v :: rest) = (w :: v :: (sortWords rest).1, (sortWords rest).2) := by
  rw [sortWords.eq_def]
  simp [hflag, hw, hopen, hv]

end

/-- **A group goes to the flags as a whole**, unless it is a loose switch before a path. -/
theorem sortWords_words (g : Group) {rest : List Bytes}
    (h : g.IsLoose → ∀ v ∈ rest.head?, isValueWord v = false) :
    sortWords (g.words ++ rest) = (g.words ++ (sortWords rest).1, (sortWords rest).2) := by
  cases g with
  | switch s hswitch =>
    obtain ⟨hflag, hw, -⟩ := s.word_facts none
    refine sortWords_alone hflag hw ?_
    rcases ((of_named? s.named).2.2.2 s.double).2 hswitch with hclosed | hloose
    · exact .inl (by rwa [Spelling.word, assignment, List.append_nil])
    · refine .inr (h ?_)
      simpa [Group.IsLoose, Group.words, Spelling.word, assignment] using hloose
  | valued s hvalued value hvalue =>
    obtain ⟨hflag, hw, -⟩ := s.word_facts none
    refine sortWords_valued hflag hw ?_ hvalue rest
    rw [Spelling.word, assignment, List.append_nil]
    exact ((of_named? s.named).2.2.2 s.double).1 hvalued
  | assigned s value =>
    obtain ⟨hflag, hw, -⟩ := s.word_facts (some value)
    refine sortWords_alone hflag hw (.inl ?_)
    cases hdouble : s.double <;> simp [isClosed, Spelling.word, assignment, dashed, hdouble]

/-! ### Reading the flags -/

/-- **A group is read as a whole**, whatever stands behind it. -/
theorem readFlags_words (g : Group) (f : Flags) :
    (∃ e, ∀ rest, readFlags f (g.words ++ rest) = .error e) ∨
      ∃ f', ∀ rest, readFlags f (g.words ++ rest) = readFlags f' rest := by
  cases g with
  | switch s hswitch =>
    obtain ⟨hflag, hw, -⟩ := s.word_facts none
    refine .inr ⟨f.turn s.flag true, fun rest => ?_⟩
    rw [Group.words, List.singleton_append, readFlags]
    simp [hflag, hw, splitFlag_word, s.named, hswitch]
  | valued s hvalued value hvalue =>
    obtain ⟨hflag, hw, -⟩ := s.word_facts none
    refine .inr ⟨f.set s.flag value, fun rest => ?_⟩
    rw [Group.words, List.cons_append, List.singleton_append, readFlags]
    simp [hflag, hw, splitFlag_word, s.named, hvalued]
  | assigned s value =>
    obtain ⟨hflag, hw, -⟩ := s.word_facts (some value)
    by_cases hswitch : s.flag.isSwitch = true
    · cases hon : switchValue? value with
      | some on =>
        refine .inr ⟨f.turn s.flag on, fun rest => ?_⟩
        rw [Group.words, List.singleton_append, readFlags]
        simp [hflag, hw, splitFlag_word, s.named, hswitch, hon]
      | none =>
        refine .inl ⟨.badSwitch value s.name, fun rest => ?_⟩
        rw [Group.words, List.singleton_append, readFlags]
        simp [hflag, hw, splitFlag_word, s.named, hswitch, hon]
    · refine .inr ⟨f.set s.flag value, fun rest => ?_⟩
      rw [Group.words, List.singleton_append, readFlags]
      simp [hflag, hw, splitFlag_word, s.named, hswitch]

/-! ### Command lines -/

theorem Group.isValueWord_head? (g : Group) (rest : List Bytes) :
    ∀ w ∈ (g.words ++ rest).head?, isValueWord w = false := by
  intro w hw
  cases g with
  | switch s _ =>
    cases hw
    exact (s.word_facts none).2.2
  | valued s _ value _ =>
    cases hw
    exact (s.word_facts none).2.2
  | assigned s value =>
    cases hw
    exact (s.word_facts (some value)).2.2

/-- The groups before a word go to the flags, unless the last one is loose and takes the word. -/
theorem sortWords_wordsOf {front : List Group} {rest : List Bytes}
    (h : (∀ g ∈ front.getLast?, ¬g.IsLoose) ∨ ∀ w ∈ rest.head?, isValueWord w = false) :
    sortWords (wordsOf front ++ rest) =
      (wordsOf front ++ (sortWords rest).1, (sortWords rest).2) := by
  induction front using List.reverseRecOn generalizing rest with
  | nil => rfl
  | append_singleton front g ih =>
    have hlast : g.IsLoose → ∀ w ∈ rest.head?, isValueWord w = false := by
      intro hloose
      exact h.resolve_left fun hnone => hnone g (by simp) hloose
    have hwords : ∀ more, wordsOf (front ++ [g]) ++ more = wordsOf front ++ (g.words ++ more) := by
      simp [wordsOf]
    rw [hwords, ih (.inr (g.isValueWord_head? rest)), sortWords_words g hlast, hwords]

theorem readFlags_wordsOf (groups : List Group) (f : Flags) :
    (∃ e, ∀ rest, readFlags f (wordsOf groups ++ rest) = .error e) ∨
      ∃ f', ∀ rest, readFlags f (wordsOf groups ++ rest) = readFlags f' rest := by
  induction groups generalizing f with
  | nil => exact .inr ⟨f, fun rest => rfl⟩
  | cons g groups ih =>
    have hcons : ∀ rest, wordsOf (g :: groups) ++ rest = g.words ++ (wordsOf groups ++ rest) := by
      simp [wordsOf]
    rcases readFlags_words g f with ⟨e, he⟩ | ⟨f', hf'⟩
    · exact .inl ⟨e, fun rest => by rw [hcons, he]⟩
    · rcases ih f' with ⟨e, he⟩ | ⟨f'', hf''⟩
      · exact .inl ⟨e, fun rest => by rw [hcons, hf', he]⟩
      · exact .inr ⟨f'', fun rest => by rw [hcons, hf', hf'']⟩

/-- A path does not stand between a loose switch and another group. -/
def Settled (front back : List Group) : Prop :=
  back = [] ∨ ∀ g ∈ front.getLast?, ¬g.IsLoose
  deriving Decidable

section

variable {p : Bytes} (hp : isValueWord p = true)
include hp

theorem not_isFlagWord_of_isValueWord : isFlagWord p = false := by
  simp only [isValueWord, Bool.and_eq_true, decide_eq_true_eq] at hp
  simp [isFlagWord, hp.2]

theorem sortWords_path (back : List Group) :
    sortWords (p :: wordsOf back) = (wordsOf back, [p]) := by
  have hback : sortWords (wordsOf back) = (wordsOf back, []) := by
    have hsort : sortWords (wordsOf back ++ []) = _ := sortWords_wordsOf (.inr (by simp))
    simpa [sortWords] using hsort
  have hne : p ≠ separator := by
    rintro rfl
    exact absurd hp (by decide)
  rw [sortWords.eq_def]
  simp [hne, not_isFlagWord_of_isValueWord hp, hback]

/-- A loose switch at the end takes the path for its value. -/
theorem sortWords_loose {g : Group} (h : g.IsLoose) :
    sortWords (g.words ++ [p]) = (g.words ++ [p], []) := by
  rcases h with h | h
  all_goals
    rw [h]
    exact sortWords_valued (by decide) (by decide) (by decide) hp []

/-- Behind the flags of a command line a path is left over, with a separator or without. -/
theorem readFlags_path (groups : List Group) (f : Flags) :
    readFlags f (wordsOf groups ++ [p]) = readFlags f (wordsOf groups ++ [separator, p]) := by
  have hflag := not_isFlagWord_of_isValueWord hp
  rcases readFlags_wordsOf groups f with ⟨e, he⟩ | ⟨f', hf'⟩
  · rw [he, he]
  · rw [hf', hf', readFlags.eq_def, readFlags.eq_def f' [separator, p]]
    have hseparator : isFlagWord separator = true := by decide
    simp [hflag, hseparator]

theorem readFlags_arrange {front back : List Group} (h : Settled front back) (f : Flags) :
    readFlags f (arrange (wordsOf front ++ p :: wordsOf back)) =
      readFlags f (wordsOf (front ++ back) ++ [separator, p]) := by
  by_cases hlast : ∀ g ∈ front.getLast?, ¬g.IsLoose
  · rw [arrange, sortWords_wordsOf (.inl hlast), sortWords_path hp]
    simp [wordsOf]
  · obtain rfl := h.resolve_right hlast
    push Not at hlast
    obtain ⟨g, hg, hloose⟩ := hlast
    obtain ⟨init, rfl⟩ := List.getLast?_eq_some_iff.1 hg
    rw [List.append_nil, ← readFlags_path hp]
    have hwords : wordsOf (init ++ [g]) ++ [p] = wordsOf init ++ (g.words ++ [p]) := by
      simp [wordsOf]
    have harrange : arrange (wordsOf init ++ (g.words ++ [p])) =
        wordsOf init ++ (g.words ++ [p]) := by
      rw [arrange, sortWords_wordsOf (.inr (g.isValueWord_head? [p])), sortWords_loose hp hloose]
      rfl
    rw [← hwords] at harrange
    exact congrArg (readFlags f) harrange

end

/-- **The script path may stand anywhere among the options**, if it does not separate a loose switch
from what is behind it. -/
theorem read_path_anywhere {p : Bytes} (hp : isValueWord p = true) (lib : Libraries)
    (contents : Bytes → Except Volume.Error Bytes) (env : Environment)
    {front back front' back' : List Group} (hsame : front ++ back = front' ++ back')
    (h : Settled front back) (h' : Settled front' back') :
    read lib contents env (wordsOf front ++ p :: wordsOf back) =
      read lib contents env (wordsOf front' ++ p :: wordsOf back') := by
  rw [read, read, readFlags_arrange hp h, readFlags_arrange hp h', hsame]

theorem read_path_anywhere_three :
    let charset : Group := .assigned ⟨.charset, utf8 "e", rfl, false⟩ (utf8 "sjis")
    let level : Group := .valued ⟨.level, utf8 "log-level", rfl, true⟩ rfl (utf8 "debug") rfl
    let switch : Group := .switch ⟨.interactive, utf8 "i", rfl, true⟩ rfl
    let read := read Application.usualLibraries (fun _ => .ok []) {}
    switch.IsLoose ∧ read (wordsOf [charset, level, switch] ++ [utf8 "src"]) =
      read (wordsOf [charset] ++ utf8 "src" :: wordsOf [level, switch]) := by
  intro charset level switch read
  have hend : Settled [charset, level, switch] [] := by decide
  have hfront : Settled [charset] [level, switch] := by decide
  have hsame : [charset, level, switch] ++ [] = [charset] ++ [level, switch] := rfl
  have hpath : isValueWord (utf8 "src") = true := by decide
  exact ⟨by decide, read_path_anywhere hpath _ _ _ hsame hend hfront⟩

/-- A path behind a loose switch ends the flags, so that the words behind it are too many. -/
theorem read_path_behind_switch :
    let read := read Application.usualLibraries (fun _ => .ok []) {}
    read (["scripts", "--i", "-l", "debug"].map utf8) =
        .ok { directory := utf8 "scripts", level := .debug, interactive := true } ∧
      read (["--i", "scripts", "-l", "debug"].map utf8) =
        .error (.tooMany (["scripts", "-l", "debug"].map utf8)) := by
  decide +kernel

end Options

end Quartz
