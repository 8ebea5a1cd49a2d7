import Mathlib.Data.List.Induction
import Quartz.Path
import Quartz.Proofs.Text.Bytes

/-!
# `Quartz.Proofs.Path`: paths as lists of elements

A path that is not rooted means a list of elements in normal form: some that lead up, and plain
names behind them (`Normal`). Cleaning a path is reading its elements and writing them down again
(`clean_eq_render`), every list that is read is in normal form (`normal_elements`), and writing a
list in normal form loses nothing (`elements_render`). On such lists a directory, a base and a path
inside a directory are what one expects: all but the last element, the last element, and one element
more.

A path as a person writes it is read in the same way after its backslashes are turned
(`ofHost_eq`). Its last element is that of the text, unless that is cut at a backslash or cancels
something (`base_ofHost`). What is read has nothing left to clean (`IsClean`).
-/

set_option autoImplicit false

namespace Quartz

open Bytes

variable {e name : Bytes} {es stack : List Bytes}

namespace Path

/-! ### Normal form -/

/-- A name that something in a directory can have. -/
structure IsPlain (e : Bytes) : Prop where
  ne_nil : e ≠ []
  slash_not_mem : slash ∉ e
  ne_here : e ≠ here
  ne_above : e ≠ above

/-- Elements of which none cancels another: first up, and then down by plain names. -/
inductive Normal : List Bytes → Prop
  | climb (n : Nat) : Normal (List.replicate n above)
  | enter {es : List Bytes} {e : Bytes} (hes : Normal es) (he : IsPlain e) : Normal (es ++ [e])

namespace Normal

variable {es : List Bytes} {e : Bytes}

theorem nil : Normal [] := climb 0

theorem of_forall (h : ∀ e ∈ es, IsPlain e) : Normal es := by
  induction es using List.reverseRecOn with
  | nil => exact nil
  | append_singleton es e ih =>
    rw [List.forall_mem_append, List.forall_mem_singleton] at h
    exact enter (ih h.1) h.2

theorem cases_concat (h : Normal (es ++ [e])) :
    (Normal es ∧ IsPlain e) ∨ (e = above ∧ ∃ n, es = List.replicate n above) := by
  generalize hl : es ++ [e] = l at h
  cases h with
  | climb n =>
    obtain ⟨-, hes, he⟩ := List.append_eq_replicate_iff.1 hl
    exact .inr ⟨by simpa using he, _, hes⟩
  | enter hes he =>
    obtain ⟨rfl, he'⟩ := List.append_inj' hl rfl
    obtain rfl := List.singleton_inj.1 he'
    exact .inl ⟨hes, he⟩

theorem of_concat (h : Normal (es ++ [e])) : Normal es := by
  rcases h.cases_concat with ⟨hes, -⟩ | ⟨-, n, rfl⟩
  · exact hes
  · exact climb n

theorem dropLast (h : Normal es) : Normal es.dropLast := by
  rcases List.eq_nil_or_concat es with rfl | ⟨init, e, rfl⟩
  · exact nil
  · rw [List.concat_eq_append] at h ⊢
    rw [List.dropLast_concat]
    exact h.of_concat

variable (h : Normal es) (he : e ∈ es)
include h he

theorem isPlain_or_eq_above : IsPlain e ∨ e = above := by
  induction h with
  | climb n => exact .inr (List.eq_of_mem_replicate he)
  | enter _ hplain ih =>
    rcases List.mem_append.1 he with he | he
    · exact ih he
    · exact .inl (List.mem_singleton.1 he ▸ hplain)

theorem ne_nil_of_mem : e ≠ [] := by
  rcases h.isPlain_or_eq_above he with hplain | rfl
  · exact hplain.ne_nil
  · decide

theorem slash_not_mem : slash ∉ e := by
  rcases h.isPlain_or_eq_above he with hplain | rfl
  · exact hplain.slash_not_mem
  · decide

end Normal

/-! ### Reading the elements -/

theorem pushElement_of_isPlain (he : IsPlain e) (rooted : Bool) (stack : List Bytes) :
    pushElement rooted stack e = e :: stack := by
  simp [pushElement, he.ne_nil, he.ne_here, he.ne_above]

theorem pushElement_nil (rooted : Bool) (stack : List Bytes) :
    pushElement rooted stack [] = stack := by
  simp [pushElement]

theorem pushElement_replicate (n : Nat) :
    pushElement false (List.replicate n above) above = List.replicate (n + 1) above := by
  have hne : above ≠ [] ∧ above ≠ here := by decide
  cases n with
  | zero => simp [pushElement, hne]
  | succ n => simp [pushElement, hne, List.replicate_succ]

/-- One more element keeps the elements in normal form. -/
theorem normal_pushElement (h : Normal stack.reverse) (he : slash ∉ e) :
    Normal (pushElement false stack e).reverse := by
  unfold pushElement
  split
  · exact h
  · next hskip =>
      split
      · cases stack with
        | nil => exact .climb 1
        | cons top below =>
          rw [List.reverse_cons] at h
          dsimp only
          split
          · next htop =>
              subst htop
              rcases h.cases_concat with ⟨-, hplain⟩ | ⟨-, n, hn⟩
              · exact absurd rfl hplain.ne_above
              · rw [List.reverse_cons, List.reverse_cons, hn, ← List.replicate_succ',
                  ← List.replicate_succ']
                exact .climb (n + 2)
          · exact h.of_concat
      · next habove =>
          rw [not_or] at hskip
          rw [List.reverse_cons]
          exact .enter h ⟨hskip.1, he, hskip.2, habove⟩

theorem normal_foldl_pushElement (hes : ∀ e ∈ es, slash ∉ e) (h : Normal stack.reverse) :
    Normal (es.foldl (pushElement false) stack).reverse := by
  induction es generalizing stack with
  | nil => exact h
  | cons e es ih =>
    rw [List.forall_mem_cons] at hes
    exact ih hes.2 (normal_pushElement h hes.1)

theorem normal_elements (p : Bytes) : Normal (elements false p) :=
  normal_foldl_pushElement (fun _ => not_mem_of_mem_splitOn) .nil

/-- Elements in normal form are read as they are. -/
theorem foldl_pushElement (h : Normal es) : es.foldl (pushElement false) [] = es.reverse := by
  induction h with
  | climb n =>
    rw [List.reverse_replicate]
    induction n with
    | zero => rfl
    | succ n ih =>
      rw [List.replicate_succ', List.foldl_append, ih, ← List.replicate_succ']
      exact pushElement_replicate n
  | @enter es e _ he ih =>
    rw [List.foldl_append, ih, List.reverse_append]
    exact pushElement_of_isPlain he false es.reverse

theorem mem_pushElement {rooted : Bool} {a : Bytes} (h : a ∈ pushElement rooted stack e) :
    a ∈ stack ∨ a = e := by
  unfold pushElement at h
  split at h
  · exact .inl h
  · split at h
    · next he =>
        cases stack with
        | nil =>
          cases rooted with
          | true => exact .inl h
          | false => exact .inr ((List.mem_singleton.1 h).trans he.symm)
        | cons top below =>
          dsimp only at h
          split at h
          · rcases List.mem_cons.1 h with rfl | h
            · exact .inr he.symm
            · exact .inl h
          · exact .inl (List.mem_cons_of_mem _ h)
    · exact (List.mem_cons.1 h).symm

theorem mem_splitOn_of_mem_elements {rooted : Bool} {p a : Bytes} (h : a ∈ elements rooted p) :
    a ∈ splitOn slash p := by
  -- Whatever is read was on the stack before, or comes from the text.
  have hrun : ∀ es stack : List Bytes, a ∈ es.foldl (pushElement rooted) stack →
      a ∈ stack ∨ a ∈ es := by
    intro es
    induction es with
    | nil => exact fun _ => .inl
    | cons e es ih =>
      intro stack ha
      rcases ih _ ha with ha | ha
      · rcases mem_pushElement ha with ha | rfl
        · exact .inl ha
        · exact .inr List.mem_cons_self
      · exact .inr (List.mem_cons_of_mem _ ha)
  exact (hrun _ [] (List.mem_reverse.1 h)).resolve_left List.not_mem_nil

/-! Separators and plain names behind a path. -/

theorem elements_append (p q : Bytes) : elements false (p ++ slash :: q) =
    ((splitOn slash q).foldl (pushElement false) (elements false p).reverse).reverse := by
  rw [elements, elements, splitOn_append, List.foldl_append, List.reverse_reverse]

theorem elements_append_of_isPlain (p : Bytes) (he : IsPlain e) :
    elements false (p ++ slash :: e) = elements false p ++ [e] := by
  rw [elements_append, splitOn_of_not_mem he.slash_not_mem, List.foldl_cons, List.foldl_nil,
    pushElement_of_isPlain he, List.reverse_cons, List.reverse_reverse]

theorem elements_of_isPlain (he : IsPlain e) : elements false e = [e] := by
  rw [elements, splitOn_of_not_mem he.slash_not_mem, List.foldl_cons, List.foldl_nil,
    pushElement_of_isPlain he, List.reverse_singleton]

theorem elements_append_slashes (p : Bytes) {cut : Bytes} (hcut : ∀ b ∈ cut, b = slash) :
    elements false (p ++ cut) = elements false p := by
  induction cut generalizing p with
  | nil => rw [List.append_nil]
  | cons b cut ih =>
    rw [List.forall_mem_cons] at hcut
    have hone : elements false (p ++ [slash]) = elements false p := by
      rw [elements_append, splitOn, List.foldl_cons, List.foldl_nil, pushElement_nil,
        List.reverse_reverse]
    rw [hcut.1, List.append_cons, ih _ hcut.2, hone]

theorem elements_dropWhile (p : Bytes) :
    elements false (p.dropWhile (· = slash)) = elements false p := by
  induction p with
  | nil => rfl
  | cons b p ih =>
    rw [List.dropWhile_cons]
    split
    · next hb =>
        rw [ih, of_decide_eq_true hb, elements, elements, splitOn, if_pos rfl, List.foldl_cons,
          pushElement_nil]
    · rfl

/-! ### Writing the elements -/

/-- The path with given elements. -/
def render (es : List Bytes) : Bytes := if es = [] then here else Bytes.join [slash] es

@[simp] theorem render_nil : render [] = here := rfl

@[simp] theorem render_singleton (e : Bytes) : render [e] = e := rfl

theorem render_of_ne_nil (h : es ≠ []) : render es = Bytes.join [slash] es :=
  if_neg h

theorem render_concat (h : es ≠ []) (e : Bytes) : render (es ++ [e]) = render es ++ slash :: e := by
  rw [render_of_ne_nil (by simp), render_of_ne_nil h, join_concat _ h, ← List.append_cons]

section

variable {es : List Bytes} {e : Bytes}

theorem splitOn_render (h : Normal es) (hne : es ≠ []) : splitOn slash (render es) = es := by
  rw [render_of_ne_nil hne, splitOn_join hne fun _ => h.slash_not_mem]

theorem elements_render (h : Normal es) : elements false (render es) = es := by
  by_cases hne : es = []
  · subst hne
    decide
  · rw [elements, splitOn_render h hne, foldl_pushElement h, List.reverse_reverse]

/-- A path in normal form starts with its first element. -/
theorem exists_render_eq_cons (h : Normal es) : ∃ b rest, render es = b :: rest ∧ b ≠ slash := by
  cases es with
  | nil => exact ⟨byte '.', [], rfl, by decide⟩
  | cons e es =>
    obtain ⟨b, rest, rfl⟩ := List.exists_cons_of_ne_nil (h.ne_nil_of_mem List.mem_cons_self)
    have hb : b ≠ slash := fun hb =>
      h.slash_not_mem List.mem_cons_self (hb ▸ List.mem_cons_self)
    by_cases hes : es = []
    · subst hes
      exact ⟨b, rest, rfl, hb⟩
    · refine ⟨b, rest ++ slash :: Bytes.join [slash] es, ?_, hb⟩
      rw [render_of_ne_nil (by simp), join_cons slash hes, List.cons_append]

theorem isRooted_render_append (h : Normal es) (rest : Bytes) :
    isRooted (render es ++ rest) = false := by
  obtain ⟨b, tail, hes, hb⟩ := exists_render_eq_cons h
  rw [hes, List.cons_append]
  simp [isRooted, hb]

/-- **Cleaning writes down what is read.** -/
theorem clean_eq_render {p : Bytes} (h : isRooted p = false) :
    clean p = render (elements false p) := by
  unfold clean
  rw [h]
  by_cases hes : elements false p = []
  · simp [hes, Bytes.join]
  · obtain ⟨b, rest, hrender, -⟩ := exists_render_eq_cons (normal_elements p)
    rw [render_of_ne_nil hes] at hrender ⊢
    simp [hrender]

theorem clean_render_append (h : Normal es) (rest : Bytes) :
    clean (render es ++ rest) = render (elements false (render es ++ rest)) :=
  clean_eq_render (isRooted_render_append h rest)

/-- A path inside a directory has one element more. -/
theorem join_render (h : Normal es) (he : IsPlain e) :
    Path.join (render es) e = render (es ++ [e]) := by
  obtain ⟨b, rest, hes, -⟩ := exists_render_eq_cons h
  have hne : render es ≠ [] := by simp [hes]
  rw [Path.join, if_neg hne, clean_render_append h, elements_append_of_isPlain _ he,
    elements_render h]

end

/-! ### The last element -/

/-- A text behind which a new element starts. -/
def AtSlash (s : Bytes) : Prop := s = [] ∨ ∃ t, s = t ++ [slash]

section

variable {s e : Bytes}

theorem ne_slash_of_mem_reverse (he : slash ∉ e) {b : UInt8} (hb : b ∈ e.reverse) :
    decide (b ≠ slash) = true := by
  refine decide_eq_true fun h => he ?_
  rwa [h, List.mem_reverse] at hb

theorem toSlash_append (hs : AtSlash s) (he : slash ∉ e) : toSlash (s ++ e) = s := by
  rw [toSlash, List.reverse_append,
    List.dropWhile_append_of_pos fun _ => ne_slash_of_mem_reverse he]
  rcases hs with rfl | ⟨t, rfl⟩
  · rfl
  · simp

theorem afterSlash_append (hs : AtSlash s) (he : slash ∉ e) : afterSlash (s ++ e) = e := by
  rw [afterSlash, List.reverse_append,
    List.takeWhile_append_of_pos fun _ => ne_slash_of_mem_reverse he]
  rcases hs with rfl | ⟨t, rfl⟩
  · simp
  · simp

/-- Every text is cut behind its last slash. -/
theorem exists_eq_append_afterSlash (p : Bytes) :
    ∃ s, p = s ++ afterSlash p ∧ AtSlash s ∧ slash ∉ afterSlash p := by
  by_cases hp : slash ∈ p
  · obtain ⟨e, t, hrev, he⟩ := List.eq_append_cons_of_mem (List.mem_reverse.2 hp)
    have hs : AtSlash (t.reverse ++ [slash]) := .inr ⟨_, rfl⟩
    have he' : slash ∉ e.reverse := fun h => he (List.mem_reverse.1 h)
    have hsplit : p = t.reverse ++ [slash] ++ e.reverse := by
      rw [← List.reverse_cons, ← List.reverse_append, ← hrev, List.reverse_reverse]
    have hafter : afterSlash p = e.reverse := by rw [hsplit, afterSlash_append hs he']
    exact ⟨_, by rw [hafter, hsplit], hs, by rwa [hafter]⟩
  · have hafter : afterSlash p = p := afterSlash_append (.inl rfl) hp
    exact ⟨[], by rw [hafter, List.nil_append], .inl rfl, by rwa [hafter]⟩

/-- The base of a text is its last element, and of nothing but slashes a slash. -/
theorem base_cases (hne : name ≠ []) :
    (base name = [slash] ∧ ∀ b ∈ name, b = slash) ∨
      ∃ s cut, name = s ++ base name ++ cut ∧ AtSlash s ∧ (∀ b ∈ cut, b = slash) ∧
        base name ≠ [] ∧ slash ∉ base name := by
  obtain ⟨cut, hname, hcut, hlast⟩ := exists_eq_trimEnd_append (· = slash) name
  replace hcut : ∀ b ∈ cut, b = slash := fun b hb => of_decide_eq_true (hcut b hb)
  obtain ⟨s, hs, hat, hslash⟩ := exists_eq_append_afterSlash (trimEnd (· = slash) name)
  unfold base
  rw [if_neg hne]
  dsimp only
  split
  · next hempty =>
      -- No element is left before the slashes at the end, so that nothing is.
      rw [hempty, List.append_nil] at hs
      rcases hat with rfl | ⟨t, rfl⟩
      · rw [hs, List.nil_append] at hname
        exact .inl ⟨rfl, hname ▸ hcut⟩
      · have hend := hlast slash (by rw [hs, List.getLast?_concat])
        simp at hend
  · next hempty => exact .inr ⟨s, cut, by rw [← hs, ← hname], hat, hcut, hempty, hslash⟩

theorem base_of_slashes (hne : name ≠ []) (h : ∀ b ∈ name, b = slash) : base name = [slash] := by
  rcases base_cases hne with ⟨hbase, -⟩ | ⟨s, cut, hname, -, -, hbase, hslash⟩
  · exact hbase
  · obtain ⟨b, rest, hrest⟩ := List.exists_cons_of_ne_nil hbase
    have hmem : b ∈ s ++ base name ++ cut := by simp [hrest]
    rw [← hname] at hmem
    rw [hrest, h b hmem] at hslash
    exact absurd List.mem_cons_self hslash

theorem base_append (hs : AtSlash s) (hne : e ≠ []) (he : slash ∉ e) : base (s ++ e) = e := by
  have htrim : trimEnd (· = slash) (s ++ e) = s ++ e := by
    obtain ⟨b, rest, hrest⟩ := List.exists_cons_of_ne_nil (mt List.reverse_eq_nil_iff.1 hne)
    have hb := ne_slash_of_mem_reverse he (hrest ▸ List.mem_cons_self)
    rw [trimEnd, List.reverse_append, hrest, List.cons_append, List.dropWhile_cons_of_neg,
      ← List.cons_append, ← hrest, ← List.reverse_append, List.reverse_reverse]
    simpa using hb
  unfold base
  rw [if_neg (by simp [hne]), htrim]
  simp [afterSlash_append hs he, hne]

end

section

variable {es : List Bytes} {e : Bytes}

/-- A path ends with its last element. -/
theorem exists_render_concat (es : List Bytes) (e : Bytes) :
    ∃ s, render (es ++ [e]) = s ++ e ∧ AtSlash s := by
  by_cases hes : es = []
  · subst hes
    exact ⟨[], rfl, .inl rfl⟩
  · exact ⟨render es ++ [slash], by rw [render_concat hes, List.append_cons], .inr ⟨_, rfl⟩⟩

theorem base_render (h : Normal (es ++ [e])) : base (render (es ++ [e])) = e := by
  have he : e ∈ es ++ [e] := by simp
  obtain ⟨s, hs, hat⟩ := exists_render_concat es e
  rw [hs, base_append hat (h.ne_nil_of_mem he) (h.slash_not_mem he)]

/-- The directory of a path is all but its last element. -/
theorem directory_render (h : Normal es) : directory (render es) = render es.dropLast := by
  rcases List.eq_nil_or_concat es with rfl | ⟨init, e, rfl⟩
  · decide
  · rw [List.concat_eq_append] at h ⊢
    rw [List.dropLast_concat]
    have he : slash ∉ e := h.slash_not_mem (by simp)
    by_cases hinit : init = []
    · subst hinit
      have htoSlash : toSlash e = [] := toSlash_append (.inl rfl) he
      rw [List.nil_append, render_singleton, directory, htoSlash]
      decide
    · rw [render_concat hinit, List.append_cons, directory, toSlash_append (.inr ⟨_, rfl⟩) he,
        clean_render_append h.of_concat, elements_append_slashes _ (by simp),
        elements_render h.of_concat]

end

/-! ### Paths as a person writes them -/

theorem backslash_not_mem_replace (name : Bytes) :
    byte '\\' ∉ replace (byte '\\') slash name := by
  intro h
  obtain ⟨b, -, hb⟩ := List.mem_map.1 h
  split at hb
  · exact absurd hb (by decide)
  · next hne => exact hne hb

/-- **A path as a person writes it has the elements that it has after its backslashes are
turned.** -/
theorem ofHost_eq (name : Bytes) :
    ofHost name = render (elements false (replace (byte '\\') slash name)) := by
  have hrooted : ∀ p : Bytes, isRooted (p.dropWhile (· = slash)) = false := by
    intro p
    have hhead := List.head?_dropWhile_not (· = slash) p
    unfold isRooted
    cases hdrop : (p.dropWhile (· = slash)).head? with
    | none => rfl
    | some b =>
      rw [hdrop] at hhead
      simpa using hhead
  rw [ofHost, clean_eq_render (hrooted _), elements_dropWhile]

section

variable {es : List Bytes}

theorem backslash_not_mem_render (h : ∀ e ∈ es, byte '\\' ∉ e) : byte '\\' ∉ render es := by
  induction es using List.reverseRecOn with
  | nil => decide
  | append_singleton es e ih =>
    rw [List.forall_mem_append, List.forall_mem_singleton] at h
    by_cases hes : es = []
    · subst hes
      exact h.2
    · rw [render_concat hes, List.mem_append, List.mem_cons, not_or, not_or]
      exact ⟨ih h.1, by decide, h.2⟩

/-- A path in normal form without backslashes is written as it is. -/
theorem ofHost_render (h : Normal es) (hb : byte '\\' ∉ render es) :
    ofHost (render es) = render es := by
  rw [ofHost_eq, replace_of_not_mem hb, elements_render h]

theorem exists_ofHost (name : Bytes) :
    ∃ es, ofHost name = render es ∧ Normal es ∧ ∀ e ∈ es, byte '\\' ∉ e := by
  refine ⟨_, ofHost_eq name, normal_elements _, fun e he hb => ?_⟩
  exact backslash_not_mem_replace name (mem_of_mem_splitOn (mem_splitOn_of_mem_elements he) hb)

/-- The directory of such a path is one as well. -/
theorem ofHost_directory_ofHost (name : Bytes) :
    ofHost (directory (ofHost name)) = directory (ofHost name) := by
  obtain ⟨es, hname, hes, hb⟩ := exists_ofHost name
  rw [hname, directory_render hes]
  exact ofHost_render hes.dropLast
    (backslash_not_mem_render fun e he => hb e (List.dropLast_subset es he))

end

/-- **The last element of a path is that of the text.** A backslash in it would cut it, and an
element that leads nowhere or up is not there any more. -/
theorem base_ofHost (hplain : IsPlain (base name)) (hb : byte '\\' ∉ base name) :
    base (ofHost name) = base name := by
  have hne : name ≠ [] := by
    rintro rfl
    exact hplain.ne_here rfl
  rcases base_cases hne with ⟨hslash, -⟩ | ⟨s, cut, hname, hs, hcut, -, -⟩
  · exact absurd (hslash ▸ List.mem_singleton_self slash) hplain.slash_not_mem
  · generalize base name = e at *
    subst hname
    have hcut' : ∀ b ∈ replace (byte '\\') slash cut, b = slash := by
      intro b hb
      obtain ⟨c, hc, rfl⟩ := List.mem_map.1 hb
      simp [hcut c hc]
    have helements : ∃ init, elements false (replace (byte '\\') slash (s ++ e ++ cut)) =
        init ++ [e] := by
      rw [replace_append, replace_append, elements_append_slashes _ hcut', replace_of_not_mem hb]
      rcases hs with rfl | ⟨t, rfl⟩
      · exact ⟨[], elements_of_isPlain hplain⟩
      · refine ⟨elements false (replace (byte '\\') slash t), ?_⟩
        rw [replace_append, List.append_assoc]
        exact elements_append_of_isPlain _ hplain
    obtain ⟨init, hinit⟩ := helements
    rw [ofHost_eq, hinit, base_render (hinit ▸ normal_elements _)]

theorem ofHost_of_slashes (h : ∀ b ∈ name, b = slash) : ofHost name = here := by
  have hb : byte '\\' ∉ name := fun hb => absurd (h _ hb) (by decide)
  rw [ofHost_eq, replace_of_not_mem hb]
  exact congrArg render (elements_append_slashes [] h)

/-! ### Clean paths -/

/-- A path without anything left to clean: below the root, with slashes only between elements that
are there, and with those that lead up in front. -/
structure IsClean (p : Bytes) : Prop where
  ne_nil : p ≠ []
  backslash_not_mem : byte '\\' ∉ p
  head_ne_slash : p.head? ≠ some slash
  last_ne_slash : p.getLast? ≠ some slash
  eq_here_or : p = here ∨ [] ∉ splitOn slash p ∧ here ∉ splitOn slash p
  climbs_first : ∃ n names, splitOn slash p = List.replicate n above ++ names ∧ above ∉ names

theorem Normal.exists_climb {es : List Bytes} (h : Normal es) :
    ∃ n names, es = List.replicate n above ++ names ∧ above ∉ names := by
  induction h with
  | climb n => exact ⟨n, [], by simp, by simp⟩
  | @enter es e _ he ih =>
    obtain ⟨n, names, rfl, hnames⟩ := ih
    exact ⟨n, names ++ [e], by simp, by simp [hnames, he.ne_above.symm]⟩

theorem isClean_here : IsClean here := by
  refine ⟨by decide, by decide, by decide, by decide, .inl rfl, 0, [here], by decide, by decide⟩

theorem isClean_render (h : Normal (es ++ [e])) (hb : byte '\\' ∉ render (es ++ [e])) :
    IsClean (render (es ++ [e])) := by
  have he : e ∈ es ++ [e] := by simp
  obtain ⟨b, rest, hhead, hslash⟩ := exists_render_eq_cons h
  obtain ⟨s, hlast, -⟩ := exists_render_concat es e
  have hsplit := splitOn_render h (by simp)
  refine ⟨by simp [hhead], hb, by simp [hhead, hslash], ?_, .inr ?_, ?_⟩
  · rw [hlast, List.getLast?_append, List.getLast?_eq_some_getLast (h.ne_nil_of_mem he)]
    exact fun hend => h.slash_not_mem he (Option.some.inj hend ▸ List.getLast_mem _)
  · rw [hsplit]
    refine ⟨fun hnil => h.ne_nil_of_mem hnil rfl, fun hhere => ?_⟩
    rcases h.isPlain_or_eq_above hhere with hplain | habove
    · exact hplain.ne_here rfl
    · exact absurd habove (by decide)
  · rw [hsplit]
    exact h.exists_climb

/-- **A path as a person writes it becomes a clean one, and a clean one stays as it is.** -/
theorem ofHost_clean_fixed (name : Bytes) :
    IsClean (ofHost name) ∧ ofHost (ofHost name) = ofHost name := by
  obtain ⟨es, hname, hes, hb⟩ := exists_ofHost name
  have hb' := backslash_not_mem_render hb
  rw [hname]
  refine ⟨?_, ofHost_render hes hb'⟩
  rcases List.eq_nil_or_concat es with rfl | ⟨init, e, rfl⟩
  · exact isClean_here
  · rw [List.concat_eq_append] at hes hb' ⊢
    exact isClean_render hes hb'

end Path

end Quartz
