import Quartz.Text.Bytes

/-!
# `Quartz.Proofs.Text.Bytes`: cutting, joining and sorting texts

A text is cut at a separator into pieces without it, and joining the pieces gives the text back.
Both ways are exact: `join_splitOn` for every text, and `splitOn_join` for every list of pieces
that has one. A text with something trimmed off its end is `exists_eq_trimEnd_append`, and sorting
keeps what there is and puts it in byte order (`mem_sort`, `pairwise_sort`).
-/

set_option autoImplicit false

namespace Quartz

variable {sep : UInt8} {s a : Bytes} {l : List Bytes}

namespace Bytes

/-! ### Cutting -/

theorem length_splitOn (sep : UInt8) (s : Bytes) :
    (splitOn sep s).length = s.count sep + 1 := by
  induction s with
  | nil => rfl
  | cons b rest ih =>
    unfold splitOn
    by_cases hb : b = sep
    · rw [if_pos hb, List.length_cons, ih, hb, List.count_cons_self]
    · rw [if_neg hb, List.count_cons_of_ne hb, ← ih]
      -- There is always a first piece, which gets the byte.
      cases hpieces : splitOn sep rest with
      | nil => simp [hpieces] at ih
      | cons first more => simp

theorem splitOn_of_not_mem (h : sep ∉ s) : splitOn sep s = [s] := by
  induction s with
  | nil => rfl
  | cons b s ih =>
    rw [List.mem_cons, not_or] at h
    rw [splitOn, if_neg fun hb => h.1 hb.symm, ih h.2]

/-- The first piece goes up to the separator. -/
theorem exists_splitOn_eq_cons (sep : UInt8) (s : Bytes) :
    ∃ more, splitOn sep s = s.takeWhile (· ≠ sep) :: more := by
  induction s with
  | nil => exact ⟨[], rfl⟩
  | cons b s ih =>
    unfold splitOn
    by_cases hb : b = sep
    · exact ⟨splitOn sep s, by simp [hb]⟩
    · obtain ⟨more, hmore⟩ := ih
      exact ⟨more, by simp [hb, hmore]⟩

/-- A separator cuts a text into two that are cut on their own. -/
theorem splitOn_append (sep : UInt8) (s t : Bytes) :
    splitOn sep (s ++ sep :: t) = splitOn sep s ++ splitOn sep t := by
  induction s with
  | nil => simp [splitOn]
  | cons b s ih =>
    obtain ⟨more, hmore⟩ := exists_splitOn_eq_cons sep s
    rw [List.cons_append, splitOn, splitOn, ih, hmore]
    split
    · rfl
    · rfl

theorem splitOn_append_cons {line : Bytes} (h : sep ∉ line) (rest : Bytes) :
    splitOn sep (line ++ sep :: rest) = line :: splitOn sep rest := by
  rw [splitOn_append, splitOn_of_not_mem h, List.singleton_append]

/-- No piece holds the separator. -/
theorem not_mem_of_mem_splitOn {piece : Bytes} (h : piece ∈ splitOn sep s) : sep ∉ piece := by
  induction s generalizing piece with
  | nil => simp_all [splitOn]
  | cons b s ih =>
    unfold splitOn at h
    split at h
    · rcases List.mem_cons.1 h with rfl | h
      · simp
      · exact ih h
    · next hb =>
        obtain ⟨more, hmore⟩ := exists_splitOn_eq_cons sep s
        rw [hmore] at h ih
        rcases List.mem_cons.1 h with rfl | h
        · have hb' : sep ≠ b := fun h => hb h.symm
          simpa [hb'] using ih List.mem_cons_self
        · exact ih (List.mem_cons_of_mem _ h)

/-- A piece is made of bytes of the text. -/
theorem mem_of_mem_splitOn {piece : Bytes} (h : piece ∈ splitOn sep s) {b : UInt8}
    (hb : b ∈ piece) : b ∈ s := by
  induction s generalizing piece with
  | nil => simp_all [splitOn]
  | cons a s ih =>
    unfold splitOn at h
    obtain ⟨more, hmore⟩ := exists_splitOn_eq_cons sep s
    rw [hmore] at h ih
    split at h
    · rcases List.mem_cons.1 h with rfl | h
      · cases hb
      · exact List.mem_cons_of_mem _ (ih h hb)
    · rcases List.mem_cons.1 h with rfl | h
      · rcases List.mem_cons.1 hb with rfl | hb
        · exact List.mem_cons_self
        · exact List.mem_cons_of_mem _ (ih List.mem_cons_self hb)
      · exact List.mem_cons_of_mem _ (ih (List.mem_cons_of_mem _ h) hb)

/-! ### Joining -/

theorem join_cons (sep : UInt8) {e : Bytes} {es : List Bytes} (h : es ≠ []) :
    join [sep] (e :: es) = e ++ sep :: join [sep] es := by
  cases es with
  | nil => exact absurd rfl h
  | cons e' es => simp [join]

/-- A piece more at the end. -/
theorem join_concat (separator : Bytes) {pieces : List Bytes} (h : pieces ≠ [])
    (piece : Bytes) :
    join separator (pieces ++ [piece]) = join separator pieces ++ separator ++ piece := by
  induction pieces with
  | nil => exact absurd rfl h
  | cons first pieces ih =>
    cases pieces with
    | nil => rfl
    | cons second pieces =>
      have hrest := ih (List.cons_ne_nil _ _)
      simp only [List.cons_append, join] at hrest ⊢
      rw [hrest]
      simp

theorem join_splitOn (sep : UInt8) (s : Bytes) : join [sep] (splitOn sep s) = s := by
  induction s with
  | nil => rfl
  | cons b s ih =>
    obtain ⟨more, hmore⟩ := exists_splitOn_eq_cons sep s
    rw [hmore] at ih
    rw [splitOn, hmore]
    split
    · next hb => rw [join_cons sep (by simp), ih, hb, List.nil_append]
    · -- The byte goes to the first piece, with which the joined text starts.
      cases more with
      | nil => simpa [join] using ih
      | cons e es =>
        rw [join_cons sep (by simp)] at ih ⊢
        rw [List.cons_append, ih]

theorem splitOn_join {es : List Bytes} (hne : es ≠ []) (h : ∀ e ∈ es, sep ∉ e) :
    splitOn sep (join [sep] es) = es := by
  induction es with
  | nil => exact absurd rfl hne
  | cons e es ih =>
    rw [List.forall_mem_cons] at h
    by_cases hes : es = []
    · subst hes
      exact splitOn_of_not_mem h.1
    · rw [join_cons sep hes, splitOn_append_cons h.1, ih hes h.2]

/-! ### Trimming -/

/-- What is trimmed passes the test, and the rest does not end with a byte that does. -/
theorem exists_eq_trimEnd_append (p : UInt8 → Bool) (s : Bytes) :
    ∃ cut, s = trimEnd p s ++ cut ∧ (∀ b ∈ cut, p b = true) ∧
      ∀ b, (trimEnd p s).getLast? = some b → p b = false := by
  refine ⟨(s.reverse.takeWhile p).reverse, ?_, fun b hb => ?_, fun b hb => ?_⟩
  · rw [trimEnd, ← List.reverse_append, List.takeWhile_append_dropWhile, List.reverse_reverse]
  · exact List.all_eq_true.1 List.all_takeWhile b (List.mem_reverse.1 hb)
  · rw [trimEnd, List.getLast?_reverse] at hb
    have hhead := List.head?_dropWhile_not p s.reverse
    rw [hb] at hhead
    simpa using hhead

/-! ### Replacing -/

theorem replace_append (old new : UInt8) (s t : Bytes) :
    replace old new (s ++ t) = replace old new s ++ replace old new t :=
  List.map_append

theorem replace_of_not_mem {old new : UInt8} (h : old ∉ s) : replace old new s = s := by
  rw [replace, List.map_congr_left (g := id), List.map_id]
  intro b hb
  exact if_neg fun hold : b = old => h (hold ▸ hb)

/-! ### Sorting -/

theorem mem_insertSorted {b : Bytes} : a ∈ insertSorted b l ↔ a = b ∨ a ∈ l := by
  induction l with
  | nil => simp [insertSorted]
  | cons c l ih =>
    unfold insertSorted
    split
    · simp
    · rw [List.mem_cons, ih, List.mem_cons]
      exact or_left_comm

theorem mem_sort : a ∈ sort l ↔ a ∈ l := by
  induction l with
  | nil => rfl
  | cons b l ih =>
    rw [sort, List.foldr_cons, mem_insertSorted, List.mem_cons]
    exact or_congr_right ih

theorem pairwise_insertSorted (h : l.Pairwise (· ≤ ·)) : (insertSorted a l).Pairwise (· ≤ ·) := by
  induction l with
  | nil => exact List.pairwise_singleton _ _
  | cons b l ih =>
    obtain ⟨hb, hl⟩ := List.pairwise_cons.1 h
    unfold insertSorted
    split
    · next hle =>
        refine List.pairwise_cons.2 ⟨?_, h⟩
        intro c hc
        rcases List.mem_cons.1 hc with rfl | hc
        · exact hle
        · exact List.le_trans hle (hb c hc)
    · next hnot =>
        have hba : b ≤ a := (List.le_total b a).resolve_right hnot
        refine List.pairwise_cons.2 ⟨?_, ih hl⟩
        intro c hc
        rcases mem_insertSorted.1 hc with rfl | hc
        · exact hba
        · exact hb c hc

theorem pairwise_sort (l : List Bytes) : (sort l).Pairwise (· ≤ ·) := by
  induction l with
  | nil => exact .nil
  | cons a l ih => exact pairwise_insertSorted ih

end Bytes

end Quartz
