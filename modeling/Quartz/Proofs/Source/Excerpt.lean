import Mathlib.Data.List.Forall2
import Quartz.Proofs.Source.Position
import Quartz.Source.Excerpt

/-!
# `Quartz.Proofs.Source.Excerpt`: the caret stands under the offset

What an excerpt looks like is said by rows. `Row` is the row of one line, with its mark, its number
and its text, and a `Listing` is the rows that an excerpt has: those of the lines before, the marked
one, the caret, and those of the lines after. The excerpt around a position is a listing of the
lines that are at most two away (`exists_listing`).

The marked row and the row of the caret have gutters of one width, in ASCII. So the caret stands
where the row shows what the source holds at the offset, counted in characters
(`caret_under_offset`).
-/

set_option autoImplicit false

namespace Quartz

namespace Bytes

theorem isDigit_of_mem_ofNat {n : Nat} {b : UInt8} (h : b ∈ ofNat n) : isDigit b = true := by
  obtain ⟨c, hc, rfl⟩ := List.mem_map.1 h
  have hdigit := Nat.isDigit_of_mem_toDigits (by decide) (by decide) hc
  simp only [Char.isDigit, Bool.and_eq_true, decide_eq_true_eq, UInt32.le_iff_toNat_le] at hdigit
  simp only [isDigit, byte, Bool.and_eq_true, decide_eq_true_eq, UInt8.le_iff_toNat_le]
  show 48 ≤ c.val.toNat % 256 ∧ c.val.toNat % 256 ≤ 57
  change 48 ≤ c.val.toNat ∧ c.val.toNat ≤ 57 at hdigit
  omega

/-- A larger number has at least as many digits. -/
theorem length_ofNat_le {m n : Nat} (h : m ≤ n) : (ofNat m).length ≤ (ofNat n).length := by
  unfold ofNat
  rw [List.length_map, List.length_map,
    Nat.length_toDigits_le_iff (by decide) Nat.length_toDigits_pos]
  exact Nat.lt_of_le_of_lt h
    ((Nat.length_toDigits_le_iff (by decide) Nat.length_toDigits_pos).1 (Nat.le_refl _))

end Bytes

namespace Excerpt

open Bytes Rune Position

/-! ### Rows -/

/-- The row of a line: a mark, the number of the line aligned to the right, and the line without
the carriage returns at its end. -/
inductive Row (lines : List Bytes) (line width : Nat) : Nat → Bytes → Prop
  | shows {k pad : Nat} {shown returns : Bytes} (hline : lines[k - 1]? = some (shown ++ returns))
      (hreturns : ∀ b ∈ returns, isReturn b = true)
      (hlast : ∀ b, shown.getLast? = some b → isReturn b = false)
      (hwidth : pad + (ofNat k).length = width) :
      Row lines line width k (utf8 (if k = line then "> " else "  ") ++
        (List.replicate pad (byte ' ') ++ ofNat k) ++ utf8 " | " ++ shown)

/-- What stands in front of the text of a row: a mark, and a number aligned to the right. -/
def gutter (mark : String) (width : Nat) (number : Bytes) : Bytes :=
  utf8 mark ++ padStart width number ++ utf8 " | "

/-- The row that is written for a line. -/
def numbered (width line k : Nat) (text : Bytes) : Bytes :=
  gutter (if k = line then "> " else "  ") width (ofNat k) ++ trimEnd isReturn text

/-- The row below the marked one. -/
def caretRow (width column : Nat) : Bytes :=
  gutter "  " width [] ++ (List.replicate (column - 1) (byte ' ') ++ [byte '^'])

theorem rows_eq (width : Nat) (p : Position) (k : Nat) (text : Bytes) :
    rows width p k text = unlines (numbered width p.line k text ::
      if k = p.line then [caretRow width p.column] else []) := by
  unfold rows numbered caretRow gutter
  dsimp only
  split <;> simp [row, unlines]

theorem row_numbered {lines : List Bytes} {k width : Nat} {text : Bytes}
    (hline : lines[k - 1]? = some text) (hwidth : (ofNat k).length ≤ width) (line : Nat) :
    Row lines line width k (numbered width line k text) := by
  obtain ⟨returns, htext, hreturns, hlast⟩ := exists_eq_trimEnd_append isReturn text
  rw [htext] at hline
  exact .shows hline hreturns hlast (Nat.sub_add_cancel hwidth)

theorem newline_not_mem_ofNat (n : Nat) : newline ∉ ofNat n := by
  intro h
  cases isDigit_of_mem_ofNat h

theorem newline_not_mem_gutter {mark : String} (hmark : newline ∉ utf8 mark) (width : Nat)
    {number : Bytes} (h : newline ∉ number) : newline ∉ gutter mark width number := by
  have hpad : newline ∉ List.replicate (width - number.length) (byte ' ') := by
    intro hmem
    cases (List.mem_replicate.1 hmem).2
  have hbar : newline ∉ utf8 " | " := by decide
  simp [gutter, padStart, hmark, hpad, h, hbar]

theorem newline_not_mem_caretRow (width column : Nat) : newline ∉ caretRow width column := by
  have hgutter := @newline_not_mem_gutter "  " (by decide) width [] List.not_mem_nil
  have hpad : newline ∉ List.replicate (column - 1) (byte ' ') := by
    intro hmem
    cases (List.mem_replicate.1 hmem).2
  have hcaret : newline ≠ byte '^' := by decide
  simp [caretRow, hgutter, hpad, hcaret]

theorem Row.newline_not_mem {lines : List Bytes} {line width k : Nat} {row : Bytes}
    (h : Row lines line width k row) (hlines : ∀ l ∈ lines, newline ∉ l) : newline ∉ row := by
  cases h with
  | @shows pad shown returns hline _ _ hwidth =>
    have hshown := hlines _ (List.mem_of_getElem? hline)
    rw [List.mem_append, not_or] at hshown
    have hmark : newline ∉ utf8 (if k = line then "> " else "  ") := by split <;> decide
    obtain rfl : pad = width - (ofNat k).length := by omega
    rw [List.mem_append, not_or]
    exact ⟨newline_not_mem_gutter hmark width (newline_not_mem_ofNat k), hshown.1⟩

theorem newline_not_mem_of_forall₂ {lines : List Bytes} {line width : Nat} {ks : List Nat}
    {rows : List Bytes} (h : List.Forall₂ (Row lines line width) ks rows)
    (hlines : ∀ l ∈ lines, newline ∉ l) : ∀ row ∈ rows, newline ∉ row := by
  induction h with
  | nil => simp
  | cons hrow _ ih => exact List.forall_mem_cons.2 ⟨hrow.newline_not_mem hlines, ih⟩

/-! ### Listings -/

/-- The rows of an excerpt. -/
structure Listing where
  before : List Bytes
  marked : Bytes
  caret : Bytes
  after : List Bytes

/-- The rows from top to bottom. -/
def Listing.rows (l : Listing) : List Bytes := l.before ++ l.marked :: l.caret :: l.after

/-- A listing shows the lines that are at most two away from a line, in order, and marks that
line. -/
structure Listing.Shows (l : Listing) (lines : List Bytes) (line width : Nat) : Prop where
  before : List.Forall₂ (Row lines line width)
    (List.range' (max 1 (line - 2)) (line - max 1 (line - 2))) l.before
  marked : Row lines line width line l.marked
  after : List.Forall₂ (Row lines line width)
    (List.range' (line + 1) (min lines.length (line + 2) - line)) l.after

theorem forall₂_range'_mapIdx {α β : Type} {R : Nat → β → Prop} (f : Nat → α → β) (xs : List α)
    (a : Nat) (h : ∀ i x, xs[i]? = some x → R (a + i) (f i x)) :
    List.Forall₂ R (List.range' a xs.length) (xs.mapIdx f) := by
  induction xs generalizing a f with
  | nil => exact .nil
  | cons x xs ih =>
    rw [List.length_cons, List.range'_succ, List.mapIdx_cons]
    refine .cons (h 0 x rfl) (ih _ _ fun i y hy => ?_)
    have hnext := h (i + 1) y hy
    rwa [Nat.add_left_comm, Nat.add_comm] at hnext

/-- Rows without a caret. -/
theorem flatten_mapIdx_rows {width a : Nat} {p : Position} (lines : List Bytes)
    (h : ∀ i < lines.length, a + i ≠ p.line) :
    (lines.mapIdx fun i text => rows width p (a + i) text).flatten =
      unlines (lines.mapIdx fun i text => numbered width p.line (a + i) text) := by
  induction lines generalizing a with
  | nil => rfl
  | cons text lines ih =>
    have hnext : ∀ i < lines.length, a + 1 + i ≠ p.line := fun i hi => by
      rw [Nat.add_assoc, Nat.add_comm 1]
      exact h (i + 1) (Nat.succ_lt_succ hi)
    have hrest := ih hnext
    simp only [Nat.add_assoc, Nat.add_comm 1] at hrest
    rw [List.mapIdx_cons, List.mapIdx_cons, List.flatten_cons, hrest, rows_eq,
      if_neg (h 0 (Nat.succ_pos _)), ← unlines_append, List.singleton_append]

/-- The listing around a position, by the lines before its line, the line, and the lines behind. -/
def Listing.around (width : Nat) (p : Position) (lines : List Bytes) (text : Bytes)
    (more : List Bytes) : Listing where
  before := (lines.drop (lines.length - 2)).mapIdx fun i text =>
    numbered width p.line (lines.length - 2 + 1 + i) text
  marked := numbered width p.line p.line text
  caret := caretRow width p.column
  after := (more.take 2).mapIdx fun i text => numbered width p.line (p.line + 1 + i) text

section Listing

variable {source : Bytes} {lines more : List Bytes} {text : Bytes} {p : Position}

theorem around_eq (hs : source ≠ []) (hsplit : splitOn newline source = lines ++ text :: more)
    (hp : p.line = lines.length + 1) :
    around source p = unlines (Listing.around
      (ofNat (min (p.line + margin) (splitOn newline source).length)).length
      p lines text more).rows := by
  generalize hwidth :
    (ofNat (min (p.line + margin) (splitOn newline source).length)).length = width
  have hlength : (splitOn newline source).length = lines.length + 1 + more.length := by
    rw [hsplit, List.length_append, List.length_cons]
    omega
  have hshown : ((splitOn newline source).take
        (min (p.line + margin) (splitOn newline source).length)).drop (p.line - 1 - margin) =
      lines.drop (lines.length - 2) ++ text :: more.take 2 := by
    have htake : p.line + margin = lines.length + 3 := by
      rw [hp]
      rfl
    have hdrop : p.line - 1 - margin = lines.length - 2 := by
      rw [hp]
      rfl
    rw [← List.take_eq_take_min, hsplit, htake, hdrop, List.take_length_add_append,
      List.drop_append_of_le_length (Nat.sub_le _ _), List.take_succ_cons]
  -- The rows of the lines before come first, then two rows for the line, then the rest.
  have hbefore := @flatten_mapIdx_rows width (lines.length - 2 + 1) p
    (lines.drop (lines.length - 2)) fun i hi => by
      rw [List.length_drop] at hi
      omega
  have hafter := @flatten_mapIdx_rows width (p.line + 1) p (more.take 2) fun i _ => by omega
  have hindex : ∀ i, p.line - 1 - margin + i + 1 = lines.length - 2 + 1 + i := by
    intro i
    rw [hp]
    show lines.length - 2 + i + 1 = _
    omega
  have hmark : lines.length - 2 + 1 + (0 + (lines.drop (lines.length - 2)).length) = p.line := by
    rw [List.length_drop]
    omega
  have hnext : ∀ i, lines.length - 2 + 1 + (i + 1 + (lines.drop (lines.length - 2)).length) =
      p.line + 1 + i := by
    intro i
    rw [List.length_drop]
    omega
  unfold around
  dsimp only
  rw [if_neg (by rintro (h | h | h); exact hs h; omega; omega), hshown, hwidth]
  simp only [hindex, List.mapIdx_append, List.mapIdx_cons, hmark, hnext, List.flatten_append,
    List.flatten_cons]
  rw [hbefore, hafter, rows_eq, if_pos rfl, ← unlines_append, ← unlines_append]
  rfl

/-- The excerpt around a line of a source shows at least that line. -/
theorem around_ne_nil (hs : source ≠ []) (hpos : 1 ≤ p.line) (hle : p.line ≤ source.lineCount) :
    around source p ≠ [] := by
  have hlt : p.line - 1 < (splitOn newline source).length := by
    unfold Bytes.lineCount at hle
    omega
  have hsplit := (List.take_append_drop (p.line - 1) (splitOn newline source)).symm
  rw [List.drop_eq_getElem_cons hlt] at hsplit
  have hline : p.line = ((splitOn newline source).take (p.line - 1)).length + 1 := by
    rw [List.length_take_of_le (Nat.le_of_lt hlt)]
    omega
  rw [around_eq hs hsplit hline]
  simp [Listing.rows, unlines]

theorem Listing.shows_around {width : Nat} (hp : p.line = lines.length + 1)
    (hwidth : ∀ k, k ≤ p.line + 2 → k ≤ (lines ++ text :: more).length →
      (ofNat k).length ≤ width) :
    (Listing.around width p lines text more).Shows (lines ++ text :: more) p.line width := by
  have hlength : (lines ++ text :: more).length = lines.length + 1 + more.length := by
    rw [List.length_append, List.length_cons]
    omega
  have hfirst : max 1 (p.line - 2) = lines.length - 2 + 1 := by omega
  constructor
  case before =>
    have hcount : p.line - (lines.length - 2 + 1) = (lines.drop (lines.length - 2)).length := by
      rw [List.length_drop]
      omega
    rw [hfirst, hcount]
    refine forall₂_range'_mapIdx _ _ _ fun i l hi => ?_
    have hlt := (List.getElem?_eq_some_iff.1 hi).1
    rw [List.length_drop] at hlt
    rw [List.getElem?_drop] at hi
    refine row_numbered ?_ (hwidth _ (by omega) (by omega)) _
    rw [List.getElem?_append_left (by omega), ← hi]
    congr 1
    omega
  case marked =>
    refine row_numbered ?_ (hwidth _ (by omega) (by omega)) _
    rw [hp, Nat.add_sub_cancel, List.getElem?_append_right (Nat.le_refl _), Nat.sub_self]
    rfl
  case after =>
    have hcount : min (lines ++ text :: more).length (p.line + 2) - p.line =
        (more.take 2).length := by
      rw [List.length_take]
      omega
    rw [hcount]
    refine forall₂_range'_mapIdx _ _ _ fun i l hi => ?_
    have hlt := (List.getElem?_eq_some_iff.1 hi).1
    rw [List.length_take] at hlt
    rw [List.getElem?_take_of_lt (by omega)] at hi
    refine row_numbered ?_ (hwidth _ (by omega) (by omega)) _
    have hplace : p.line + 1 + i - 1 - lines.length = i + 1 := by omega
    rw [List.getElem?_append_right (by omega), hplace]
    exact hi

/-- The lines of an excerpt are the rows of a listing. Its numbers are as wide as the last one. -/
theorem exists_listing (hs : source ≠ []) (hsplit : splitOn newline source = lines ++ text :: more)
    (hp : p.line = lines.length + 1) {width : Nat}
    (hw : width = (ofNat (min (splitOn newline source).length (p.line + 2))).length) :
    (ofNat p.line).length ≤ width ∧
      splitOn newline (around source p) = (Listing.around width p lines text more).rows ++ [[]] ∧
      (Listing.around width p lines text more).Shows (splitOn newline source) p.line width := by
  have hlength : (splitOn newline source).length = lines.length + 1 + more.length := by
    rw [hsplit, List.length_append, List.length_cons]
    omega
  have haround : around source p = unlines (Listing.around width p lines text more).rows := by
    rw [around_eq hs hsplit hp, hw, Nat.min_comm]
    rfl
  have hwidth : ∀ k, k ≤ p.line + 2 → k ≤ (splitOn newline source).length →
      (ofNat k).length ≤ width := by
    intro k hk hk'
    rw [hw]
    exact length_ofNat_le (Nat.le_min.2 ⟨hk', hk⟩)
  have hshows : (Listing.around width p lines text more).Shows (splitOn newline source) p.line
      width := by
    clear hw haround
    rw [hsplit] at hwidth ⊢
    exact Listing.shows_around hp hwidth
  refine ⟨hwidth _ (by omega) (by omega), ?_, hshows⟩
  -- No row holds a line break, so that the breaks behind the rows are those of the text.
  have hlines : ∀ l ∈ splitOn newline source, newline ∉ l := fun l => not_mem_of_mem_splitOn
  have hfree : ∀ row ∈ (Listing.around width p lines text more).rows, newline ∉ row := by
    have hbefore := newline_not_mem_of_forall₂ hshows.before hlines
    have hafter := newline_not_mem_of_forall₂ hshows.after hlines
    refine List.forall_mem_append.2 ⟨hbefore, List.forall_mem_cons.2 ⟨?_, ?_⟩⟩
    · exact hshows.marked.newline_not_mem hlines
    · exact List.forall_mem_cons.2 ⟨newline_not_mem_caretRow _ _, hafter⟩
  have hall := splitOn_unlines_append hfree []
  rwa [List.append_nil, ← haround] at hall

end Listing

/-! ### The caret -/

/-- A listing points at an offset: its caret stands at the index at which the marked row shows what
the source holds there, both counted in characters. -/
structure Listing.Points (l : Listing) (source : Bytes) (o line index : Nat) : Prop where
  /-- The caret is the last character of its row, and the only one of its kind. -/
  caret : ∃ front, decode l.caret = front ++ [.char '^'] ∧ front.length = index ∧
    .char '^' ∉ front
  /-- With the carriage returns that were trimmed from the line, the marked row goes on from the
  index as the line does from the offset. -/
  continues : ∃ gutter shown returns, l.marked = gutter ++ shown ∧
    (splitOn newline source)[line - 1]? = some (shown ++ returns) ∧
    (∀ b ∈ returns, isReturn b = true) ∧ index ≤ (decode (l.marked ++ returns)).length ∧
    (decode (l.marked ++ returns)).drop index = decode (onward source o)
  /-- Unless the offset is at the end of the line or in front of carriage returns only, the row
  itself shows the character at the offset. -/
  shows : (∃ b ∈ onward source o, isReturn b = false) →
    (decode l.marked)[index]? = (decode (source.drop o)).head?

theorem length_gutter {mark : String} (hmark : (utf8 mark).length = 2) {width : Nat}
    {number : Bytes} (h : number.length ≤ width) :
    (gutter mark width number).length = width + 5 := by
  have hbar : (utf8 " | ").length = 3 := rfl
  simp only [gutter, padStart, List.length_append, List.length_replicate, hmark, hbar]
  omega

theorem ascii_gutter {mark : String} (hmark : ∀ b ∈ utf8 mark, b < 0x80) (width : Nat)
    {number : Bytes} (h : ∀ b ∈ number, b < 0x80) : ∀ b ∈ gutter mark width number, b < 0x80 := by
  have hbar : ∀ b ∈ utf8 " | ", b < 0x80 := by decide +kernel
  have hpad : ∀ b ∈ List.replicate (width - number.length) (byte ' '), b < 0x80 := by
    intro b hb
    rw [(List.mem_replicate.1 hb).2]
    decide
  simp only [gutter, padStart, List.forall_mem_append]
  exact ⟨⟨hmark, hpad, h⟩, hbar⟩

theorem decode_caretRow (width column : Nat) :
    ∃ front, decode (caretRow width column) = front ++ [.char '^'] ∧
      front.length = width + 5 + (column - 1) ∧ .char '^' ∉ front := by
  -- In front of the caret there are blanks and a bar.
  have hblank : ∀ b ∈ gutter "  " width [] ++ List.replicate (column - 1) (byte ' '),
      b = byte ' ' ∨ b = byte '|' := by
    intro b hb
    have hmark : ∀ b ∈ utf8 "  ", b = byte ' ' ∨ b = byte '|' := by decide +kernel
    have hbar : ∀ b ∈ utf8 " | ", b = byte ' ' ∨ b = byte '|' := by decide +kernel
    simp only [gutter, padStart, List.append_nil, List.mem_append, List.mem_replicate] at hb
    rcases hb with ((hb | hb) | hb) | hb
    · exact hmark b hb
    · exact .inl hb.2
    · exact hbar b hb
    · exact .inl hb.2
  have hascii : ∀ b ∈ gutter "  " width [] ++ List.replicate (column - 1) (byte ' '),
      b < 0x80 := by
    intro b hb
    rcases hblank b hb with rfl | rfl <;> decide
  have hcaret : decode [byte '^'] = [.char '^'] :=
    decode_ascii (List.forall_mem_singleton.2 (by decide))
  refine ⟨decode (gutter "  " width [] ++ List.replicate (column - 1) (byte ' ')), ?_, ?_, ?_⟩
  · rw [caretRow, ← List.append_assoc, decode_append (isUtf8_ascii hascii), hcaret]
  · rw [decode_ascii hascii, List.length_map, List.length_append,
      length_gutter rfl (Nat.zero_le _), List.length_replicate]
  · intro hmem
    rw [decode_ascii hascii] at hmem
    obtain ⟨b, hb, hcaret⟩ := List.mem_map.1 hmem
    rcases hblank b hb with rfl | rfl <;> revert hcaret <;> decide

section

variable {o : Nat} {source : Bytes} (hs : source.isUtf8 = true) (ho : source.IsBoundary o)
include hs ho

/-- The character at an offset is the first one of what is shown of the rest of its line. -/
theorem head?_decode_drop {x returns : Bytes} (hx : onward source o = x ++ returns)
    (hreturns : ∀ b ∈ returns, isReturn b = true) (hne : x ≠ []) :
    (decode (source.drop o)).head? = (decode x).head? := by
  obtain ⟨rest, hrest, hafresh⟩ := exists_eq_onward_append source o
  have hdrop : source.drop o = x ++ (returns ++ rest) := by
    rw [hrest, hx, List.append_assoc]
  have hcut : StartsAfresh (returns ++ rest) := by
    cases returns with
    | nil => exact hafresh
    | cons r returns =>
      obtain rfl : r = 13 := by simpa [isReturn] using hreturns r List.mem_cons_self
      exact isContinuation_of_lt (by decide)
  have hutf8 := (ho.isUtf8 hs).2
  rw [hdrop] at hutf8 ⊢
  rw [decode_append (isUtf8_of_append hutf8 hcut).1]
  exact List.head?_append_of_ne_nil _ (decode_ne_nil hne)

theorem Listing.points_around {lines more : List Bytes} {start : Bytes}
    (h : Lies source o lines start more) {width : Nat}
    (hwidth : (ofNat (ofOffset source o).line).length ≤ width) :
    (Listing.around width (ofOffset source o) lines (start ++ onward source o) more).Points source o
      (ofOffset source o).line (width + 5 + ((ofOffset source o).column - 1)) := by
  rw [h.position] at hwidth ⊢
  dsimp only at hwidth ⊢
  rw [Nat.add_sub_cancel]
  -- The gutter is ASCII, so that it has as many characters as bytes.
  have hascii := @ascii_gutter "> " (by decide +kernel) width (ofNat (lines.length + 1))
    fun b hb => lt_of_isDigit (isDigit_of_mem_ofNat hb)
  have hlength := @length_gutter "> " rfl width _ hwidth
  generalize hfront : gutter "> " width (ofNat (lines.length + 1)) = front at hascii hlength
  have hutf8 : (front ++ start).isUtf8 = true := isUtf8_append (isUtf8_ascii hascii) h.isUtf8
  have hindex : (decode (front ++ start)).length = width + 5 + start.runeCount := by
    rw [decode_append (isUtf8_ascii hascii), decode_ascii hascii, List.length_append,
      List.length_map, hlength, runeCount]
  obtain ⟨returns, htext, hreturns, hlast⟩ :=
    exists_eq_trimEnd_append isReturn (start ++ onward source o)
  have hmarked : numbered width (lines.length + 1) (lines.length + 1) (start ++ onward source o) =
      front ++ trimEnd isReturn (start ++ onward source o) := by
    rw [numbered, if_pos rfl, hfront]
  generalize trimEnd isReturn (start ++ onward source o) = shown at htext hlast hmarked
  constructor
  case caret =>
    obtain ⟨front, hcaret, hfront, hnot⟩ := decode_caretRow width (start.runeCount + 1)
    exact ⟨front, hcaret, hfront, hnot⟩
  case continues =>
    have hrow : front ++ shown ++ returns = front ++ start ++ onward source o := by
      rw [List.append_assoc, ← htext, List.append_assoc]
    refine ⟨front, shown, returns, hmarked, ?_, hreturns, ?_⟩
    · rw [h.split, Nat.add_sub_cancel, List.getElem?_append_right (Nat.le_refl _), Nat.sub_self,
        htext]
      rfl
    · show _ ≤ (decode (numbered _ _ _ _ ++ returns)).length ∧
        (decode (numbered _ _ _ _ ++ returns)).drop _ = _
      rw [hmarked, hrow, decode_append hutf8, List.length_append, ← hindex, List.drop_left]
      exact ⟨Nat.le_add_right _ _, rfl⟩
  case shows =>
    rintro ⟨b, hb, hshown⟩
    rcases List.append_eq_append_iff.1 htext with ⟨x, rfl, hx⟩ | ⟨y, -, hy⟩
    · -- The byte belongs to what is shown of the line behind its start.
      have hbx : b ∈ x := by
        rcases List.mem_append.1 (hx ▸ hb) with hb | hb
        · exact hb
        · cases hshown.symm.trans (hreturns b hb)
      rw [head?_decode_drop hs ho hx hreturns (List.ne_nil_of_mem hbx)]
      show (decode (numbered _ _ _ _))[_]? = _
      rw [hmarked, ← List.append_assoc, decode_append hutf8,
        List.getElem?_append_right (Nat.le_of_eq hindex), hindex, Nat.sub_self,
        List.head?_eq_getElem?]
    · cases hshown.symm.trans (hreturns b (by simp [hy, hb]))

end

/-- **The caret stands under the offset.** On a boundary between characters of a well-formed source,
the position of an offset determines it: the lines before, with their line breaks, and the
characters of its line before the column are that many bytes. So positions are ordered like
offsets, and no two offsets have the same. The excerpt around the position lists the lines that are
at most two away, and its caret points at the offset. -/
theorem caret_under_offset {source : Bytes} (hs : source.isUtf8 = true) {o : Nat}
    (ho : source.IsBoundary o) :
    let p := ofOffset source o
    let lines := splitOn newline source
    (∃ line, 1 ≤ p.line ∧ lines[p.line - 1]? = some line ∧ 1 ≤ p.column ∧
        p.column - 1 ≤ (decode line).length ∧
        (unlines (lines.take (p.line - 1))).length +
          (((decode line).take (p.column - 1)).flatMap encode).length = o) ∧
      (∀ o', source.IsBoundary o' →
        (o < o' ↔ p.Before (ofOffset source o')) ∧ (ofOffset source o' = p → o' = o)) ∧
      (source ≠ [] → ∃ index, ∃ l : Listing,
        splitOn newline (around source p) = l.rows ++ [[]] ∧
          l.Shows lines p.line (ofNat (min lines.length (p.line + 2))).length ∧
          l.Points source o p.line index) := by
  intro p lines
  obtain ⟨before, start, more, h⟩ := exists_lies hs ho
  have hp : p = ⟨before.length + 1, start.runeCount + 1⟩ := h.position
  refine ⟨⟨start ++ onward source o, ?_⟩, fun o' ho' => ⟨?_, fun hsame => ?_⟩, fun hne => ?_⟩
  · have hlines : lines = before ++ (start ++ onward source o) :: more := h.split
    have hcolumn : start.runeCount ≤ (decode (start ++ onward source o)).length := by
      rw [decode_append h.isUtf8, List.length_append]
      exact Nat.le_add_right _ _
    have hoffset := h.offset ho.le
    rw [hp, hlines]
    simp only [Nat.add_sub_cancel, List.take_left]
    refine ⟨by omega, ?_, by omega, hcolumn, hoffset⟩
    rw [List.getElem?_append_right (Nat.le_refl _), Nat.sub_self]
    rfl
  · exact (before_iff hs ho ho').symm
  · exact ofOffset_inj hs ho' ho hsame
  · have hline : p.line = before.length + 1 := by rw [hp]
    obtain ⟨hwidth, hrows, hshows⟩ := exists_listing hne h.split hline rfl
    exact ⟨_, _, hrows, hshows, Listing.points_around hs ho h hwidth⟩

/-- A place behind characters of two bytes, on a line that ends with a carriage return. -/
theorem caret_under_offset_umlaut :
    let source := utf8 "x = 1;\r\nß = é;\r\ny"
    source.isUtf8 = true ∧ source.IsBoundary 13 ∧ ofOffset source 13 = ⟨2, 5⟩ ∧
      ∃ index, ∃ l : Listing, splitOn newline (around source ⟨2, 5⟩) = l.rows ++ [[]] ∧
        l.Shows (splitOn newline source) 2 1 ∧ l.Points source 13 2 index := by
  intro source
  have hs : source.isUtf8 = true := isUtf8_iff.2 ⟨_, rfl⟩
  have ho : source.IsBoundary 13 := ⟨by decide, (rfl : isContinuation 0xC3 = false)⟩
  have hp : ofOffset source 13 = ⟨2, 5⟩ := by decide +kernel
  have hwidth : (ofNat (min (splitOn newline source).length (2 + 2))).length = 1 := by
    decide +kernel
  obtain ⟨-, -, hexcerpt⟩ := caret_under_offset hs ho
  obtain ⟨index, l, hrows, hshows, hpoints⟩ := hexcerpt (by decide)
  rw [show ofOffset source (13 : Nat) = ⟨2, 5⟩ from hp] at hrows hshows hpoints
  rw [hwidth] at hshows
  exact ⟨hs, ho, hp, index, l, hrows, hshows, hpoints⟩

end Excerpt

end Quartz
