import Quartz.Text.Utf8

/-!
# `Quartz.Proofs.Text.Utf8`: well-formed text is a text of characters

`Rune.decode` tells well-formed sequences from stray bytes by ranges of bytes. What the ranges mean
is said here once, for each length of a sequence (`encode_eq_one_iff` to `encode_eq_four_iff`): a
sequence fits exactly if it is how its character is encoded. So nothing is lost in reading
(`encode_decode`), characters are read back as they were written (`decode_flatMap_append`), and a
text is well-formed exactly if it is the encoding of a string (`isUtf8_iff`).

A text can be cut between two characters and nowhere else. The bytes inside a sequence are
continuation bytes and its first byte is none, so a cut in front of any other byte leaves two
well-formed texts (`isUtf8_of_append`). That holds in particular before and behind every ASCII byte.
-/

set_option autoImplicit false

namespace Quartz

variable {b a : UInt8} {s t : Bytes} {c : Char} {n : Nat}

namespace Rune

open String

/-! ### Bytes as numbers -/

theorem announced_eq (b : UInt8) : announced b =
    if b.toNat < 0x80 then 1 else if b.toNat < 0xC2 then 0 else if b.toNat < 0xE0 then 2
    else if b.toNat < 0xF0 then 3 else if b.toNat < 0xF5 then 4 else 0 := by
  simp [announced, UInt8.lt_iff_toNat_lt]

theorem payload_lt (b : UInt8) : payload b < 64 := Nat.mod_lt _ (by decide)

theorem isContinuation_iff : isContinuation b = true ↔ b.toNat = 0x80 + payload b := by
  simp only [isContinuation, Bool.and_eq_true, decide_eq_true_eq, UInt8.le_iff_toNat_le, payload]
  show 0x80 ≤ b.toNat ∧ b.toNat ≤ 0xBF ↔ _
  omega

theorem isContinuation_of_announced (h : announced b ≠ 0) : isContinuation b = false := by
  rw [Bool.eq_false_iff, ne_eq, isContinuation_iff]
  have hlt := payload_lt b
  grind [announced_eq]

/-- A second byte is a continuation byte. Behind four first bytes its payload is bounded. -/
theorem secondFits_iff :
    secondFits a b = true ↔ isContinuation b = true ∧
      (a.toNat = 0xE0 → 0x20 ≤ payload b) ∧ (a.toNat = 0xED → payload b < 0x20) ∧
      (a.toNat = 0xF0 → 0x10 ≤ payload b) ∧ (a.toNat = 0xF4 → payload b < 0x10) := by
  rw [isContinuation_iff]
  have hb : payload b = b.toNat % 64 := rfl
  simp only [secondFits, secondRange, ← UInt8.toNat_inj]
  repeat' split
  all_goals
    simp [UInt8.le_iff_toNat_le] at *
    omega

theorem ofNat_eq_iff (h : n < 256) : UInt8.ofNat n = b ↔ n = b.toNat := by
  rw [← UInt8.toNat_inj, UInt8.toNat_ofNat', Nat.mod_eq_of_lt h]

/-- A byte with six bits of a number is a continuation byte with these bits as payload. -/
theorem ofNat_continuation_iff :
    UInt8.ofNat (n % 64 + 0x80) = b ↔ isContinuation b = true ∧ n % 64 = payload b := by
  rw [ofNat_eq_iff (by omega), isContinuation_iff, payload]
  omega

theorem eq_ofNat_iff (h : n.isValidChar) : c = Char.ofNat n ↔ c.val.toNat = n := by
  have hn : (Char.ofNat n).val.toNat = n := by
    rw [Char.ofNat, dif_pos h]
    rfl
  rw [← Char.val_inj, ← UInt32.toNat_inj, hn]

/-! ### The bytes of a character -/

theorem encode_eq_one_iff : utf8EncodeChar c = [a] ↔ announced a = 1 ∧ c = Char.ofNat a.toNat := by
  have hann := announced_eq a
  unfold utf8EncodeChar
  dsimp only
  constructor
  · intro h
    split at h
    · simp only [List.cons.injEq, and_true] at h
      rw [ofNat_eq_iff (by omega)] at h
      rw [hann, if_pos (by omega), eq_ofNat_iff (.inl (by omega))]
      exact ⟨rfl, h⟩
    · repeat' split at h
      all_goals simp at h
  · rintro ⟨h, hc⟩
    have ha : a.toNat < 0x80 := by grind
    rw [eq_ofNat_iff (.inl (by omega))] at hc
    rw [hc, if_pos (by omega), UInt8.ofNat_toNat]

theorem encode_eq_two_iff :
    utf8EncodeChar c = [a, b] ↔ announced a = 2 ∧ secondFits a b = true ∧
      c = Char.ofNat ((a.toNat - 0xC0) * 64 + payload b) := by
  have hann := announced_eq a
  have hltb := payload_lt b
  rw [secondFits_iff]
  unfold utf8EncodeChar
  dsimp only
  constructor
  · intro h
    split at h
    · simp at h
    split at h
    · simp only [List.cons.injEq, and_true, ofNat_continuation_iff] at h
      obtain ⟨ha, hb, hpb⟩ := h
      rw [ofNat_eq_iff (by omega)] at ha
      rw [hann, if_neg (by omega), if_neg (by omega), if_pos (by omega),
        eq_ofNat_iff (.inl (by omega))]
      exact ⟨rfl, ⟨hb, by omega⟩, by omega⟩
    · split at h <;> simp at h
  · rintro ⟨h, hfits, hc⟩
    have ha : 0xC2 ≤ a.toNat ∧ a.toNat < 0xE0 := by grind
    rw [eq_ofNat_iff (.inl (by omega))] at hc
    rw [if_neg (by omega), if_pos (by omega)]
    simp only [List.cons.injEq, and_true, ofNat_continuation_iff]
    rw [ofNat_eq_iff (by omega)]
    exact ⟨by omega, hfits.1, by omega⟩

theorem encode_eq_three_iff {d : UInt8} :
    utf8EncodeChar c = [a, b, d] ↔ announced a = 3 ∧ secondFits a b = true ∧
      isContinuation d = true ∧
      c = Char.ofNat (((a.toNat - 0xE0) * 64 + payload b) * 64 + payload d) := by
  have hann := announced_eq a
  have hltb := payload_lt b
  have hltd := payload_lt d
  have hvalid : c.val.toNat < 0xD800 ∨ 0xDFFF < c.val.toNat ∧ c.val.toNat < 0x110000 := c.valid
  rw [secondFits_iff]
  unfold utf8EncodeChar
  dsimp only
  constructor
  · intro h
    split at h
    · simp at h
    split at h
    · simp at h
    split at h
    · simp only [List.cons.injEq, and_true, ofNat_continuation_iff] at h
      obtain ⟨ha, ⟨hb, hpb⟩, hd, hpd⟩ := h
      rw [ofNat_eq_iff (by omega)] at ha
      have hc : c.val.toNat = ((a.toNat - 0xE0) * 64 + payload b) * 64 + payload d := by omega
      -- With the digits put together, no division is left for what follows.
      clear hpb hpd
      rw [hann, if_neg (by omega), if_neg (by omega), if_neg (by omega), if_pos (by omega),
        eq_ofNat_iff (hc ▸ c.valid)]
      exact ⟨rfl, ⟨hb, by omega⟩, hd, hc⟩
    · simp at h
  · rintro ⟨h, hfits, hd, hc⟩
    have ha : 0xE0 ≤ a.toNat ∧ a.toNat < 0xF0 := by grind
    rw [eq_ofNat_iff (by unfold Nat.isValidChar; omega)] at hc
    rw [if_neg (by omega), if_neg (by omega), if_pos (by omega)]
    simp only [List.cons.injEq, and_true, ofNat_continuation_iff]
    rw [ofNat_eq_iff (by omega)]
    clear hvalid
    exact ⟨by omega, ⟨hfits.1, by omega⟩, hd, by omega⟩

theorem encode_eq_four_iff {d e : UInt8} :
    utf8EncodeChar c = [a, b, d, e] ↔ announced a = 4 ∧ secondFits a b = true ∧
      isContinuation d = true ∧ isContinuation e = true ∧
      c = Char.ofNat ((((a.toNat - 0xF0) * 64 + payload b) * 64 + payload d) * 64 + payload e) := by
  have hann := announced_eq a
  have hltb := payload_lt b
  have hltd := payload_lt d
  have hlte := payload_lt e
  have hvalid : c.val.toNat < 0xD800 ∨ 0xDFFF < c.val.toNat ∧ c.val.toNat < 0x110000 := c.valid
  rw [secondFits_iff]
  unfold utf8EncodeChar
  dsimp only
  constructor
  · intro h
    split at h
    · simp at h
    split at h
    · simp at h
    split at h
    · simp at h
    · simp only [List.cons.injEq, and_true, ofNat_continuation_iff] at h
      obtain ⟨ha, ⟨hb, hpb⟩, ⟨hd, hpd⟩, he, hpe⟩ := h
      rw [ofNat_eq_iff (by omega)] at ha
      have hc : c.val.toNat =
          (((a.toNat - 0xF0) * 64 + payload b) * 64 + payload d) * 64 + payload e := by omega
      clear hpb hpd hpe
      rw [hann, if_neg (by omega), if_neg (by omega), if_neg (by omega), if_neg (by omega),
        if_pos (by omega), eq_ofNat_iff (hc ▸ c.valid)]
      exact ⟨rfl, ⟨hb, by omega⟩, hd, he, hc⟩
  · rintro ⟨h, hfits, hd, he, hc⟩
    have ha : 0xF0 ≤ a.toNat ∧ a.toNat < 0xF5 := by grind
    rw [eq_ofNat_iff (by unfold Nat.isValidChar; omega)] at hc
    rw [if_neg (by omega), if_neg (by omega), if_neg (by omega)]
    simp only [List.cons.injEq, and_true, ofNat_continuation_iff]
    rw [ofNat_eq_iff (by omega)]
    clear hvalid
    exact ⟨by omega, ⟨hfits.1, by omega⟩, ⟨hd, by omega⟩, he, by omega⟩

theorem encode_cases (c : Char) :
    (∃ a, utf8EncodeChar c = [a]) ∨ (∃ a b, utf8EncodeChar c = [a, b]) ∨
      (∃ a b d, utf8EncodeChar c = [a, b, d]) ∨ ∃ a b d e, utf8EncodeChar c = [a, b, d, e] := by
  unfold utf8EncodeChar
  dsimp only
  repeat' split
  all_goals simp

/-- A sequence has a first byte that is no continuation byte, and continuation bytes behind it. -/
theorem exists_encode_eq_cons (c : Char) :
    ∃ b more, utf8EncodeChar c = b :: more ∧ isContinuation b = false ∧
      ∀ d ∈ more, isContinuation d = true := by
  rcases encode_cases c with ⟨a, h⟩ | ⟨a, b, h⟩ | ⟨a, b, d, h⟩ | ⟨a, b, d, e, h⟩
  · obtain ⟨ha, -⟩ := encode_eq_one_iff.1 h
    exact ⟨a, _, h, isContinuation_of_announced (by omega), by simp⟩
  · obtain ⟨ha, hb, -⟩ := encode_eq_two_iff.1 h
    exact ⟨a, _, h, isContinuation_of_announced (by omega), by simp [(secondFits_iff.1 hb).1]⟩
  · obtain ⟨ha, hb, hd, -⟩ := encode_eq_three_iff.1 h
    exact ⟨a, _, h, isContinuation_of_announced (by omega), by simp [(secondFits_iff.1 hb).1, hd]⟩
  · obtain ⟨ha, hb, hd, he, -⟩ := encode_eq_four_iff.1 h
    exact ⟨a, _, h, isContinuation_of_announced (by omega),
      by simp [(secondFits_iff.1 hb).1, hd, he]⟩

/-! ### Reading and writing -/

/-- Where a character is written, it is read. -/
theorem first_of_encode {more : Bytes} (h : utf8EncodeChar c = b :: more) (behind : Bytes) :
    first b (more ++ behind) = (.char c, more.length) := by
  unfold first
  rcases encode_cases c with ⟨a, hc⟩ | ⟨a, b, hc⟩ | ⟨a, b, d, hc⟩ | ⟨a, b, d, e, hc⟩
  · obtain ⟨rfl, rfl⟩ := List.cons.inj (h.symm.trans hc)
    obtain ⟨ha, rfl⟩ := encode_eq_one_iff.1 hc
    simp [ha]
  · obtain ⟨rfl, rfl⟩ := List.cons.inj (h.symm.trans hc)
    obtain ⟨ha, hb, rfl⟩ := encode_eq_two_iff.1 hc
    simp [ha, hb]
  · obtain ⟨rfl, rfl⟩ := List.cons.inj (h.symm.trans hc)
    obtain ⟨ha, hb, hd, rfl⟩ := encode_eq_three_iff.1 hc
    simp [ha, hb, hd]
  · obtain ⟨rfl, rfl⟩ := List.cons.inj (h.symm.trans hc)
    obtain ⟨ha, hb, hd, he, rfl⟩ := encode_eq_four_iff.1 hc
    simp [ha, hb, hd, he]

/-- What is read is a stray byte, or a character that is written there. -/
theorem first_cases (b : UInt8) (rest : Bytes) :
    first b rest = (.stray b, 0) ∨
      ∃ c more behind, rest = more ++ behind ∧ utf8EncodeChar c = b :: more ∧
        first b rest = (.char c, more.length) := by
  unfold first
  split
  · next h => exact .inr ⟨_, [], _, rfl, encode_eq_one_iff.2 ⟨h, rfl⟩, rfl⟩
  · next c behind h =>
      split
      · next hfits => exact .inr ⟨_, [c], behind, rfl, encode_eq_two_iff.2 ⟨h, hfits, rfl⟩, rfl⟩
      · exact .inl rfl
  · next c d behind h =>
      split
      · next hfits =>
          rw [Bool.and_eq_true] at hfits
          exact .inr ⟨_, [c, d], behind, rfl, encode_eq_three_iff.2 ⟨h, hfits.1, hfits.2, rfl⟩, rfl⟩
      · exact .inl rfl
  · next c d e behind h =>
      split
      · next hfits =>
          rw [Bool.and_eq_true, Bool.and_eq_true] at hfits
          exact .inr ⟨_, [c, d, e], behind, rfl,
            encode_eq_four_iff.2 ⟨h, hfits.1.1, hfits.1.2, hfits.2, rfl⟩, rfl⟩
      · exact .inl rfl
  · exact .inl rfl

@[simp] theorem decode_nil : decode [] = [] := by rw [decode]

theorem decode_encode_append (c : Char) (s : Bytes) :
    decode (utf8EncodeChar c ++ s) = .char c :: decode s := by
  obtain ⟨b, more, hc, -, -⟩ := exists_encode_eq_cons c
  rw [hc, List.cons_append, decode, first_of_encode hc, List.drop_left]

/-- Characters are read as they were written, whatever follows them. -/
theorem decode_flatMap_append (cs : List Char) (s : Bytes) :
    decode (cs.flatMap utf8EncodeChar ++ s) = cs.map .char ++ decode s := by
  induction cs with
  | nil => rfl
  | cons c cs ih =>
    rw [List.flatMap_cons, List.append_assoc, decode_encode_append, ih, List.map_cons,
      List.cons_append]

/-- **Reading loses nothing.** The runes of a text are written as that text. -/
theorem encode_decode (s : Bytes) : (decode s).flatMap encode = s := by
  fun_induction decode s with
  | case1 => rfl
  | case2 b rest ih =>
    rw [List.flatMap_cons, ih]
    rcases first_cases b rest with h | ⟨c, more, behind, rfl, hc, h⟩
    · rw [h]
      rfl
    · rw [h, encode, hc, List.drop_left, List.cons_append]

theorem decode_ne_nil (h : s ≠ []) : decode s ≠ [] := by
  intro hnil
  have hencode := encode_decode s
  rw [hnil] at hencode
  exact h hencode.symm

end Rune

namespace Bytes

open Rune String

/-! ### Well-formed text -/

theorem decode_flatMap (cs : List Char) : decode (cs.flatMap utf8EncodeChar) = cs.map .char := by
  have hdecode := decode_flatMap_append cs []
  rwa [List.append_nil, decode_nil, List.append_nil] at hdecode

theorem isUtf8_flatMap (cs : List Char) : isUtf8 (cs.flatMap utf8EncodeChar) = true := by
  rw [isUtf8, decode_flatMap, List.all_map]
  exact List.all_eq_true.2 fun _ _ => rfl

/-- **A text is well-formed exactly if it is the encoding of a string.** -/
theorem isUtf8_iff : s.isUtf8 = true ↔ ∃ text : String, s = utf8 text := by
  constructor
  · intro h
    -- The characters that are read make up the string.
    have hchars : (decode s).map encode = (decode s).map fun r => utf8EncodeChar r.toChar := by
      refine List.map_congr_left fun r hr => ?_
      have hchar := List.all_eq_true.1 h r hr
      cases r with
      | char c => rfl
      | stray b => cases hchar
    refine ⟨.ofList ((decode s).map toChar), ?_⟩
    rw [utf8, String.toList_ofList, List.flatMap_map, List.flatMap_def, ← hchars,
      ← List.flatMap_def, encode_decode]
  · rintro ⟨text, rfl⟩
    exact isUtf8_flatMap text.toList

@[simp] theorem isUtf8_nil : isUtf8 [] = true := isUtf8_flatMap []

/-- Behind a well-formed text, reading starts anew. -/
theorem decode_append (h : s.isUtf8 = true) (t : Bytes) :
    decode (s ++ t) = decode s ++ decode t := by
  obtain ⟨text, rfl⟩ := isUtf8_iff.1 h
  rw [utf8, decode_flatMap_append, decode_flatMap]

theorem isUtf8_append_iff (hs : s.isUtf8 = true) : (s ++ t).isUtf8 = true ↔ t.isUtf8 = true := by
  unfold isUtf8 at hs
  rw [isUtf8, decode_append hs, List.all_append, hs, Bool.true_and, isUtf8]

theorem isUtf8_append (hs : s.isUtf8 = true) (ht : t.isUtf8 = true) : (s ++ t).isUtf8 = true :=
  (isUtf8_append_iff hs).2 ht

/-- The characters of a string are counted. -/
theorem runeCount_utf8 (text : String) : (utf8 text).runeCount = text.length := by
  rw [runeCount, utf8, decode_flatMap, List.length_map, String.length_toList]

/-! ### ASCII -/

theorem isContinuation_of_lt (h : b < 0x80) : isContinuation b = false := by
  have hlt : b.toNat < 0x80 := UInt8.lt_iff_toNat_lt.1 h
  rw [Bool.eq_false_iff, ne_eq, isContinuation_iff]
  omega

theorem decode_cons_of_lt (h : b < 0x80) (s : Bytes) :
    decode (b :: s) = .char (Char.ofNat b.toNat) :: decode s := by
  have hone : announced b = 1 := if_pos h
  have hencode := encode_eq_one_iff.2 ⟨hone, rfl⟩
  rw [← List.singleton_append, ← hencode, decode_encode_append]

/-- In an ASCII text every byte is a character. -/
theorem decode_ascii (h : ∀ b ∈ s, b < 0x80) :
    decode s = s.map fun b => .char (Char.ofNat b.toNat) := by
  induction s with
  | nil => exact decode_nil
  | cons b s ih =>
    obtain ⟨hb, hs⟩ := List.forall_mem_cons.1 h
    rw [decode_cons_of_lt hb, ih hs, List.map_cons]

theorem isUtf8_ascii (h : ∀ b ∈ s, b < 0x80) : s.isUtf8 = true := by
  rw [isUtf8, decode_ascii h, List.all_map]
  exact List.all_eq_true.2 fun _ _ => rfl

theorem lt_of_isDigit (h : isDigit b = true) : b < 0x80 := by
  simp only [isDigit, Bool.and_eq_true, decide_eq_true_eq, UInt8.le_iff_toNat_le] at h
  rw [UInt8.lt_iff_toNat_lt]
  exact Nat.lt_of_le_of_lt h.2 (by decide)

/-- Only an ASCII byte is well-formed alone. -/
theorem lt_of_isUtf8_singleton (h : isUtf8 [b] = true) : b < 0x80 := by
  rw [isUtf8, decode] at h
  rcases first_cases b [] with hstray | ⟨c, more, behind, hnil, hc, -⟩
  · rw [hstray] at h
    cases h
  · obtain ⟨rfl, -⟩ := List.append_eq_nil_iff.1 hnil.symm
    obtain ⟨hone, -⟩ := encode_eq_one_iff.1 hc
    rw [UInt8.lt_iff_toNat_lt]
    show b.toNat < 0x80
    grind [announced_eq]

/-! ### Cuts -/

/-- A text does not start inside a character: its first byte is no continuation byte. -/
def StartsAfresh : Bytes → Prop
  | [] => True
  | b :: _ => isContinuation b = false

theorem startsAfresh_of_isUtf8 (h : s.isUtf8 = true) : s.StartsAfresh := by
  obtain ⟨text, rfl⟩ := isUtf8_iff.1 h
  unfold utf8
  cases text.toList with
  | nil => trivial
  | cons c cs =>
    obtain ⟨b, more, hc, hb, -⟩ := exists_encode_eq_cons c
    rw [List.flatMap_cons, hc]
    exact hb

/-- **A well-formed text is cut between characters.** In front of any byte but a continuation byte
it falls into two well-formed texts. -/
theorem isUtf8_of_append (h : (s ++ t).isUtf8 = true) (ht : t.StartsAfresh) :
    s.isUtf8 = true ∧ t.isUtf8 = true := by
  obtain ⟨text, htext⟩ := isUtf8_iff.1 h
  unfold utf8 at htext
  generalize text.toList = cs at htext
  clear h
  -- On the characters. The cut is in front of the first one, or behind it, but not inside it.
  induction cs generalizing s with
  | nil =>
    obtain ⟨rfl, rfl⟩ := List.append_eq_nil_iff.1 htext
    exact ⟨isUtf8_nil, isUtf8_nil⟩
  | cons c cs ih =>
    cases s with
    | nil =>
      rw [List.nil_append] at htext
      rw [htext]
      exact ⟨isUtf8_nil, isUtf8_flatMap _⟩
    | cons b s =>
      obtain ⟨a, more, hc, -, hmore⟩ := exists_encode_eq_cons c
      rw [List.flatMap_cons, hc, List.cons_append, List.cons_append] at htext
      obtain ⟨rfl, htail⟩ := List.cons.inj htext
      rcases List.append_eq_append_iff.1 htail with ⟨inside, rfl, rfl⟩ | ⟨x, rfl, hx⟩
      · cases inside with
        | nil =>
          rw [List.append_nil] at hc
          have hone : s.cons b = [c].flatMap utf8EncodeChar := by simp [hc]
          rw [hone]
          exact ⟨isUtf8_flatMap _, isUtf8_flatMap _⟩
        | cons d inside =>
          cases ht.symm.trans (hmore d (by simp))
      · obtain ⟨hx', ht'⟩ := ih hx.symm
        have hsplit : b :: (more ++ x) = [c].flatMap utf8EncodeChar ++ x := by simp [hc]
        rw [hsplit]
        exact ⟨isUtf8_append (isUtf8_flatMap _) hx', ht'⟩

/-- **An ASCII byte is a character of its own**, so that it can be cut off on both sides. -/
theorem isUtf8_of_append_cons (hb : b < 0x80) (h : (s ++ b :: t).isUtf8 = true) :
    s.isUtf8 = true ∧ t.isUtf8 = true := by
  obtain ⟨hs, ht⟩ := isUtf8_of_append h (isContinuation_of_lt hb)
  rw [isUtf8, decode_cons_of_lt hb] at ht
  exact ⟨hs, ht⟩

/-- An offset between two characters: the end, or the place of a byte that is no continuation
byte. -/
structure IsBoundary (s : Bytes) (o : Nat) : Prop where
  le : o ≤ s.length
  afresh : StartsAfresh (s.drop o)

/-- What lies before and behind a boundary are whole characters. -/
theorem IsBoundary.isUtf8 {o : Nat} (h : s.IsBoundary o) (hs : s.isUtf8 = true) :
    isUtf8 (s.take o) = true ∧ isUtf8 (s.drop o) = true :=
  isUtf8_of_append (by rwa [List.take_append_drop]) h.afresh

theorem isBoundary_of_append (h : t.isUtf8 = true) :
    (s ++ t).IsBoundary s.length where
  le := by simp
  afresh := by
    rw [List.drop_left]
    exact startsAfresh_of_isUtf8 h

end Bytes

end Quartz
