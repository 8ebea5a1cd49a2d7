import Mathlib.Data.List.TakeWhile
import Quartz.Proofs.Path
import Quartz.Proofs.Text.Utf8
import Quartz.Volume

/-!
# `Quartz.Proofs.Volume`: files are found without regard to case

A valid path has plain elements only, so that a file in a directory is told by a plain name:
`Holds`. A directory lists exactly the names that it holds, in byte order (`mem_listing`,
`pairwise_listing`).

`Finds` says what a lookup answers without saying how. The file with the very name that is asked for
is found by its path, and any other one by going through the directory. Nothing lies below a file, so
the two ways find files in the same directories (`isDirectory_of_holds`). So whether a file is found
does not depend on the case of the name (`find_ignores_case`). What is found is a file and can be read
(`read_ne_unread`).
-/

set_option autoImplicit false

namespace Quartz

open Bytes Path

namespace Volume

variable {v : Volume} {dir name n p data : Bytes}

/-! ### Paths of a volume -/

/-- A path is valid if it is well-formed text, and the root or made of plain elements. -/
theorem validPath_iff :
    validPath p = true ↔ p.isUtf8 = true ∧ (p = here ∨ ∀ e ∈ splitOn slash p, IsPlain e) := by
  simp only [validPath, Bool.and_eq_true, Bool.or_eq_true, decide_eq_true_eq, List.all_eq_true]
  refine and_congr_right fun _ => or_congr_right (forall₂_congr fun e he => ?_)
  exact ⟨fun h => ⟨h.1.1, not_mem_of_mem_splitOn he, h.1.2, h.2⟩,
    fun h => ⟨⟨h.ne_nil, h.ne_here⟩, h.ne_above⟩⟩

theorem exists_render_of_validPath (h : validPath p = true) :
    ∃ es, p = render es ∧ ∀ e ∈ es, IsPlain e := by
  rcases (validPath_iff.1 h).2 with rfl | hall
  · exact ⟨[], rfl, by simp⟩
  · have hne : splitOn slash p ≠ [] := by
      obtain ⟨more, hmore⟩ := exists_splitOn_eq_cons slash p
      simp [hmore]
    exact ⟨_, by rw [render_of_ne_nil hne, join_splitOn], hall⟩

theorem validPath_of_file? (h : v.file? p = some data) : validPath p = true := by
  unfold file? at h
  split at h
  · assumption
  · cases h

theorem mem_files_of_file? (h : v.file? p = some data) : (p, data) ∈ v.files := by
  rw [file?, if_pos (validPath_of_file? h)] at h
  obtain ⟨front, rest, hfiles, -⟩ := List.lookup_eq_some_iff.1 h
  simp [hfiles]

theorem mem_paths_of_file? (h : v.file? p = some data) : p ∈ v.paths :=
  List.mem_append_left _ (List.mem_map_of_mem (mem_files_of_file? h))

/-- The root is no file, for everything lies below it. -/
theorem file?_here (v : Volume) : v.file? here = none := by
  refine Option.eq_none_iff_forall_not_mem.2 fun data hdata => ?_
  have hapart := v.apart _ (mem_files_of_file? hdata) _ (mem_paths_of_file? hdata)
  cases hapart

/-! ### Entries of a directory -/

/-- A directory and a plain name behind it make the path of an entry. -/
theorem join_ofHost (dir : Bytes) (hn : IsPlain n) :
    Path.join (ofHost dir) n = inside (ofHost dir) n := by
  obtain ⟨es, hdir, hes, -⟩ := exists_ofHost dir
  rw [hdir, join_render hes hn]
  by_cases hnil : es = []
  · subst hnil
    rfl
  · have hne : render es ≠ here := by
      intro hhere
      have helements := elements_render hes
      rw [hhere] at helements
      exact hnil helements.symm
    rw [inside, if_neg hne, render_concat hnil]

theorem below?_inside (dir n : Bytes) : below? dir (inside dir n) = some n := by
  unfold below? inside
  split
  · rfl
  · have hpaths : (dir ++ [slash]).isPrefixOf (dir ++ slash :: n) = true := by
      rw [List.append_cons]
      simp
    rw [if_pos hpaths, List.append_cons, List.drop_left' (by simp)]

theorem inside_eq_here_iff : inside dir n = here ↔ dir = here ∧ n = here := by
  unfold inside
  split
  · next hdir => simp [hdir]
  · next hdir =>
      refine ⟨fun h => ?_, fun h => absurd h.1 hdir⟩
      have hslash : slash ∈ here := h ▸ by simp
      exact absurd hslash (by decide)

/-- An entry at a valid path has a plain name and lies at a valid path. -/
theorem of_validPath_inside (h : validPath (inside dir n) = true) (hn : slash ∉ n)
    (hne : inside dir n ≠ here) : validPath dir = true ∧ IsPlain n := by
  obtain ⟨hutf8, hplain⟩ := validPath_iff.1 h
  replace hplain := hplain.resolve_left hne
  by_cases hdir : dir = here
  · rw [inside, if_pos hdir, splitOn_of_not_mem hn, List.forall_mem_singleton] at hplain
    exact ⟨validPath_iff.2 ⟨isUtf8_iff.2 ⟨".", hdir⟩, .inl hdir⟩, hplain⟩
  · rw [inside, if_neg hdir] at hutf8 hplain
    rw [splitOn_append, splitOn_of_not_mem hn, List.forall_mem_append,
      List.forall_mem_singleton] at hplain
    have hdirUtf8 := (isUtf8_of_append_cons (by decide) hutf8).1
    exact ⟨validPath_iff.2 ⟨hdirUtf8, .inr hplain.1⟩, hplain.2⟩

/-- A file lies in a directory under a name. -/
def Holds (v : Volume) (dir name : Bytes) : Prop :=
  IsPlain name ∧ (v.file? (inside dir name)).isSome = true

/-! ### Listing a directory -/

/-- What is listed of a directory. -/
def listing (v : Volume) (dir : Bytes) : List Bytes :=
  (v.names dir).filter fun name => (v.file? (inside dir name)).isSome

theorem filesIn_eq_ok_iff {l : List Bytes} :
    v.filesIn dir = .ok l ↔ v.isDirectory dir = true ∧ l = v.listing dir := by
  unfold filesIn
  dsimp only
  split
  · next hdir => simp [hdir, listing, eq_comm]
  · next hdir =>
      refine ⟨fun hl => ?_, fun h => absurd h.1 hdir⟩
      repeat' split at hl
      all_goals cases hl

theorem distinct_sublist (l : List Bytes) : (distinct l).Sublist l := by
  fun_induction distinct l with
  | case1 b rest ih => exact .cons _ ih
  | case2 a b rest _ ih => exact .cons_cons _ ih
  | case3 l => exact .refl l

theorem mem_distinct {a : Bytes} {l : List Bytes} : a ∈ distinct l ↔ a ∈ l := by
  fun_induction distinct l with
  | case1 b rest ih => simpa using ih
  | case2 c b rest _ ih => rw [List.mem_cons, ih, List.mem_cons (l := b :: rest)]
  | case3 l => rfl

theorem mem_names : n ∈ v.names dir ↔
    ∃ p ∈ v.paths, ∃ rest, below? dir p = some rest ∧ rest.takeWhile (· ≠ slash) = n := by
  simp only [names, mem_distinct, mem_sort, List.mem_filterMap, Option.map_eq_some_iff]

theorem pairwise_listing (v : Volume) (dir : Bytes) : (v.listing dir).Pairwise (· ≤ ·) :=
  ((pairwise_sort _).sublist (distinct_sublist _)).filter _

/-- **A directory lists the files that it holds.** -/
theorem mem_listing : n ∈ v.listing dir ↔ v.Holds dir n := by
  rw [listing, List.mem_filter, Holds]
  refine and_congr_left fun hfile => ?_
  obtain ⟨data, hdata⟩ := Option.isSome_iff_exists.1 hfile
  constructor
  · intro hn
    obtain ⟨p, -, rest, -, rfl⟩ := mem_names.1 hn
    have hslash : slash ∉ rest.takeWhile (· ≠ slash) := fun h => by
      simpa using List.all_eq_true.1 List.all_takeWhile slash h
    refine (of_validPath_inside (validPath_of_file? hdata) hslash fun hhere => ?_).2
    rw [hhere, file?_here] at hdata
    cases hdata
  · intro hn
    refine mem_names.2 ⟨_, mem_paths_of_file? hdata, n, below?_inside dir n, ?_⟩
    exact List.takeWhile_eq_self_iff.2 fun b hb =>
      decide_eq_true fun h => hn.slash_not_mem (h ▸ hb)

/-! ### Names up to case -/

theorem equalFold_self (s : Bytes) : s.equalFold s = true := by simp [equalFold]

theorem equalFold_congr {s t u : Bytes} (h : s.equalFold t = true) :
    u.equalFold s = u.equalFold t := by
  rw [equalFold, equalFold, eq_of_beq h]

/-- Only letters become another character when case is folded. -/
theorem eq_of_foldChar {c d : Char} (h : foldChar c = d) (hzero : 0 < d.toNat)
    (hd : d.toNat < 0x41) : c = d := by
  have hruns : ∀ r ∈ foldRuns, 0x41 ≤ r.start + r.shift := by decide +kernel
  rw [foldChar, CaseRun.apply] at h
  split at h
  · next r hr =>
      have hcovers := List.find?_some hr
      simp only [CaseRun.covers, Bool.and_eq_true, decide_eq_true_eq] at hcovers
      have hshift := hruns r (List.mem_of_find?_eq_some hr)
      by_cases hvalid : (c.toNat + r.shift).toNat.isValidChar
      · have hvalue : d.toNat = (c.toNat + r.shift).toNat :=
          (Rune.eq_ofNat_iff hvalid).1 h.symm
        omega
      · rw [Char.ofNat, dif_neg hvalid] at h
        rw [← h] at hzero
        exact absurd hzero (by decide)
  · exact h

/-- Only the same text is equal up to case to one of the marks in paths. -/
theorem eq_of_equalFold {s : Bytes} {b : UInt8} (h : s.equalFold [b] = true)
    (hb : b = slash ∨ b = byte '.') : s = [b] := by
  have hascii : ∀ a ∈ [b], a < 0x80 := by
    rw [List.forall_mem_singleton]
    rcases hb with rfl | rfl <;> decide
  rw [equalFold, decode_ascii hascii, beq_iff_eq] at h
  obtain ⟨r, hr, hfold⟩ := List.map_eq_singleton_iff.1 h
  have hchar : r.toChar = Char.ofNat b.toNat := by
    rcases hb with rfl | rfl
    all_goals exact eq_of_foldChar (hfold.trans (by decide)) (by decide) (by decide)
  rw [← Rune.encode_decode s, hr]
  cases r with
  | char c =>
    subst hchar
    rcases hb with rfl | rfl <;> decide
  | stray a =>
    -- A stray byte reads as the replacement character.
    rw [Rune.toChar] at hchar
    rcases hb with rfl | rfl <;> exact absurd hchar (by decide)

/-! ### Finding files -/

/-- A directory that holds a file can be listed. -/
theorem isDirectory_of_holds (hn : v.Holds dir n) : v.isDirectory dir = true := by
  obtain ⟨data, hdata⟩ := Option.isSome_iff_exists.1 hn.2
  have hne : inside dir n ≠ here := fun h => hn.1.ne_here (inside_eq_here_iff.1 h).2
  have hpath := mem_paths_of_file? hdata
  have hbelow : (v.paths.any fun q => (below? dir q).isSome) = true :=
    List.any_eq_true.2 ⟨_, hpath, by rw [below?_inside, Option.isSome_some]⟩
  have hfile : v.file? dir = none := by
    refine Option.eq_none_iff_forall_not_mem.2 fun other hother => ?_
    have hapart := v.apart _ (mem_files_of_file? hother) _ hpath
    rw [below?_inside] at hapart
    cases hapart
  have hvalid := (of_validPath_inside (validPath_of_file? hdata) hn.1.slash_not_mem hne).1
  simp [isDirectory, hvalid, hfile, hbelow]

/-- What a lookup of a plain name in a directory answers. -/
inductive Finds (v : Volume) (dir name : Bytes) : Except Miss Bytes → Prop
  | named (h : v.Holds dir name) : Finds v dir name (.ok (inside dir name))
  | matched {n : Bytes} (hname : ¬v.Holds dir name) (hn : v.Holds dir n)
      (hfold : n.equalFold name = true)
      (hfirst : ∀ m, v.Holds dir m → m.equalFold name = true → n ≤ m) :
      Finds v dir name (.ok (inside dir n))
  | unmatched (hdir : v.isDirectory dir = true)
      (h : ∀ m, v.Holds dir m → m.equalFold name = false) :
      Finds v dir name (.error (.notFound name dir))
  | unreadable (hdir : v.isDirectory dir ≠ true) (hname : ¬v.Holds dir name) (why : Error) :
      Finds v dir name (.error (.unreadable dir why))

/-- Every lookup of a plain name is answered so. -/
theorem finds_find (v : Volume) (dir : Bytes) (hname : IsPlain name) :
    v.Finds (ofHost dir) name (v.find dir name) := by
  unfold find
  dsimp only
  rw [join_ofHost dir hname]
  by_cases hholds : v.Holds (ofHost dir) name
  · rw [if_pos hholds.2]
    exact .named hholds
  rw [if_neg fun hfile => hholds ⟨hname, hfile⟩]
  by_cases hdir : v.isDirectory (ofHost dir) = true
  · rw [filesIn_eq_ok_iff.2 ⟨hdir, rfl⟩]
    dsimp only
    split
    · next n hn =>
        obtain ⟨hfold, before, after, hsplit, hbefore⟩ := List.find?_eq_some_iff_append.1 hn
        have hheld : v.Holds (ofHost dir) n := mem_listing.1 (by simp [hsplit])
        rw [join_ofHost dir hheld.1]
        refine .matched hholds hheld hfold fun m hm hmfold => ?_
        have hsorted := pairwise_listing v (ofHost dir)
        rw [← mem_listing] at hm
        rw [hsplit] at hsorted hm
        -- A name that matches does not stand before the first match.
        rcases List.mem_append.1 hm with hm | hm
        · exact absurd hmfold (by simpa using hbefore m hm)
        · rcases List.mem_cons.1 hm with rfl | hm
          · exact List.le_refl _
          · exact List.rel_of_pairwise_cons (List.pairwise_append.1 hsorted).2.1 hm
    · next hnone =>
        refine .unmatched hdir fun m hm => ?_
        exact Bool.eq_false_iff.2 (List.find?_eq_none.1 hnone m (mem_listing.2 hm))
  · split
    · exact .unreadable hdir hholds _
    · next hlist => exact absurd (filesIn_eq_ok_iff.1 hlist).1 hdir

/-- A lookup finds a file if the directory holds one with the name, up to case. -/
theorem exists_find_iff (hname : IsPlain name) :
    (∃ p, v.find dir name = .ok p) ↔ ∃ n, v.Holds (ofHost dir) n ∧ n.equalFold name = true := by
  have hfinds := finds_find v dir hname
  generalize v.find dir name = answer at hfinds
  cases hfinds with
  | named h => exact ⟨fun _ => ⟨name, h, equalFold_self name⟩, fun _ => ⟨_, rfl⟩⟩
  | matched _ hn hfold => exact ⟨fun _ => ⟨_, hn, hfold⟩, fun _ => ⟨_, rfl⟩⟩
  | unmatched _ h =>
    exact ⟨fun ⟨p, hp⟩ => (by cases hp), fun ⟨n, hn, hfold⟩ => by simp [h n hn] at hfold⟩
  | unreadable hunlisted =>
    exact ⟨fun ⟨p, hp⟩ => (by cases hp),
      fun ⟨n, hn, _⟩ => absurd (isDirectory_of_holds hn) hunlisted⟩

/-- The file of a directory that a lookup of a name chooses: the one with that very name, and
without it the first one in byte order whose name is equal up to case. -/
structure Chosen (v : Volume) (dir name n : Bytes) : Prop where
  holds : v.Holds dir n
  fold : n.equalFold name = true
  eq_of_holds : v.Holds dir name → n = name
  le_of_not_holds : ¬v.Holds dir name → ∀ m, v.Holds dir m → m.equalFold name = true → n ≤ m

theorem exists_chosen (hname : IsPlain name) (h : v.find dir name = .ok p) :
    ∃ n, p = inside (ofHost dir) n ∧ v.Chosen (ofHost dir) name n := by
  have hfinds := finds_find v dir hname
  rw [h] at hfinds
  cases hfinds with
  | named hn => exact ⟨name, rfl, hn, equalFold_self name, fun _ => rfl, fun h => absurd hn h⟩
  | matched hunheld hn hfold hfirst =>
    exact ⟨_, rfl, hn, hfold, fun h => absurd h hunheld, fun _ => hfirst⟩

theorem find_eq_notFound_iff (hname : IsPlain name) :
    v.find dir name = .error (.notFound name (ofHost dir)) ↔
      v.isDirectory (ofHost dir) = true ∧
        ∀ n, v.Holds (ofHost dir) n → n.equalFold name = false := by
  have hfinds := finds_find v dir hname
  generalize v.find dir name = answer at hfinds
  cases hfinds with
  | named h =>
    refine ⟨fun hp => (by cases hp), fun hnone => ?_⟩
    simpa [equalFold_self] using hnone.2 name h
  | matched _ hn hfold =>
    refine ⟨fun hp => (by cases hp), fun hnone => ?_⟩
    simp [hnone.2 _ hn] at hfold
  | unmatched hdir h => exact ⟨fun _ => ⟨hdir, h⟩, fun _ => rfl⟩
  | unreadable hunlisted => exact ⟨fun hp => (by cases hp), fun h => absurd h.1 hunlisted⟩

/-- **A file is found without regard to the case of its name.** -/
theorem find_ignores_case {f g : Bytes} (hf : IsPlain f) (hg : IsPlain g)
    (hfg : f.equalFold g = true) :
    ((∃ p, v.find dir f = .ok p) ↔ ∃ p, v.find dir g = .ok p) ∧
      (∀ p, v.find dir f = .ok p → ∃ n, p = inside (ofHost dir) n ∧ v.Chosen (ofHost dir) f n) ∧
      (v.find dir f = .error (.notFound f (ofHost dir)) ↔
        (∃ names, v.filesIn (ofHost dir) = .ok names) ∧
          ∀ n, v.Holds (ofHost dir) n → n.equalFold f = false) := by
  refine ⟨?_, fun p hp => exists_chosen hf hp,
    by simp [filesIn_eq_ok_iff, find_eq_notFound_iff hf]⟩
  rw [exists_find_iff hf, exists_find_iff hg]
  exact exists_congr fun n => and_congr_right fun _ => by rw [equalFold_congr hfg]

/-- Two files and a directory with names that are equal up to case. -/
def shelf : Volume :=
  ofEntries .memory [(utf8 "src/k.cry", utf8 "2;"), (utf8 "src/K.cry", utf8 "1;")]
    [utf8 "src/\u212a.cry"]

theorem find_ignores_case_shelf :
    shelf.find (utf8 "src") (utf8 "\u212a.cry") = .ok (utf8 "src/K.cry") ∧
      ((∃ p, shelf.find (utf8 "src") (utf8 "\u212a.cry") = .ok p) ↔
        ∃ p, shelf.find (utf8 "src") (utf8 "k.cry") = .ok p) := by
  have hf : IsPlain (utf8 "\u212a.cry") := ⟨by decide, by decide, by decide, by decide⟩
  have hg : IsPlain (utf8 "k.cry") := ⟨by decide, by decide, by decide, by decide⟩
  exact ⟨by decide +kernel, (find_ignores_case hf hg (by decide +kernel)).1⟩

/-! ### Reading files -/

theorem find_of_file? (h : v.file? (Path.join (ofHost dir) name) = some data) :
    v.find dir name = .ok (Path.join (ofHost dir) name) := by
  simp [find, h]

/-- What is found is a file. -/
theorem exists_file?_of_find (h : v.find dir name = .ok p) : ∃ data, v.file? p = some data := by
  unfold find at h
  dsimp only at h
  split at h
  · next hexact =>
      cases h
      exact Option.isSome_iff_exists.1 hexact
  · split at h
    · cases h
    · next names hnames =>
        split at h
        · next n hn =>
            cases h
            obtain ⟨-, rfl⟩ := filesIn_eq_ok_iff.1 hnames
            have hholds := mem_listing.1 (List.mem_of_find?_eq_some hn)
            rw [join_ofHost dir hholds.1]
            exact Option.isSome_iff_exists.1 hholds.2
        · cases h

/-- A lookup reads no file. -/
theorem find_ne_unread {why : Error} : v.find dir name ≠ .error (.unread why) := by
  unfold find
  dsimp only
  repeat' split
  all_goals exact fun h => (by cases h)

theorem contents_of_file? (h : v.file? p = some data) : v.contents p = .ok data := by
  simp [contents, h]

theorem read_of_find (h : v.find (directory (ofHost name)) (base (ofHost name)) = .ok p)
    (hdata : v.file? p = some data) : v.read name = .ok (p, data) := by
  simp [read, h, contents_of_file? hdata, Except.mapError, bind, Except.bind, pure, Except.pure]

/-- **A file that is found can be read.** -/
theorem read_ne_unread (v : Volume) (name : Bytes) (why : Error) :
    v.read name ≠ .error (.unread why) := by
  cases hfind : v.find (directory (ofHost name)) (base (ofHost name)) with
  | ok p =>
    obtain ⟨data, hdata⟩ := exists_file?_of_find hfind
    simp [read_of_find hfind hdata]
  | error m =>
    intro h
    have hm : m = .unread why := by simpa [read, hfind, bind, Except.bind] using h
    subst hm
    exact find_ne_unread hfind

theorem read_eq_ok_iff : v.read name = .ok (p, data) ↔
    v.find (directory (ofHost name)) (base (ofHost name)) = .ok p ∧ v.file? p = some data := by
  refine ⟨fun h => ?_, fun h => read_of_find h.1 h.2⟩
  cases hfind : v.find (directory (ofHost name)) (base (ofHost name)) with
  | error m => simp [read, hfind, bind, Except.bind] at h
  | ok q =>
    obtain ⟨found, hfound⟩ := exists_file?_of_find hfind
    rw [read_of_find hfind hfound] at h
    cases h
    exact ⟨rfl, hfound⟩

/-- The path of a file is found as it is. -/
theorem read_of_file? (h : v.file? p = some data) (hb : byte '\\' ∉ p) :
    v.read p = .ok (p, data) := by
  obtain ⟨es, rfl, hes⟩ := exists_render_of_validPath (validPath_of_file? h)
  have hnormal := Normal.of_forall hes
  have hhost := ofHost_render hnormal hb
  have hdir := ofHost_directory_ofHost (render es)
  rw [hhost] at hdir
  have hjoin : Path.join (directory (render es)) (base (render es)) = render es := by
    rcases List.eq_nil_or_concat es with rfl | ⟨front, e, rfl⟩
    · decide
    · rw [List.concat_eq_append] at *
      have hfront : Normal front := .of_forall fun a ha => hes a (List.mem_append_left _ ha)
      rw [directory_render hnormal, List.dropLast_concat, base_render hnormal,
        join_render hfront (hes e (by simp))]
  rw [read_eq_ok_iff, hhost, find_of_file?, hdir, hjoin]
  · exact ⟨rfl, h⟩
  · rw [hdir, hjoin]
    exact h

/-- No file is found by a mark that no name consists of. -/
theorem find_mark {b : UInt8} (hb : b = slash ∨ b = byte '.') : v.find here [b] ≠ .ok p := by
  have hhost : ofHost here = here := by decide
  have hjoin : Path.join here [b] = here := by
    rcases hb with rfl | rfl <;> decide
  unfold find
  dsimp only
  rw [hhost, hjoin, file?_here]
  split
  · next hfile => cases hfile
  · split
    · simp
    · next names hnames =>
        obtain ⟨-, rfl⟩ := filesIn_eq_ok_iff.1 hnames
        have hnone : (v.listing here).find? (fun n => n.equalFold [b]) = none := by
          refine List.find?_eq_none.2 fun n hn hfold => ?_
          have hplain := (mem_listing.1 hn).1
          rw [eq_of_equalFold hfold hb] at hplain
          rcases hb with rfl | rfl
          · exact hplain.slash_not_mem (by simp)
          · exact hplain.ne_here rfl
        simp [hnone]

end Volume

end Quartz
