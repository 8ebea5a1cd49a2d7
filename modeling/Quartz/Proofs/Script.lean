import Quartz.Charset.Basic
import Quartz.Proofs.Volume
import Quartz.Script

/-!
# `Quartz.Proofs.Script`: the script that is chosen is the one that is loaded

An entry script is looked up by the directory of the cleaned name and the last element of the name
as it was given. Reading a file cleans the name before it takes the last element. Both agree where
these elements are the same (`entry_resolves_as_read`), and they are if the element is a plain name
without a backslash (`base_ofHost`). Behind a backslash they are not (`entry_ne_read_backslash`).

A path that was found is the path of a file, and such a path is found as it is. So a script that was
found is loaded from its own file, from any charset that the library supports
(`found_resolves_to_itself`).
-/

set_option autoImplicit false

namespace Quartz

open Bytes Path

namespace Script

variable {v : Volume} {name p data charset : Bytes} {lib : Charset.Library}

/-! ### Choosing the entry script -/

theorem entry_eq_ok_iff (hname : name ≠ []) :
    entry v name = .ok p ↔ v.find (directory (ofHost name)) (base name) = .ok p := by
  rw [entry, if_pos hname]
  cases v.find (directory (ofHost name)) (base name) <;> simp [Except.mapError]

/-- **An entry script is the file that is read under its name**, if cleaning the name keeps its last
element. A name of slashes only finds nothing either way. -/
theorem entry_resolves_as_read (hname : name ≠ [])
    (hbase : base (ofHost name) = base name ∨ ∀ b ∈ name, b = slash) :
    (∀ p, entry v name = .ok p ↔ ∃ data, v.read name = .ok (p, data)) ∧
      ∀ p data, v.read name = .ok (p, data) → v.file? p = some data := by
  refine ⟨fun p => ?_, fun p data h => (Volume.read_eq_ok_iff.1 h).2⟩
  have hfind : v.find (directory (ofHost name)) (base name) = .ok p ↔
      v.find (directory (ofHost name)) (base (ofHost name)) = .ok p := by
    rcases hbase with hbase | hall
    · rw [hbase]
    · rw [base_of_slashes hname hall, ofHost_of_slashes hall]
      exact iff_of_false (Volume.find_mark (.inl rfl)) (Volume.find_mark (.inr rfl))
  rw [entry_eq_ok_iff hname, hfind]
  constructor
  · intro h
    obtain ⟨data, hdata⟩ := Volume.exists_file?_of_find h
    exact ⟨data, Volume.read_eq_ok_iff.2 ⟨h, hdata⟩⟩
  · rintro ⟨data, h⟩
    exact (Volume.read_eq_ok_iff.1 h).1

theorem entry_resolves_as_read_shelf :
    entry Volume.shelf (utf8 "\\x\\..//src/./K.CRY//") = .ok (utf8 "src/K.cry") ∧
      ∃ data, Volume.shelf.read (utf8 "\\x\\..//src/./K.CRY//") = .ok (utf8 "src/K.cry", data) := by
  have hentry : entry Volume.shelf (utf8 "\\x\\..//src/./K.CRY//") = .ok (utf8 "src/K.cry") := by
    decide +kernel
  exact ⟨hentry, ((entry_resolves_as_read (by decide) (.inl (by decide))).1 _).1 hentry⟩

/-- A backslash separates elements for the directory of an entry script and not for its name. So
nothing is found in the directory where reading finds a file. -/
theorem entry_ne_read_backslash :
    let v := Volume.ofEntries .memory [(utf8 "src/Start.cry", utf8 "s;")] []
    entry v (utf8 "src\\start.cry") =
        .error (.miss (.notFound (utf8 "src\\start.cry") (utf8 "src"))) ∧
      v.read (utf8 "src\\start.cry") = .ok (utf8 "src/Start.cry", utf8 "s;") := by
  decide +kernel

/-! ### Scripts of a volume -/

theorem mem_insertWalk {a : Bytes} {l : List Bytes} :
    a ∈ Volume.insertWalk p l ↔ a = p ∨ a ∈ l := by
  induction l with
  | nil => simp [Volume.insertWalk]
  | cons q rest ih =>
    unfold Volume.insertWalk
    split
    · simp
    · simp [ih, or_left_comm]

/-- Every script of a volume is a file. -/
theorem exists_file?_of_mem_all (h : p ∈ all v) : ∃ data, v.file? p = some data := by
  have hmem : ∀ l : List Bytes, p ∈ l.foldr Volume.insertWalk [] ↔ p ∈ l := by
    intro l
    induction l with
    | nil => simp
    | cons q rest ih => rw [List.foldr_cons, mem_insertWalk, ih, List.mem_cons]
  have hwalk := (List.mem_filter.1 h).1
  rw [Volume.walk, hmem, List.mem_filter] at hwalk
  obtain ⟨hfile, hvalid⟩ := hwalk
  rw [Volume.file?, if_pos hvalid]
  obtain ⟨f, hf, rfl⟩ := List.mem_map.1 hfile
  refine Option.ne_none_iff_exists'.1 fun hnone => ?_
  simpa using List.lookup_eq_none_iff.1 hnone f hf

/-- A path that some way to find files or scripts has led to. -/
inductive Found (v : Volume) (p : Bytes) : Prop
  | file {dir name : Bytes} (h : v.find dir name = .ok p)
  | entry {name : Bytes} (h : entry v name = .ok p)
  | script (h : p ∈ all v)

theorem Found.exists_file? (h : Found v p) : ∃ data, v.file? p = some data := by
  cases h with
  | file h => exact Volume.exists_file?_of_find h
  | script h => exact exists_file?_of_mem_all h
  | @entry name h =>
    by_cases hname : name = []
    · rw [Script.entry, if_neg (not_not_intro hname)] at h
      split at h
      · next hmain =>
          cases h
          exact Volume.exists_file?_of_find hmain
      · split at h
        · cases h
        · next hall =>
            cases h
            exact exists_file?_of_mem_all (by simp [hall])
        · cases h
    · exact Volume.exists_file?_of_find ((entry_eq_ok_iff hname).1 h)

/-! ### Loading scripts -/

/-- A library supports a charset if it has it under its name, and gives every text in it as UTF-8. -/
def Supports (lib : Charset.Library) (charset : Bytes) : Prop :=
  ∃ decoder, lib.named charset = .ok decoder ∧ ∀ data, ∃ text, decoder data = .ok text

/-- The charsets of the web are supported as soon as their names are known. -/
theorem supports_web {decoder : Decoder} (h : Charset.web.named charset = .ok decoder) :
    Supports Charset.web charset := by
  refine ⟨decoder, h, ?_⟩
  unfold Charset.Library.named at h
  dsimp only at h
  split at h
  · cases h
    exact fun data => ⟨_, rfl⟩
  · split at h
    · cases h
      exact fun data => ⟨_, rfl⟩
    · split at h
      · next hlabel =>
          cases h
          obtain ⟨c, -, rfl⟩ := Option.map_eq_some_iff.1 hlabel
          exact fun data => ⟨_, rfl⟩
      · cases h

/-- A script is what is stored at a path, decoded from a charset. -/
structure LoadedFrom (lib : Charset.Library) (v : Volume) (charset p : Bytes) (s : Script) :
    Prop where
  file : s.file = p
  content : ∃ data, v.file? p = some data ∧ lib.decode charset data = .ok s.content ∧
    s.size = data.length

section

variable (hv : ∀ f ∈ v.files, byte '\\' ∉ f.1)
include hv

theorem Found.read_eq (h : Found v p) :
    ∃ data, v.file? p = some data ∧ v.read p = .ok (p, data) := by
  obtain ⟨data, hdata⟩ := h.exists_file?
  exact ⟨data, hdata, Volume.read_of_file? hdata (hv _ (Volume.mem_files_of_file? hdata))⟩

theorem Found.exists_load (hlib : Supports lib charset) (h : Found v p) :
    ∃ s, load lib v charset p = .ok s ∧ LoadedFrom lib v charset p s := by
  obtain ⟨data, hdata, hread⟩ := h.read_eq hv
  obtain ⟨decoder, hnamed, htotal⟩ := hlib
  obtain ⟨text, htext⟩ := htotal data
  have hdecode : lib.decode charset data = .ok text := by
    simp [Charset.Library.decode, hnamed, htext, Except.mapError, bind, Except.bind]
  refine ⟨⟨p, text, data.length⟩, ?_, rfl, data, hdata, hdecode, rfl⟩
  simp [load, hread, hdecode, Except.mapError, bind, Except.bind, pure, Except.pure]

theorem exists_mapM_load (hlib : Supports lib charset) {l : List Bytes} (h : ∀ p ∈ l, Found v p) :
    ∃ scripts, l.mapM (load lib v charset) = .ok scripts ∧
      List.Forall₂ (LoadedFrom lib v charset) l scripts := by
  induction l with
  | nil => exact ⟨[], rfl, .nil⟩
  | cons p rest ih =>
    obtain ⟨hp, hrest⟩ := List.forall_mem_cons.1 h
    obtain ⟨s, hload, hs⟩ := hp.exists_load hv hlib
    obtain ⟨scripts, hmap, hscripts⟩ := ih hrest
    refine ⟨s :: scripts, ?_, .cons hs hscripts⟩
    rw [List.mapM_cons, hload, hmap]
    rfl

end

/-- **A path that was found is found as it is**, and the script at it is loaded from there, from every
charset that the library supports. -/
theorem found_resolves_to_itself (hv : ∀ f ∈ v.files, byte '\\' ∉ f.1) :
    (∀ p, Found v p → ∃ data, v.file? p = some data ∧ v.read p = .ok (p, data)) ∧
      ∀ lib charset, Supports lib charset →
        (∀ name p, entry v name = .ok p →
          ∃ s, load lib v charset p = .ok s ∧ LoadedFrom lib v charset p s) ∧
        (all v = [] → loadAll lib v charset = .error .none) ∧
        (all v ≠ [] → ∃ scripts, loadAll lib v charset = .ok scripts ∧
          List.Forall₂ (LoadedFrom lib v charset) (all v) scripts) := by
  refine ⟨fun p h => h.read_eq hv,
    fun lib charset hlib => ⟨fun name p h => ?_, fun h => ?_, fun h => ?_⟩⟩
  · exact (Found.entry h).exists_load hv hlib
  · rw [loadAll, h]
  · unfold loadAll
    split
    · next hall => exact absurd hall h
    · exact exists_mapM_load hv hlib fun p hp => .script hp

theorem found_resolves_to_itself_shelf :
    (utf8 "src/k.cry", utf8 "2;") ∈ Volume.shelf.files ∧
      Volume.shelf.find (utf8 "src") (utf8 "k.cry") = .ok (utf8 "src/k.cry") ∧
      (∃ data, Volume.shelf.file? (utf8 "src/k.cry") = some data ∧
        Volume.shelf.read (utf8 "src/k.cry") = .ok (utf8 "src/k.cry", data)) ∧
      ∃ scripts, loadAll Charset.web Volume.shelf (utf8 "utf-8") = .ok scripts ∧
        List.Forall₂ (LoadedFrom Charset.web Volume.shelf (utf8 "utf-8"))
          [utf8 "src/K.cry", utf8 "src/k.cry"] scripts := by
  have hv : ∀ f ∈ Volume.shelf.files, byte '\\' ∉ f.1 := by decide
  have hfind : Volume.shelf.find (utf8 "src") (utf8 "k.cry") = .ok (utf8 "src/k.cry") := by
    decide +kernel
  have hword : (utf8 "utf-8").trimBlank.toLower = utf8 "utf-8" := by decide +kernel
  have hnamed : Charset.web.named (utf8 "utf-8") = .ok Charset.web.markedUtf8 := by
    simp [Charset.Library.named, hword]
  have hall : all Volume.shelf = [utf8 "src/K.cry", utf8 "src/k.cry"] := by decide +kernel
  have hload := ((found_resolves_to_itself hv).2 _ _ (supports_web hnamed)).2.2
  rw [hall] at hload
  exact ⟨by decide, hfind, (found_resolves_to_itself hv).1 _ (.file hfind), hload (by simp)⟩

end Script

end Quartz
