import Quartz.Proofs.Declaration.Written
import Quartz.Proofs.Program.Segment

/-!
# `Quartz.Proofs.Program.Compile`: which sources compile, and into what

`Step` is one step of the scan over the tokens of a source: it takes off a whole declaration,
a whole block in braces, or a single token of a statement. Only a word `function` or `crystal`
that starts no declaration is in its way. `Scans` puts steps in a row.

A source compiles exactly if it is `WellFormed`, which is said with this scan and with nothing
of the compiler. The tokens of a program are then those of its source, cut into segments,
and the statements between the declarations are nested on their own
(`compile_partitions`).

The compiler keeps what it found so far and goes on. `slice_step` says what one step of the
scan adds to it, `slice_of_scans` what the whole scan does.
-/

set_option autoImplicit false

namespace Quartz

open Bracket

namespace Program

variable {ts rest stack : List Token} {found parts : Parts} {seg : Segment} {segs : List Segment}

/-! ### The scan -/

/-- All tokens of a segment. -/
def Segment.tokens : Segment → List Token
  | .function _ ts => ts
  | .crystal _ ts => ts
  | .statement ts => ts

/-- One step of the scan: the segment at the front, and the tokens behind it. -/
inductive Step : List Token → Segment → List Token → Prop
  | function {d : FunctionDecl} {used rest : List Token} (h : d.Written used) :
      Step (used ++ rest) (.function d used) rest
  | crystal {d : ClassDecl} {used rest : List Token} (h : d.Written used) :
      Step (used ++ rest) (.crystal d used) rest
  | block {o c : Token} {inner rest : List Token} (ho : o.kind = .leftBrace)
      (hc : c.kind = .rightBrace) (hi : Closed .leftBrace .rightBrace inner) :
      Step (o :: (inner ++ c :: rest)) (.statement (o :: (inner ++ [c]))) rest
  | token {t : Token} {rest : List Token} (hf : t.isKeyword .function = false)
      (hc : t.isKeyword .crystal = false) (hb : t.kind ≠ .leftBrace) :
      Step (t :: rest) (.statement [t]) rest

/-- The scan goes over segments and gets to the tokens behind them. -/
inductive Scans : List Token → List Segment → List Token → Prop
  | start {ts : List Token} : Scans ts [] ts
  | step {ts mid rest : List Token} {seg : Segment} {segs : List Segment} (h : Step ts seg mid)
      (hs : Scans mid segs rest) : Scans ts (seg :: segs) rest

/-- A word `function` or `crystal` at the front starts a declaration. -/
def WordsDeclare : List Token → Prop
  | [] => True
  | t :: rest =>
    (t.isKeyword .function = true → ∃ (d : FunctionDecl) (used after : List Token),
      t :: rest = used ++ after ∧ d.Written used) ∧
    (t.isKeyword .crystal = true → ∃ (d : ClassDecl) (used after : List Token),
      t :: rest = used ++ after ∧ d.Written used)

/-- Tokens that make up a program: none is an error, the brackets pair up, every word that
should start a declaration does wherever the scan gets to, and no name is declared twice. -/
structure WellFormed (ts : List Token) : Prop where
  lexed : ∀ t ∈ ts, t.kind ≠ .error
  nested : Nested ts
  declared : ∀ segs rest, Scans ts segs rest → WordsDeclare rest
  functions : ∀ segs, Scans ts segs [] →
    ((segs.filterMap Segment.function?).map FunctionDecl.name).Nodup
  classes : ∀ segs, Scans ts segs [] →
    ((segs.filterMap Segment.class?).map ClassDecl.name).Nodup

theorem Step.tokens_append (h : Step ts seg rest) : ts = seg.tokens ++ rest := by
  cases h with
  | function h => rfl
  | crystal h => rfl
  | block ho hc hi => simp [Segment.tokens]
  | token hf hc hb => rfl

/-- The scan neither loses nor moves a token. -/
theorem Scans.tokens_append (h : Scans ts segs rest) :
    ts = segs.flatMap Segment.tokens ++ rest := by
  induction h with
  | start => rfl
  | step hstep _ ih =>
    rw [List.flatMap_cons, List.append_assoc, ← ih]
    exact hstep.tokens_append

/-! ### Brackets along the scan -/

/-- A step leaves tokens that are in balance with what is then open. The bodies of
declarations are nested, and the statements open and close what all tokens do. -/
theorem Step.balanced (h : Step ts seg rest) (hb : imbalanceFrom? stack ts = none) :
    ∃ above, imbalanceFrom? above rest = none ∧
      (∀ tail, imbalanceFrom? stack (seg.statementTokens ++ tail) = imbalanceFrom? above tail) ∧
      (∀ d, seg.function? = some d → Nested d.body) ∧
      ∀ d, seg.class? = some d → Nested d.body := by
  -- Statements declare nothing.
  have hfunction : ∀ us d, (Segment.statement us).function? = some d → Nested d.body := by
    simp [Segment.function?]
  have hclass : ∀ us d, (Segment.statement us).class? = some d → Nested d.body := by
    simp [Segment.class?]
  cases h with
  | function h =>
    cases h with
    | @intro word name o c ob cb params list body hword hname ho hlist hc hob hbody hcb =>
      have hword' := (Token.kind_of_isKeyword hword).1
      have hlist' : Nested (o :: (list ++ [c])) := hlist.nested.bracket (by rw [ho, hc]; rfl)
      have hheader : Nested (word :: name :: (o :: (list ++ [c]))) :=
        .plain (by simp [weight, hword']) (.plain (by simp [weight, hname]) hlist')
      have hsplit : word :: name :: o :: (list ++ c :: ob :: (body ++ [cb])) ++ rest =
          word :: name :: (o :: (list ++ [c])) ++ ob :: (body ++ cb :: rest) := by simp
      rw [hsplit, hheader.passes] at hb
      obtain ⟨hnested, hrest⟩ := nested_of_closed hb (by rw [hob, hcb]; rfl) (by rwa [hob, hcb])
      refine ⟨stack, hrest, fun _ => rfl, ?_, by simp [Segment.class?]⟩
      intro d hd
      cases hd
      exact hnested
  | crystal h =>
    cases h with
    | @intro word name ob cb body hword hname hob hbody hcb =>
      have hword' := (Token.kind_of_isKeyword hword).1
      have hheader : Nested [word, name] :=
        .plain (by simp [weight, hword']) (.plain (by simp [weight, hname]) .nil)
      have hsplit : word :: name :: ob :: (body ++ [cb]) ++ rest =
          [word, name] ++ ob :: (body ++ cb :: rest) := by simp
      rw [hsplit, hheader.passes] at hb
      obtain ⟨hnested, hrest⟩ := nested_of_closed hb (by rw [hob, hcb]; rfl) (by rwa [hob, hcb])
      refine ⟨stack, hrest, fun _ => rfl, by simp [Segment.function?], ?_⟩
      intro d hd
      cases hd
      exact hnested
  | @block o c inner rest ho hc hi =>
    have hk : closer? o.kind = some c.kind := by rw [ho, hc]; rfl
    obtain ⟨hnested, hrest⟩ := nested_of_closed hb hk (by rwa [ho, hc])
    exact ⟨stack, hrest, (hnested.bracket hk).passes stack, hfunction _, hclass _⟩
  | @token t rest hf hc hbrace =>
    -- A single token is what the check itself looks at next.
    rcases imbalanceFrom?_cases hb with ⟨⟨closer, hk⟩, h⟩ | ⟨s, below, rfl, hk, h⟩ | ⟨hw, h⟩
    · exact ⟨t :: stack, h, fun _ => imbalanceFrom?_open hk, hfunction _, hclass _⟩
    · exact ⟨below, h, fun _ => imbalanceFrom?_close hk, hfunction _, hclass _⟩
    · exact ⟨stack, h, fun _ => imbalanceFrom?_plain hw, hfunction _, hclass _⟩

/-- What the scan cuts out of tokens in balance is nested, and so are the statements left. -/
theorem Scans.balanced (h : Scans ts segs []) (hb : imbalanceFrom? stack ts = none) :
    imbalanceFrom? stack (segs.flatMap Segment.statementTokens) = none ∧
      (∀ d ∈ segs.filterMap Segment.function?, Nested d.body) ∧
      ∀ d ∈ segs.filterMap Segment.class?, Nested d.body := by
  generalize hrest : ([] : List Token) = rest at h
  induction h generalizing stack with
  | start =>
    subst hrest
    exact ⟨hb, by simp, by simp⟩
  | @step ts mid rest seg segs hstep _ ih =>
    obtain ⟨above, hmid, hpass, hfunction, hclass⟩ := hstep.balanced hb
    obtain ⟨hmain, hfunctions, hclasses⟩ := ih hmid hrest
    refine ⟨?_, ?_, ?_⟩
    · rw [List.flatMap_cons, hpass]
      exact hmain
    · intro d hd
      obtain ⟨seg', hmem, hseg⟩ := List.mem_filterMap.1 hd
      rcases List.mem_cons.1 hmem with rfl | hmem
      · exact hfunction d hseg
      · exact hfunctions d (List.mem_filterMap.2 ⟨seg', hmem, hseg⟩)
    · intro d hd
      obtain ⟨seg', hmem, hseg⟩ := List.mem_filterMap.1 hd
      rcases List.mem_cons.1 hmem with rfl | hmem
      · exact hclass d hseg
      · exact hclasses d (List.mem_filterMap.2 ⟨seg', hmem, hseg⟩)

/-- Where all is in balance, only a word that starts no declaration stops the scan. -/
theorem exists_step {t : Token} (hb : imbalanceFrom? stack (t :: rest) = none)
    (hw : WordsDeclare (t :: rest)) :
    ∃ seg after, Step (t :: rest) seg after ∧ after.length < (t :: rest).length := by
  by_cases hf : t.isKeyword .function = true
  · obtain ⟨d, used, after, hts, hwritten⟩ := hw.1 hf
    rw [hts]
    refine ⟨_, after, .function hwritten, ?_⟩
    cases hwritten
    simp only [List.length_append, List.length_cons]
    omega
  · by_cases hc : t.isKeyword .crystal = true
    · obtain ⟨d, used, after, hts, hwritten⟩ := hw.2 hc
      rw [hts]
      refine ⟨_, after, .crystal hwritten, ?_⟩
      cases hwritten
      simp only [List.length_append, List.length_cons]
      omega
    · by_cases hbrace : t.kind = .leftBrace
      · obtain ⟨inner, after, hcut, _, _⟩ := enclosed?_of_balanced hb (by rw [hbrace]; rfl)
        obtain ⟨o, c, hts, hk, hinner⟩ := enclosed?_eq_some_iff.1 hcut
        cases hts
        have hckind : c.kind = .rightBrace := by
          rw [hbrace] at hk
          exact (Option.some.inj hk).symm
        rw [hbrace, hckind] at hinner
        refine ⟨_, after, .block hbrace hckind hinner, ?_⟩
        simp only [List.length_append, List.length_cons]
        omega
      · exact ⟨_, rest, .token (by simpa using hf) (by simpa using hc) hbrace, by simp⟩

/-- The scan goes through to the end if every word that it meets starts a declaration. -/
theorem exists_scan (hb : imbalanceFrom? stack ts = none)
    (hw : ∀ segs rest, Scans ts segs rest → WordsDeclare rest) : ∃ segs, Scans ts segs [] := by
  induction hlen : ts.length using Nat.strongRecOn generalizing ts stack with
  | _ n ih =>
    cases ts with
    | nil => exact ⟨[], .start⟩
    | cons t rest =>
      obtain ⟨seg, after, hstep, hshort⟩ := exists_step hb (hw [] _ .start)
      obtain ⟨above, habove, _⟩ := hstep.balanced hb
      have hw' : ∀ segs rest, Scans after segs rest → WordsDeclare rest :=
        fun segs rest hs => hw (seg :: segs) rest (.step hstep hs)
      obtain ⟨segs, hsegs⟩ := ih after.length (by omega) habove hw' rfl
      exact ⟨seg :: segs, .step hstep hsegs⟩

/-! ### The compiler along the scan -/

/-- What was found so far, and a segment. -/
def Parts.add (found : Parts) : Segment → Parts
  | .function d _ => { found with functions := d :: found.functions }
  | .crystal d _ => { found with classes := d :: found.classes }
  | .statement ts => { found with main := ts.reverse ++ found.main }

/-- Whether a segment declares a name that was declared before. -/
def Parts.declares (found : Parts) : Segment → Bool
  | .function d _ => found.functions.any (·.name = d.name)
  | .crystal d _ => found.classes.any (·.name = d.name)
  | .statement _ => false

/-- The compiler reads a class wherever one is written. -/
theorem readClass_of_written {d : ClassDecl} {t : Token} {used : List Token}
    (h : d.Written (t :: used)) (offset : Int) (rest : List Token) :
    readClass offset (used ++ rest) = .ok (d, rest) := by
  cases h with
  | @intro word name ob cb body hword hname hob hbody hcb =>
    have hread : Declaration.bracketed .leftBrace .expectedClassBody .unbalancedClassBody (-1)
        (ob :: (body ++ [cb]) ++ rest) = .ok (body, rest) :=
      (Declaration.bracketed_eq_ok_iff rfl).2 ⟨ob, cb, by simp, hob, hcb, hbody⟩
    rw [List.cons_append, readClass, if_pos hname, hread]

/-- One step of the scan is one step of the compiler, which refuses a second declaration of
a name. -/
theorem slice_step (h : Step ts seg rest) (ends : Int) (found : Parts) :
    (found.declares seg = true ∧ ∃ e, slice ends found ts = .error e) ∨
      (found.declares seg = false ∧ slice ends found ts = slice ends (found.add seg) rest) := by
  cases h with
  | @function d used rest h =>
    have hread : FunctionDecl.read ends (used ++ rest) = .ok (d, rest) :=
      FunctionDecl.read_eq_ok_iff.2 ⟨used, rfl, h⟩
    obtain ⟨t, tail, rfl, ht⟩ : ∃ t tail, used = t :: tail ∧ t.isKeyword .function = true := by
      cases h with
      | intro hword => exact ⟨_, _, rfl, hword⟩
    rw [List.cons_append] at hread ⊢
    rw [slice, if_pos ht]
    split
    · next heq => cases heq.symm.trans hread
    · next d' after heq =>
        cases heq.symm.trans hread
        cases hd : found.declares (.function d (t :: tail)) with
        | true => exact .inl ⟨rfl, _, if_pos hd⟩
        | false => exact .inr ⟨rfl, if_neg (Bool.eq_false_iff.1 hd)⟩
  | @crystal d used rest h =>
    obtain ⟨t, tail, rfl, ht⟩ : ∃ t tail, used = t :: tail ∧ t.isKeyword .crystal = true := by
      cases h with
      | intro hword => exact ⟨_, _, rfl, hword⟩
    have hread := readClass_of_written h t.offset rest
    have hf : ¬ t.isKeyword .function = true := by
      simp [Token.isKeyword, (Token.kind_of_isKeyword ht).2]
    rw [List.cons_append, slice, if_neg hf, if_pos ht]
    split
    · next heq => cases heq.symm.trans hread
    · next d' after heq =>
        cases heq.symm.trans hread
        cases hd : found.declares (.crystal d (t :: tail)) with
        | true => exact .inl ⟨rfl, _, if_pos hd⟩
        | false => exact .inr ⟨rfl, if_neg (Bool.eq_false_iff.1 hd)⟩
  | @block o c inner rest ho hc hi =>
    have hcut : enclosed? (o :: (inner ++ c :: rest)) = some (inner, rest) :=
      enclosed?_eq_some_iff.2 ⟨o, c, rfl, by rw [ho, hc]; rfl, by rwa [ho, hc]⟩
    have hno : ∀ k, ¬ o.isKeyword k = true := fun k hk => by
      rw [(Token.kind_of_isKeyword hk).1] at ho
      cases ho
    refine .inr ⟨rfl, ?_⟩
    rw [slice, if_neg (hno _), if_neg (hno _), if_pos ho]
    split
    · next heq => cases heq.symm.trans hcut
    · next inner' after heq =>
        cases heq.symm.trans hcut
        have htake : (o :: (inner ++ c :: rest)).take (inner.length + 2) =
            o :: (inner ++ [c]) := by
          have hsplit : o :: (inner ++ c :: rest) = o :: (inner ++ [c]) ++ rest := by simp
          rw [hsplit]
          exact List.take_left' (by simp)
        rw [htake]
        rfl
  | @token t rest hf hc hb =>
    refine .inr ⟨rfl, ?_⟩
    rw [slice, if_neg (by simp [hf]), if_neg (by simp [hc]), if_neg hb]
    rfl

/-- A name in a segment is new to what was found and to the segments behind it. -/
structure Distinct (found : Parts) (segs : List Segment) : Prop where
  functions : ((segs.filterMap Segment.function?).map FunctionDecl.name ++
    found.functions.map FunctionDecl.name).Nodup
  classes : ((segs.filterMap Segment.class?).map ClassDecl.name ++
    found.classes.map ClassDecl.name).Nodup

/-- The first segment declares a name of its own, and the others do when it has been found. -/
theorem distinct_cons_iff :
    Distinct found (seg :: segs) ↔ found.declares seg = false ∧ Distinct (found.add seg) segs := by
  cases seg with
  | function d ts =>
    have hmiddle : ∀ names : List Bytes,
        (d.name :: names ++ found.functions.map FunctionDecl.name).Nodup ↔
          (names ++ d.name :: found.functions.map FunctionDecl.name).Nodup :=
      fun names => List.perm_middle.symm.nodup_iff
    constructor
    · rintro ⟨hf, hc⟩
      have hnew : d.name ∉ found.functions.map FunctionDecl.name := fun hmem =>
        (List.nodup_cons.1 hf).1 (List.mem_append_right _ hmem)
      refine ⟨?_, (hmiddle _).1 hf, hc⟩
      simpa [Parts.declares] using hnew
    · rintro ⟨_, hf, hc⟩
      exact ⟨(hmiddle _).2 hf, hc⟩
  | crystal d ts =>
    have hmiddle : ∀ names : List Bytes,
        (d.name :: names ++ found.classes.map ClassDecl.name).Nodup ↔
          (names ++ d.name :: found.classes.map ClassDecl.name).Nodup :=
      fun names => List.perm_middle.symm.nodup_iff
    constructor
    · rintro ⟨hf, hc⟩
      have hnew : d.name ∉ found.classes.map ClassDecl.name := fun hmem =>
        (List.nodup_cons.1 hc).1 (List.mem_append_right _ hmem)
      refine ⟨?_, hf, (hmiddle _).1 hc⟩
      simpa [Parts.declares] using hnew
    · rintro ⟨_, hf, hc⟩
      exact ⟨hf, (hmiddle _).2 hc⟩
  | statement ts =>
    constructor
    · rintro ⟨hf, hc⟩
      exact ⟨rfl, hf, hc⟩
    · rintro ⟨_, hf, hc⟩
      exact ⟨hf, hc⟩

/-- Names that were found stay distinct when a new one is added. -/
theorem Distinct.add (h : Distinct found []) (hd : found.declares seg = false) :
    Distinct (found.add seg) [] := by
  cases seg with
  | function d ts =>
    have hnew : d.name ∉ found.functions.map FunctionDecl.name := by
      simpa [Parts.declares] using hd
    exact ⟨List.nodup_cons.2 ⟨hnew, h.functions⟩, h.classes⟩
  | crystal d ts =>
    have hnew : d.name ∉ found.classes.map ClassDecl.name := by
      simpa [Parts.declares] using hd
    exact ⟨h.functions, List.nodup_cons.2 ⟨hnew, h.classes⟩⟩
  | statement ts => exact ⟨h.functions, h.classes⟩

/-- The parts of a program: what was found, and what segments add to it. -/
def Parts.finish (found : Parts) (segs : List Segment) : Parts where
  functions := found.functions.reverse ++ segs.filterMap Segment.function?
  classes := found.classes.reverse ++ segs.filterMap Segment.class?
  main := found.main.reverse ++ segs.flatMap Segment.statementTokens

theorem Parts.finish_cons (found : Parts) (seg : Segment) (segs : List Segment) :
    found.finish (seg :: segs) = (found.add seg).finish segs := by
  cases seg <;> simp [finish, add, List.filterMap_cons, Segment.function?, Segment.class?,
    Segment.statementTokens]

/-- The whole scan: the compiler gets through exactly if the names are distinct. -/
theorem slice_of_scans (h : Scans ts segs []) (ends : Int) (hfound : Distinct found []) :
    (Distinct found segs ∧ slice ends found ts = .ok (found.finish segs)) ∨
      (¬ Distinct found segs ∧ ∃ e, slice ends found ts = .error e) := by
  generalize hrest : ([] : List Token) = rest at h
  induction h generalizing found with
  | start =>
    subst hrest
    refine .inl ⟨hfound, ?_⟩
    rw [slice]
    simp [Parts.finish]
  | @step ts mid rest seg segs hstep _ ih =>
    rcases slice_step hstep ends found with ⟨hd, herror⟩ | ⟨hd, hslice⟩
    · refine .inr ⟨fun hall => ?_, herror⟩
      rw [(distinct_cons_iff.1 hall).1] at hd
      cases hd
    · rw [hslice, found.finish_cons seg segs, distinct_cons_iff, and_iff_right hd]
      exact ih (hfound.add hd) hrest

/-- A compiler that gets to the end stops nowhere on the way. -/
theorem Scans.slice_rest (h : Scans ts segs rest) {ends : Int}
    (hslice : slice ends found ts = .ok parts) : ∃ found', slice ends found' rest = .ok parts := by
  induction h generalizing found with
  | start => exact ⟨found, hslice⟩
  | step hstep _ ih =>
    rcases slice_step hstep ends found with ⟨_, e, herror⟩ | ⟨_, hnext⟩
    · exact nomatch herror.symm.trans hslice
    · exact ih (hnext.symm.trans hslice)

/-- The compiler stops at a word that starts no declaration. -/
theorem wordsDeclare_of_slice {ends : Int} (h : slice ends found ts = .ok parts) :
    WordsDeclare ts := by
  cases ts with
  | nil => trivial
  | cons t rest =>
    refine ⟨fun hf => ?_, fun hc => ?_⟩
    · rw [slice, if_pos hf] at h
      split at h
      · cases h
      · next d after hread =>
          obtain ⟨used, hts, hwritten⟩ := FunctionDecl.read_eq_ok_iff.1 hread
          exact ⟨d, used, after, hts, hwritten⟩
    · have hf : ¬ t.isKeyword .function = true := by
        simp [Token.isKeyword, (Token.kind_of_isKeyword hc).2]
      rw [slice, if_neg hf, if_pos hc] at h
      split at h
      · cases h
      · next d after hread =>
          obtain ⟨used, hts, hwritten⟩ :=
            ClassDecl.read_eq_ok_iff.1 (read_of_readClass hc hread ends)
          exact ⟨d, used, after, hts, hwritten⟩

/-! ### Compiling -/

/-- Compiling checks for error tokens, then for brackets, and then takes the tokens apart. -/
theorem compile_eq_ok_iff {source : Bytes} {p : Program} :
    compile source = .ok p ↔
      (∀ t ∈ Lexer.tokenize source, t.kind ≠ .error) ∧ Nested (Lexer.tokenize source) ∧
        ∃ parts, slice (Token.endOffset (Lexer.tokenize source)) {} (Lexer.tokenize source) =
            .ok parts ∧
          p = ⟨[], source, parts.functions, parts.classes, parts.main⟩ := by
  unfold compile
  dsimp only
  cases hfind : (Lexer.tokenize source).find? fun t => t.kind = .error with
  | some t =>
    -- An error token: the source is refused.
    have hmem := List.mem_of_find?_eq_some hfind
    have hkind := List.find?_some hfind
    simp only [decide_eq_true_eq] at hkind
    constructor
    · exact nofun
    · rintro ⟨hlexed, _⟩
      exact absurd hkind (hlexed t hmem)
  | none =>
    have hlexed : ∀ t ∈ Lexer.tokenize source, t.kind ≠ .error := by
      simpa using List.find?_eq_none.1 hfind
    rw [and_iff_right hlexed]
    dsimp only
    cases hbalance : imbalance? (Lexer.tokenize source) with
    | some i =>
      constructor
      · exact nofun
      · rintro ⟨hnested, _⟩
        exact nomatch hbalance.symm.trans (imbalance?_eq_none_iff.2 hnested)
    | none =>
      rw [and_iff_right (imbalance?_eq_none_iff.1 hbalance)]
      dsimp only
      cases hslice : slice (Token.endOffset (Lexer.tokenize source)) {}
          (Lexer.tokenize source) with
      | error c =>
        constructor
        · exact nofun
        · rintro ⟨parts, hok, _⟩
          exact nomatch hok
      | ok parts =>
        constructor
        · intro h
          cases h
          exact ⟨parts, rfl, rfl⟩
        · rintro ⟨parts', hok, rfl⟩
          cases hok
          rfl

/-- Tokens go through the compiler exactly if they are well formed. -/
theorem slice_eq_ok_iff (ends : Int) (hlexed : ∀ t ∈ ts, t.kind ≠ .error) (hnested : Nested ts) :
    slice ends {} ts = .ok parts ↔
      WellFormed ts ∧ ∃ segs, Scans ts segs [] ∧ parts = Parts.finish {} segs := by
  have hempty : Distinct {} [] := ⟨List.nodup_nil, List.nodup_nil⟩
  have hbalanced : imbalanceFrom? [] ts = none := imbalance?_eq_none_iff.2 hnested
  constructor
  · intro h
    have hdeclared : ∀ segs rest, Scans ts segs rest → WordsDeclare rest := by
      intro segs rest hs
      obtain ⟨found', hrest⟩ := hs.slice_rest h
      exact wordsDeclare_of_slice hrest
    have hall : ∀ segs, Scans ts segs [] → Distinct {} segs ∧ parts = Parts.finish {} segs := by
      intro segs hs
      rcases slice_of_scans hs ends hempty with ⟨hd, hok⟩ | ⟨_, e, herror⟩
      · exact ⟨hd, Except.ok.inj (h.symm.trans hok)⟩
      · exact nomatch herror.symm.trans h
    obtain ⟨segs, hs⟩ := exists_scan hbalanced hdeclared
    refine ⟨⟨hlexed, hnested, hdeclared, ?_, ?_⟩, segs, hs, (hall segs hs).2⟩
    · intro segs hs
      simpa using (hall segs hs).1.functions
    · intro segs hs
      simpa using (hall segs hs).1.classes
  · rintro ⟨hw, segs, hs, rfl⟩
    have hd : Distinct {} segs :=
      ⟨by simpa using hw.functions segs hs, by simpa using hw.classes segs hs⟩
    rcases slice_of_scans hs ends hempty with ⟨_, hok⟩ | ⟨hnd, _⟩
    · exact hok
    · exact absurd hd hnd

/-! ### The segments of a program -/

theorem Step.whole (h : Step ts seg rest) : seg.Whole := by
  cases h with
  | @function d used rest h =>
    have hreads : Declaration.Reads FunctionDecl.read d used :=
      fun _ _ => FunctionDecl.read_eq_ok_iff.2 ⟨used, rfl, h⟩
    cases h with
    | intro hword => exact ⟨⟨_, _, rfl, hword⟩, hreads⟩
  | @crystal d used rest h =>
    have hreads : Declaration.Reads ClassDecl.read d used :=
      fun _ _ => ClassDecl.read_eq_ok_iff.2 ⟨used, rfl, h⟩
    cases h with
    | intro hword => exact ⟨⟨_, _, rfl, hword⟩, hreads⟩
  | block ho hc hi => trivial
  | token hf hc hb => trivial

/-- A step of the scan is a step of the cut. -/
theorem Step.segments_eq (h : Step ts seg rest) : segments ts = seg :: segments rest := by
  have hwhole := h.whole
  cases h with
  | function h =>
    obtain ⟨⟨t, used, rfl, ht⟩, hreads⟩ := hwhole
    exact segments_function ht hreads rest
  | crystal h =>
    obtain ⟨⟨t, used, rfl, ht⟩, hreads⟩ := hwhole
    exact segments_class ht hreads rest
  | block ho hc hi => exact segments_block ho hc hi rest
  | token hf hc hb => rw [segments, if_neg (by simp [hf]), if_neg (by simp [hc]), if_neg hb]

theorem Scans.segments_eq (h : Scans ts segs []) :
    segments ts = segs ∧ ∀ seg ∈ segs, seg.Whole := by
  generalize hrest : ([] : List Token) = rest at h
  induction h with
  | start =>
    subst hrest
    rw [segments]
    exact ⟨rfl, by simp⟩
  | step hstep _ ih =>
    obtain ⟨hsegs, hwhole⟩ := ih hrest
    rw [hstep.segments_eq, hsegs]
    exact ⟨rfl, List.forall_mem_cons.2 ⟨hstep.whole, hwhole⟩⟩

/-- A source that compiles is made of its segments. -/
theorem sliced_of_compile {source : Bytes} {p : Program} (h : compile source = .ok p) :
    Sliced {} ⟨p.functions, p.classes, p.main⟩ (segments (Lexer.tokenize source)) := by
  obtain ⟨hlexed, hnested, parts, hslice, rfl⟩ := compile_eq_ok_iff.1 h
  obtain ⟨-, segs, hs, rfl⟩ := (slice_eq_ok_iff _ hlexed hnested).1 hslice
  obtain ⟨hsegs, hwhole⟩ := hs.segments_eq
  rw [hsegs]
  exact ⟨rfl, rfl, rfl, hwhole⟩

/-- A source compiles exactly if it is well formed, and a program is its source taken apart:
the segments hold all tokens in order, the functions, the classes and the main statements are
those of the segments, and the main statements and every body have brackets that pair up. -/
theorem compile_partitions (source : Bytes) :
    ((∃ p, compile source = .ok p) ↔ WellFormed (Lexer.tokenize source)) ∧
      ∀ p, compile source = .ok p →
        ∃ segs, Scans (Lexer.tokenize source) segs [] ∧
          Lexer.tokenize source = segs.flatMap Segment.tokens ∧
          p.functions = segs.filterMap Segment.function? ∧
          p.classes = segs.filterMap Segment.class? ∧
          p.main = segs.flatMap Segment.statementTokens ∧
          Nested p.main ∧ (∀ d ∈ p.functions, Nested d.body) ∧
          ∀ d ∈ p.classes, Nested d.body := by
  constructor
  · constructor
    · rintro ⟨p, h⟩
      obtain ⟨hlexed, hnested, parts, hslice, _⟩ := compile_eq_ok_iff.1 h
      exact ((slice_eq_ok_iff _ hlexed hnested).1 hslice).1
    · intro hw
      obtain ⟨segs, hs⟩ := exists_scan (imbalance?_eq_none_iff.2 hw.nested) hw.declared
      have hslice := fun ends =>
        (slice_eq_ok_iff ends hw.lexed hw.nested).2 ⟨hw, segs, hs, rfl⟩
      exact ⟨_, compile_eq_ok_iff.2 ⟨hw.lexed, hw.nested, _, hslice _, rfl⟩⟩
  · intro p h
    obtain ⟨hlexed, hnested, parts, hslice, rfl⟩ := compile_eq_ok_iff.1 h
    obtain ⟨_, segs, hs, rfl⟩ := (slice_eq_ok_iff _ hlexed hnested).1 hslice
    obtain ⟨hmain, hfunctions, hclasses⟩ := hs.balanced (imbalance?_eq_none_iff.2 hnested)
    have htokens : Lexer.tokenize source = segs.flatMap Segment.tokens := by
      simpa using hs.tokens_append
    exact ⟨segs, hs, htokens, rfl, rfl, rfl, nested_of_balanced hmain, hfunctions, hclasses⟩

end Program

end Quartz
