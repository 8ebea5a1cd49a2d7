import Quartz.Proofs.Eval.Region
import Quartz.Proofs.Program.Compile
import Quartz.Proofs.Program.Terminate
import Quartz.Proofs.Source.Excerpt
import Quartz.Proofs.Token.Lexer

/-!
# `Quartz.Proofs.Program.Locate`: failures point into the source

A program that fails while it runs is reported with a place in its source. That the place makes
sense is not said where errors are raised: there they only take over the offset of some token. But
a new scope with the functions that every script can call is a region of its own
(`Region.has_host`), and all tokens of a program come from its source (`subset_of_compile`). So the
tokens that are at hand anywhere in a run are those of the source, also in the bodies of functions
that were copied along with an instance, and a fault points at one of them.

A token of a source stands in it. Its line is therefore one of the lines of the source, and there
is something to show around it (`Excerpt.around_ne_nil`).
-/

set_option autoImplicit false

namespace Quartz

variable {p : Program} {source : Bytes} {s : ScopeId} {st : State}

/-- A source with a token is not empty. -/
theorem Lexer.ne_nil_of_mem_tokenize {t : Token} (h : t ∈ tokenize source) : source ≠ [] := by
  rintro rfl
  obtain ⟨_, hliteral, hslice⟩ := (tokenize_covers []).slice (List.drop_nil : [].drop 0 = []) t h
  exact hliteral (by simpa using hslice)

/-! ### The tokens of a program -/

namespace Program

theorem Step.body_subset {ts rest : List Token} {seg : Segment} (h : Step ts seg rest) :
    (∀ d, seg.function? = some d → d.body ⊆ seg.tokens) ∧
      (∀ d, seg.class? = some d → d.body ⊆ seg.tokens) ∧ seg.statementTokens ⊆ seg.tokens := by
  cases h with
  | function h =>
    refine ⟨fun d hd => ?_, by simp [Segment.class?], by simp [Segment.statementTokens]⟩
    cases hd
    cases h
    intro t ht
    simp [Segment.tokens, ht]
  | crystal h =>
    refine ⟨by simp [Segment.function?], fun d hd => ?_, by simp [Segment.statementTokens]⟩
    cases hd
    cases h
    intro t ht
    simp [Segment.tokens, ht]
  | block => simp [Segment.function?, Segment.class?, Segment.statementTokens, Segment.tokens]
  | token => simp [Segment.function?, Segment.class?, Segment.statementTokens, Segment.tokens]

theorem Scans.exists_step {ts rest : List Token} {segs : List Segment} (h : Scans ts segs rest)
    {seg : Segment} (hseg : seg ∈ segs) : ∃ before after, Step before seg after := by
  induction h with
  | start => cases hseg
  | step hstep _ ih =>
    rcases List.mem_cons.1 hseg with rfl | hseg
    · exact ⟨_, _, hstep⟩
    · exact ih hseg

/-- A program has no tokens but those of its source. -/
theorem subset_of_compile (h : compile source = .ok p) :
    (∀ d ∈ p.functions, d.body ⊆ Lexer.tokenize source) ∧
      (∀ d ∈ p.classes, d.body ⊆ Lexer.tokenize source) ∧ p.main ⊆ Lexer.tokenize source := by
  obtain ⟨hlexed, hnested, parts, hslice, rfl⟩ := compile_eq_ok_iff.1 h
  obtain ⟨_, segs, hs, rfl⟩ := (slice_eq_ok_iff _ hlexed hnested).1 hslice
  have htokens : ∀ seg ∈ segs, seg.tokens ⊆ Lexer.tokenize source := by
    intro seg hseg t ht
    rw [hs.tokens_append, List.append_nil]
    exact List.mem_flatMap.2 ⟨seg, hseg, ht⟩
  simp only [Parts.finish, List.reverse_nil, List.nil_append, List.mem_filterMap]
  refine ⟨?_, ?_, ?_⟩
  · rintro d ⟨seg, hseg, hd⟩
    obtain ⟨_, _, hstep⟩ := hs.exists_step hseg
    exact List.Subset.trans (hstep.body_subset.1 d hd) (htokens seg hseg)
  · rintro d ⟨seg, hseg, hd⟩
    obtain ⟨_, _, hstep⟩ := hs.exists_step hseg
    exact List.Subset.trans (hstep.body_subset.2.1 d hd) (htokens seg hseg)
  · intro t ht
    obtain ⟨seg, hseg, ht⟩ := List.mem_flatMap.1 ht
    obtain ⟨_, _, hstep⟩ := hs.exists_step hseg
    exact htokens seg hseg (hstep.body_subset.2.2 ht)

theorem source_of_compile (h : compile source = .ok p) : p.source = source := by
  obtain ⟨_, _, parts, _, rfl⟩ := compile_eq_ok_iff.1 h
  rfl

end Program

/-! ### The region of a program -/

namespace Region

/-- Where nothing is yet, nothing refers to anything. -/
theorem has_end (st : State) (tokens : List Token) :
    Region.Has ⟨st.scopes.size, st.functions.size, tokens⟩ st where
  base_le := Nat.le_refl _
  first_le := Nat.le_refl _
  scope s hs := by
    rw [st.scope_of_size_le hs]
    exact .fresh (fun o ho => by cases ho) _
  function f hf := by
    rw [st.function_of_size_le hf]
    exact .default

variable {r : Region}

/-- A function that every script can call refers to nothing. -/
theorem Has.native (h : r.Has st) (hs : r.base ≤ s) (name : Bytes) (params : List Param)
    (native : Native) (hn : ∀ v, native ≠ .constant v) :
    r.Has (st.register ⟨s, 0⟩ (Function.ofNative name params native)) := by
  have hsite : r.base ≤ (Site.mk s 0).scope := hs
  refine h.register hsite ⟨fun t ht => ?_, fun v hv => ?_, fun t ht => ?_⟩
  · cases ht
  · exact absurd (Option.some.inj hv) (hn v)
  · cases ht

theorem Has.builtins (h : r.Has st) (hs : r.base ≤ s) : r.Has ((registerBuiltins s).after st) := by
  have hprint := h.native hs (utf8 "print") [⟨utf8 "value", Param.anyType⟩] .print (by simp)
  have htypeOf := hprint.native hs (utf8 "typeof") [⟨utf8 "value", Param.anyType⟩] .typeOf (by simp)
  have hcreate := htypeOf.native hs (utf8 "create") [⟨utf8 "value", Param.anyType⟩] .create
    (by simp)
  exact hcreate.aside rfl rfl

/-- A new scope starts a region. -/
theorem has_host (st : State) (limit : Int) (tokens : List Token) :
    Region.Has ⟨st.scopes.size, st.functions.size, tokens⟩ (st.host limit) := by
  have hnone : ∀ o, (none : Option ScopeId) = some o → st.scopes.size ≤ o := fun _ ho => by cases ho
  have hnew := (has_end st tokens).newScope hnone (some limit)
  exact hnew.builtins (Nat.le_refl _)

end Region

/-! ### Places of failures -/

/-- Locating a fault keeps the error in it. -/
theorem Failure.runtime?_locate (source : Bytes) (f : Fault) :
    (Failure.locate source f).runtime? = f.runtime? := by
  unfold locate
  split
  · rfl
  · split <;> rfl

theorem Failure.runtime?_inFile (name : Bytes) (f : Failure) :
    (f.inFile name).runtime? = f.runtime? := by
  cases f <;> rfl

namespace Program

theorem runtime?_located (p : Program) (f : Fault) : (p.located f).runtime? = f.runtime? := by
  rw [located, Failure.runtime?_inFile, Failure.runtime?_locate]

/-- A fault with a place becomes a report about that place. -/
theorem located_eq_report (p : Program) {f : Fault} {e : RuntimeError} (he : f.runtime? = some e)
    (hoffset : 0 ≤ e.offset) :
    ∃ r, p.located f = .report r ∧ r.phase = .runtime ∧ r.cause = some f ∧
      r.position = Position.ofOffset p.source e.offset ∧
      r.excerpt = Excerpt.around p.source r.position := by
  unfold located Failure.locate
  rw [he]
  dsimp only
  rw [if_neg (by omega)]
  exact ⟨_, rfl, rfl, rfl, rfl, rfl⟩

/-- A run that fails ends with a fault, which is then located. -/
theorem exists_fault_of_run {failure : Failure} (h : (p.run s st).1 = some (.error failure)) :
    ∃ f st', p.perform s st = .error (.fault f) st' ∧ failure = p.located f := by
  unfold run Eval.ending at h
  cases hrun : p.perform s st with
  | ok v st' => simp [hrun] at h
  | error stop st' =>
    cases stop with
    | exhausted => simp [hrun] at h
    | fault f =>
      refine ⟨f, st', rfl, ?_⟩
      simpa [hrun] using h.symm

/-- **Faults point into the source.** Whatever goes wrong while a program runs in a new scope has
the offset of a token of its source, or none. -/
theorem points_of_perform (hp : compile source = .ok p) (name : Bytes) (st : State) (limit : Int)
    {f : Fault} {st' : State}
    (hrun : ({ p with name } : Program).perform st.scopes.size (st.host limit) =
      .error (.fault f) st')
    {e : RuntimeError} (he : f.runtime? = some e) :
    e.offset < 0 ∨ ∃ t ∈ Lexer.tokenize source, t.offset = e.offset := by
  let r : Region := ⟨st.scopes.size, st.functions.size, Lexer.tokenize source⟩
  obtain ⟨hfunctions, hclasses, hmain⟩ := subset_of_compile hp
  have hst : r.regime.holds () (st.host limit) := Region.has_host st limit _
  have hscope : r.realm.scope st.scopes.size := Nat.le_refl _
  have hruns := @Regime.Lawful.runs_program _ r.regime () _ r.lawful hst { p with name } _ hscope
    hfunctions hclasses hmain
  obtain ⟨_, _, hf⟩ := hruns.exists_of_fault hrun
  exact hf e he

/-- **Runtime errors point into the program.** Let a source compile, and let its program run in a
new scope with the functions that every script can call. If it fails with a runtime error that has
a place, the place is that of a token of the source. The failure is then a report of the runtime
phase about that error, with the line and the column of the place, the line is one of the source,
and the report shows an excerpt. -/
theorem failure_points_into_source {name source : Bytes} {p : Program}
    (hp : compile source = .ok p ∨ compileFile name source = .ok p) (st : State) (limit : Int)
    {failure : Failure} (hrun : (p.run st.scopes.size (st.host limit)).1 = some (.error failure))
    {e : RuntimeError} (he : failure.runtime? = some e) (hoffset : 0 ≤ e.offset) :
    (∃ t ∈ Lexer.tokenize source, t.offset = e.offset) ∧
      ∃ r, failure = .report r ∧ r.phase = .runtime ∧ r.cause.bind Fault.runtime? = some e ∧
        r.position = Position.ofOffset source e.offset ∧
        1 ≤ r.position.line ∧ r.position.line ≤ source.lineCount ∧ r.excerpt ≠ [] := by
  -- A program from a file differs from one without a name in its name only.
  obtain ⟨q, file, hq, rfl⟩ : ∃ q file, compile source = .ok q ∧ p = { q with name := file } := by
    rcases hp with hp | hp
    · exact ⟨p, p.name, hp, rfl⟩
    · unfold compileFile at hp
      split at hp
      · next q hq =>
          cases hp
          exact ⟨q, name, hq, rfl⟩
      · cases hp
  obtain ⟨f, st', hfault, rfl⟩ := exists_fault_of_run hrun
  rw [runtime?_located] at he
  obtain ⟨t, ht, hplace⟩ :=
    (points_of_perform hq file st limit hfault he).resolve_left (by omega)
  obtain ⟨r, hreport, hphase, hcause, hposition, hexcerpt⟩ := located_eq_report _ he hoffset
  rw [show ({ q with name := file } : Program).source = q.source from rfl, source_of_compile hq]
    at hposition hexcerpt
  obtain ⟨hpos, hle⟩ := Position.line_ofOffset source hoffset
  rw [← hposition] at hpos hle
  refine ⟨⟨t, ht, hplace⟩, r, hreport, hphase, ?_, hposition, hpos, hle, ?_⟩
  · rw [hcause]
    exact he
  · rw [hexcerpt]
    exact Excerpt.around_ne_nil (Lexer.ne_nil_of_mem_tokenize ht) hpos hle

/-- A function fails on the second line of a source, while the variables of a class are set up. -/
theorem failure_points_into_source_variables :
    let source := utf8 ("function f() \x7b\n return g();\n\x7d\n" ++
      "crystal A \x7b variables \x7b x = f(); \x7d \x7d")
    ∃ p failure e, compile source = .ok p ∧
      (p.run 0 (({} : State).host 0)).1 = some (.error failure) ∧ failure.runtime? = some e ∧
      e.offset = 23 ∧ (∃ t ∈ Lexer.tokenize source, t.offset = e.offset) ∧
      ∃ r, failure = .report r ∧ r.position = ⟨2, 9⟩ ∧ r.excerpt ≠ [] := by
  intro source
  have hends : (compile source).toOption.map (fun p => failure? (p.perform 0 (({} : State).host 0)))
      = some (some (.undefinedFunction, 23)) := by decide +kernel
  have hposition : Position.ofOffset source 23 = ⟨2, 9⟩ := by decide +kernel
  cases hp : compile source with
  | error f => simp [hp, Except.toOption] at hends
  | ok p =>
    rw [hp] at hends
    obtain ⟨f, st', e, hfault, he, _, hoffset⟩ := exists_of_failure? (Option.some.inj hends)
    have hrun : (p.run 0 (({} : State).host 0)).1 = some (.error (p.located f)) := by
      rw [run, Eval.ending, hfault]
    have he' : (p.located f).runtime? = some e := by rw [runtime?_located, he]
    obtain ⟨htoken, r, hreport, _, _, hplace, _, _, hexcerpt⟩ :=
      @failure_points_into_source [] source p (.inl hp) {} 0 _ hrun e he' (by omega)
    rw [hoffset, hposition] at hplace
    exact ⟨p, _, e, rfl, hrun, he', hoffset, htoken, r, hreport, hplace, hexcerpt⟩

end Program

end Quartz
