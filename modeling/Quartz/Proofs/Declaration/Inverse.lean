import Quartz.Proofs.Declaration.Written

/-!
# `Quartz.Proofs.Declaration.Inverse`: reading a function inverts writing it

`FunctionDecl.Rendered` writes a function declaration out, with a body whose braces pair up. Where
`FunctionDecl.Written` says that the search for the closing brace passes over the body,
`Rendered` counts the braces of the body by itself, without any search; the two are the same
(`rendered_iff_written`).

`readAt` reads at an index of a token list. It reads whatever is rendered there, it reads nothing
else, and it ends right behind the rendering (`readAt_eq_ok_iff`).
-/

set_option autoImplicit false

namespace Quartz

open Declaration

namespace FunctionDecl

/-- A function declaration, token by token: the word `function`, the name, the parameters in
parentheses, and the body in braces. -/
inductive Rendered : FunctionDecl → List Token → Prop
  | intro {word name o c ob cb : Token} {params : List Param} {list body : List Token}
      (hword : word.isKeyword .function = true) (hname : name.kind = .ident)
      (ho : o.kind = .leftParen) (hlist : Param.Listed params list) (hc : c.kind = .rightParen)
      (hob : ob.kind = .leftBrace) (hbody : Bracket.Balanced .leftBrace .rightBrace body)
      (hcb : cb.kind = .rightBrace) :
      Rendered ⟨name.literal, params, body⟩
        ([word, name, o] ++ list ++ [c, ob] ++ body ++ [cb])

variable {d : FunctionDecl} {used ts : List Token} {i next : Nat}

theorem rendered_iff_written : d.Rendered used ↔ d.Written used := by
  constructor
  · intro h
    cases h with
    | intro hword hname ho hlist hc hob hbody hcb =>
      simpa using Written.intro hword hname ho hlist hc hob hbody.closed hcb
  · intro h
    cases h with
    | intro hword hname ho hlist hc hob hbody hcb =>
      simpa using Rendered.intro hword hname ho hlist hc hob (hbody.balanced (by decide)) hcb

theorem Rendered.ne_nil (h : d.Rendered used) : used ≠ [] := by
  cases h
  simp

/-- Reading at an index succeeds exactly where a rendering starts, and ends behind it. -/
theorem readAt_eq_ok_iff :
    readAt ts i = (.ok d, next) ↔
      ∃ before used rest, ts = before ++ used ++ rest ∧ before.length = i ∧
        i + used.length = next ∧ d.Rendered used := by
  constructor
  · intro h
    unfold readAt at h
    split at h
    · next d' rest hread =>
        cases h
        obtain ⟨used, hdrop, hwritten⟩ := read_eq_ok_iff.1 hread
        have hrendered := rendered_iff_written.2 hwritten
        -- Something is read, so the index lies inside the list.
        have hlen : used.length + rest.length = ts.length - i := by
          rw [← List.length_append, ← hdrop, List.length_drop]
        have hpos : 0 < used.length := List.length_pos_iff.2 hrendered.ne_nil
        refine ⟨ts.take i, used, rest, ?_, ?_, ?_, hrendered⟩
        · rw [List.append_assoc, ← hdrop, List.take_append_drop]
        · rw [List.length_take]
          omega
        · omega
    · cases h
  · rintro ⟨before, used, rest, rfl, rfl, rfl, hrendered⟩
    have hread : read (Token.endOffset (before ++ used ++ rest))
        ((before ++ used ++ rest).drop before.length) = .ok (d, rest) := by
      rw [List.append_assoc, List.drop_left]
      exact read_eq_ok_iff.2 ⟨used, rfl, rendered_iff_written.1 hrendered⟩
    simp only [readAt, hread, List.length_append, Nat.add_sub_cancel]

/-- **Reading a function declaration is the inverse of rendering it.** Whatever stands around a
rendering, the function is read back, with the index right behind the rendering. What is read at
an index is rendered from there up to the index that is handed back. A reader that fails stays
where it is. -/
theorem readAt_inverts_rendering :
    (∀ (d : FunctionDecl) (before used rest : List Token), d.Rendered used →
      readAt (before ++ used ++ rest) before.length = (.ok d, before.length + used.length)) ∧
    (∀ (d : FunctionDecl) (ts : List Token) (i next : Nat), readAt ts i = (.ok d, next) →
      i ≤ next ∧ next ≤ ts.length ∧ d.Rendered ((ts.take next).drop i)) ∧
    (∀ (e : RuntimeError) (ts : List Token) (i next : Nat), readAt ts i = (.error e, next) →
      next = i) := by
  refine ⟨?_, ?_, ?_⟩
  · intro d before used rest h
    exact readAt_eq_ok_iff.2 ⟨before, used, rest, rfl, rfl, rfl, h⟩
  · intro d ts i next h
    obtain ⟨before, used, rest, rfl, rfl, rfl, hrendered⟩ := readAt_eq_ok_iff.1 h
    refine ⟨by omega, by simp only [List.length_append]; omega, ?_⟩
    rwa [← List.length_append, List.take_left, List.drop_left]
  · intro e ts i next h
    unfold readAt at h
    split at h <;> cases h
    rfl

/-- Two parameters and a body with braces, between tokens that belong to other things. Nothing is
read where no declaration starts. -/
theorem readAt_inverts_rendering_pair :
    let f : Token := ⟨.ident, utf8 "f", 11⟩
    let number : Token := ⟨.keyword, utf8 "number", 13⟩
    let a : Token := ⟨.ident, utf8 "a", 20⟩
    let cls : Token := ⟨.ident, utf8 "A", 23⟩
    let b : Token := ⟨.ident, utf8 "b", 25⟩
    let body : List Token := [⟨.leftBrace, utf8 "\x7b", 30⟩, ⟨.rightParen, utf8 ")", 32⟩,
      ⟨.rightBrace, utf8 "\x7d", 34⟩]
    let used : List Token := [⟨.keyword, utf8 "function", 2⟩, f, ⟨.leftParen, utf8 "(", 12⟩] ++
      [number, a, ⟨.comma, utf8 ",", 21⟩, cls, b] ++ [⟨.rightParen, utf8 ")", 26⟩,
      ⟨.leftBrace, utf8 "\x7b", 28⟩] ++ body ++ [⟨.rightBrace, utf8 "\x7d", 36⟩]
    let d : FunctionDecl := ⟨f.literal, [⟨a.literal, number.literal⟩, ⟨b.literal, cls.literal⟩],
      body⟩
    let before : List Token := [⟨.rightBrace, utf8 "\x7d", 0⟩]
    let rest : List Token := [⟨.leftBrace, utf8 "\x7b", 37⟩]
    let ts := before ++ used ++ rest
    d.Rendered used ∧ readAt ts 1 = (.ok d, 15) ∧ d.Rendered ((ts.take 15).drop 1) ∧
      readAt ts 0 = (.error (malformedAt .expectedFunction 0), 0) := by
  intro f number a cls b body used d before rest ts
  have hbody : Bracket.Balanced .leftBrace .rightBrace body := rfl
  have hrendered : d.Rendered used :=
    .intro rfl rfl rfl (.more rfl rfl rfl (.last rfl rfl)) rfl rfl hbody rfl
  have hread : readAt ts 1 = (.ok d, 15) := readAt_inverts_rendering.1 d before used rest hrendered
  have hslice := (readAt_inverts_rendering.2.1 d ts 1 15 hread).2.2
  have hfail : (readAt ts 0).1 = .error (malformedAt .expectedFunction 0) := rfl
  have hstay : (readAt ts 0).2 = 0 :=
    readAt_inverts_rendering.2.2 _ ts 0 _ (Prod.ext hfail rfl)
  exact ⟨hrendered, hread, hslice, Prod.ext hfail hstay⟩

end FunctionDecl

end Quartz
