import Quartz.Proofs.Declaration.Written

/-!
# `Quartz.Proofs.Declaration`: a declaration is read by its own tokens

A reader of declarations takes tokens off the front and hands back the rest. What it takes
does not depend on the rest, nor on the offset that it would point at if tokens were
missing. `Reads` says so for a reader and the tokens that it takes. Declarations can
therefore be moved to another place of a token list, and mean there what they meant before.

A reader that fails names a form that its declaration lacks, and points at a token that it
was given, at the offset given for the end, or nowhere (`Complains`).
-/

set_option autoImplicit false

namespace Quartz

variable {ends : Int} {ts rest : List Token} {e : RuntimeError}
  {absent form unclosed : Malformation} {opener : Kind} {p : Token → Bool} {t : Token}

theorem Token.kind_of_isKeyword {k : Keyword} (h : t.isKeyword k = true) :
    t.kind = .keyword ∧ t.keyword? = some k := by
  have hk : t.keyword? = some k := of_decide_eq_true h
  refine ⟨?_, hk⟩
  unfold Token.keyword? at hk
  split at hk
  · assumption
  · exact nomatch hk

namespace Declaration

/-- A reader takes exactly these tokens off the front, whatever follows them and wherever
it would point. -/
def Reads {α : Type} (read : Int → List Token → Except RuntimeError (α × List Token)) (a : α)
    (used : List Token) : Prop :=
  ∀ (ends : Int) (rest : List Token), read ends (used ++ rest) = .ok (a, rest)

theorem reads_of_bracketed {inner : List Token}
    (h : bracketed opener absent unclosed ends ts = .ok (inner, rest)) :
    ∃ used, ts = used ++ rest ∧ Reads (bracketed opener absent unclosed) inner used := by
  obtain ⟨o, c, rfl, ho, hc, hinner⟩ := bracketed_eq_ok_iff_closer?.1 h
  refine ⟨o :: (inner ++ [c]), by simp, fun ends' rest' => ?_⟩
  exact bracketed_eq_ok_iff_closer?.2 ⟨o, c, by simp, ho, hc, hinner⟩

/-! ### Complaints -/

/-- A reader complains: it names one of some forms, and points at one of its tokens, at the
offset given for the end, or nowhere. -/
structure Complains (forms : List Malformation) (ends : Int) (ts : List Token)
    (e : RuntimeError) : Prop where
  form : ∃ form ∈ forms, e.cause = .malformed form
  place : e.offset = ends ∨ e.offset = -1 ∨ ∃ t ∈ ts, t.offset = e.offset

theorem Complains.mono {forms forms' : List Malformation} {ts' : List Token}
    (h : Complains forms ends ts e) (hforms : forms ⊆ forms') (hts : ts ⊆ ts') :
    Complains forms' ends ts' e where
  form := by
    obtain ⟨form, hform, hcause⟩ := h.form
    exact ⟨form, hforms hform, hcause⟩
  place := by
    rcases h.place with hends | hnone | ⟨t, ht, hoffset⟩
    · exact .inl hends
    · exact .inr (.inl hnone)
    · exact .inr (.inr ⟨t, hts ht, hoffset⟩)

/-- A chain of readers fails where its first step does, or where the rest then does. -/
theorem bind_eq_error {α β : Type} {x : Except RuntimeError α} {f : α → Except RuntimeError β} :
    x >>= f = .error e ↔ x = .error e ∨ ∃ a, x = .ok a ∧ f a = .error e := by
  cases x <;> simp [bind, Except.bind]

theorem complains_of_expect (h : expect p form ends ts = .error e) :
    Complains [form] ends ts e := by
  unfold expect at h
  split at h
  · next t rest =>
      split at h
      · cases h
      · cases h
        exact ⟨⟨form, by simp, rfl⟩, .inr (.inr ⟨t, by simp, rfl⟩)⟩
  · cases h
    exact ⟨⟨form, by simp, rfl⟩, .inl rfl⟩

theorem complains_of_bracketed (h : bracketed opener absent unclosed ends ts = .error e) :
    Complains [absent, unclosed] ends ts e := by
  unfold bracketed at h
  split at h
  · cases h
    exact ⟨⟨absent, by simp, rfl⟩, .inl rfl⟩
  · next t rest =>
      have hplace : ∃ u ∈ t :: rest, u.offset = t.offset := ⟨t, by simp, rfl⟩
      split at h
      · split at h
        · cases h
        · cases h
          exact ⟨⟨unclosed, by simp, rfl⟩, .inr (.inr hplace)⟩
      · cases h
        exact ⟨⟨absent, by simp, rfl⟩, .inr (.inr hplace)⟩

theorem subset_of_expect (h : expect p form ends ts = .ok (t, rest)) : t ∈ ts ∧ rest ⊆ ts := by
  obtain ⟨rfl, -⟩ := expect_eq_ok_iff.1 h
  exact ⟨by simp, by simp⟩

theorem subset_of_bracketed {inner : List Token}
    (h : bracketed opener absent unclosed ends ts = .ok (inner, rest)) :
    inner ⊆ ts ∧ rest ⊆ ts := by
  obtain ⟨o, c, rfl, -⟩ := bracketed_eq_ok_iff_closer?.1 h
  exact ⟨by grind, by grind⟩

theorem complains_of_readAll {pieces : List (List Token)} (h : Param.readAll pieces = .error e) :
    Complains [.parameterForm] ends pieces.flatten e := by
  induction pieces with
  | nil => cases h
  | cons piece pieces ih =>
    rw [Param.readAll] at h
    split at h
    · cases h
      refine ⟨⟨.parameterForm, by simp, rfl⟩, .inr ?_⟩
      -- An empty piece has no token to point at.
      cases piece with
      | nil => exact .inl rfl
      | cons t piece => exact .inr ⟨t, by simp, rfl⟩
    · cases hrest : Param.readAll pieces with
      | ok params =>
        rw [hrest] at h
        cases h
      | error e' =>
        rw [hrest] at h
        cases h
        exact (ih hrest).mono (List.Subset.refl _) (by simp)

end Declaration

open Declaration

/-! ### Functions and classes -/

theorem FunctionDecl.reads_of_read {d : FunctionDecl} (h : read ends ts = .ok (d, rest)) :
    ∃ t used, ts = t :: used ++ rest ∧ t.isKeyword .function = true ∧
      Reads FunctionDecl.read d (t :: used) := by
  obtain ⟨used, rfl, hwritten⟩ := read_eq_ok_iff.1 h
  have hreads : Reads FunctionDecl.read d used :=
    fun _ rest' => read_eq_ok_iff.2 ⟨used, rfl, hwritten⟩
  cases hwritten with
  | intro hword => exact ⟨_, _, rfl, hword, hreads⟩

theorem ClassDecl.reads_of_read {d : ClassDecl} (h : read ends ts = .ok (d, rest)) :
    ∃ t used, ts = t :: used ++ rest ∧ t.isKeyword .crystal = true ∧
      Reads ClassDecl.read d (t :: used) := by
  obtain ⟨used, rfl, hwritten⟩ := read_eq_ok_iff.1 h
  have hreads : Reads ClassDecl.read d used :=
    fun _ rest' => read_eq_ok_iff.2 ⟨used, rfl, hwritten⟩
  cases hwritten with
  | intro hword => exact ⟨_, _, rfl, hword, hreads⟩

/-! ### What a failing reader says -/

namespace FunctionDecl

/-- The forms that a function declaration may lack. -/
def forms : List Malformation :=
  [.expectedFunction, .expectedFunctionName, .expectedParameterList, .unbalancedParameterList,
    .parameterForm, .expectedFunctionBody, .unbalancedFunctionBody]

theorem complains_of_read (h : read ends ts = .error e) : Complains forms ends ts e := by
  -- Each step reads what the one before it left, and names its own forms.
  rcases bind_eq_error.1 h with h | ⟨⟨word, ts₁⟩, h₁, h⟩
  · exact (complains_of_expect h).mono (by simp [forms]) (List.Subset.refl _)
  have hsub₁ := (subset_of_expect h₁).2
  rcases bind_eq_error.1 h with h | ⟨⟨name, ts₂⟩, h₂, h⟩
  · exact (complains_of_expect h).mono (by simp [forms]) hsub₁
  have hsub₂ := List.Subset.trans (subset_of_expect h₂).2 hsub₁
  rcases bind_eq_error.1 h with h | ⟨⟨list, ts₃⟩, h₃, h⟩
  · exact (complains_of_bracketed h).mono (by simp [forms]) hsub₂
  have hlist := List.Subset.trans (subset_of_bracketed h₃).1 hsub₂
  have hsub₃ := List.Subset.trans (subset_of_bracketed h₃).2 hsub₂
  rcases bind_eq_error.1 h with h | ⟨params, -, h⟩
  · exact (complains_of_readAll h).mono (by simp [forms])
      (List.Subset.trans (Bracket.flatten_splitArguments_subset list) hlist)
  rcases bind_eq_error.1 h with h | ⟨⟨body, ts₄⟩, -, h⟩
  · exact (complains_of_bracketed h).mono (by simp [forms]) hsub₃
  · cases h

/-- The body of a declaration and what follows it are tokens of the list. -/
theorem subset_of_read {d : FunctionDecl} (h : read ends ts = .ok (d, rest)) :
    d.body ⊆ ts ∧ rest ⊆ ts := by
  obtain ⟨used, rfl, hwritten⟩ := read_eq_ok_iff.1 h
  cases hwritten
  exact ⟨by grind, by grind⟩

end FunctionDecl

namespace ClassDecl

/-- The forms that a class declaration may lack. -/
def forms : List Malformation :=
  [.expectedClass, .expectedClassName, .expectedClassBody, .unbalancedClassBody]

theorem complains_of_read (h : read ends ts = .error e) : Complains forms ends ts e := by
  rcases bind_eq_error.1 h with h | ⟨⟨word, ts₁⟩, h₁, h⟩
  · exact (complains_of_expect h).mono (by simp [forms]) (List.Subset.refl _)
  have hsub₁ := (subset_of_expect h₁).2
  rcases bind_eq_error.1 h with h | ⟨⟨name, ts₂⟩, h₂, h⟩
  · exact (complains_of_expect h).mono (by simp [forms]) hsub₁
  have hsub₂ := List.Subset.trans (subset_of_expect h₂).2 hsub₁
  rcases bind_eq_error.1 h with h | ⟨⟨body, ts₃⟩, -, h⟩
  · exact (complains_of_bracketed h).mono (by simp [forms]) hsub₂
  · cases h

theorem subset_of_read {d : ClassDecl} (h : read ends ts = .ok (d, rest)) :
    d.body ⊆ ts ∧ rest ⊆ ts := by
  obtain ⟨used, rfl, hwritten⟩ := read_eq_ok_iff.1 h
  cases hwritten
  exact ⟨by grind, by grind⟩

end ClassDecl

namespace Members

/-- The forms that a class body may lack. -/
def forms : List Malformation :=
  FunctionDecl.forms ++ [.expectedVariablesBlock, .unbalancedVariablesBlock,
    .duplicateVariablesBlock, .unbalancedClassBody]

theorem complains_of_scanFrom {found : Members} (h : scanFrom ends found ts = .error e) :
    Complains forms ends ts e := by
  fun_induction scanFrom ends found ts with
  | case1 => cases h
  | case2 found t rest _ _ hread =>
    cases h
    exact (FunctionDecl.complains_of_read hread).mono (by simp [forms]) (List.Subset.refl _)
  | case3 found t rest _ d after hread _ ih =>
    exact (ih h).mono (List.Subset.refl _) (FunctionDecl.subset_of_read hread).2
  | case4 found t rest _ _ _ hread =>
    cases h
    exact (complains_of_bracketed hread).mono (by simp [forms]) (List.subset_cons_self t rest)
  | case5 found t rest =>
    cases h
    exact ⟨⟨_, by simp [forms], rfl⟩, .inr (.inr ⟨t, List.mem_cons_self, rfl⟩)⟩
  | case6 found t rest _ _ block after hread _ _ ih =>
    exact (ih h).mono (List.Subset.refl _)
      (List.subset_cons_of_subset t (subset_of_bracketed hread).2)
  | case7 found t rest =>
    cases h
    exact ⟨⟨_, by simp [forms], rfl⟩, .inr (.inr ⟨t, List.mem_cons_self, rfl⟩)⟩
  | case8 found t rest _ _ _ inner after hcut _ ih =>
    exact (ih h).mono (List.Subset.refl _) (Bracket.subset_of_enclosed? hcut).2
  | case9 found t rest _ _ _ ih =>
    exact (ih h).mono (List.Subset.refl _) (List.subset_cons_self t rest)

/-- What is found in a class body was found before, or consists of tokens of the body. -/
theorem subset_of_scanFrom {found m : Members} (h : scanFrom ends found ts = .ok m) :
    (∀ d ∈ m.functions, d ∈ found.functions ∨ d.body ⊆ ts) ∧
      ∀ block, m.block = some block → found.block = some block ∨ block ⊆ ts := by
  fun_induction scanFrom ends found ts with
  | case1 found =>
    cases h
    exact ⟨fun d hd => .inl (by simpa using hd), fun block hb => .inl hb⟩
  | case2 => cases h
  | case3 found t rest _ d after hread _ ih =>
    obtain ⟨hbody, hafter⟩ := FunctionDecl.subset_of_read hread
    obtain ⟨hfunctions, hblock⟩ := ih h
    refine ⟨fun d' hd' => ?_, fun block hb => ?_⟩
    · rcases hfunctions d' hd' with hd' | hd'
      · rcases List.mem_cons.1 hd' with rfl | hd'
        · exact .inr hbody
        · exact .inl hd'
      · exact .inr (List.Subset.trans hd' hafter)
    · exact (hblock block hb).imp_right fun hb => List.Subset.trans hb hafter
  | case4 => cases h
  | case5 => cases h
  | case6 found t rest _ _ inner after hread _ _ ih =>
    obtain ⟨hinner, hafter⟩ := subset_of_bracketed hread
    obtain ⟨hfunctions, hblock⟩ := ih h
    refine ⟨fun d hd => (hfunctions d hd).imp_right fun hd => ?_, fun block hb => .inr ?_⟩
    · exact List.subset_cons_of_subset t (List.Subset.trans hd hafter)
    · rcases hblock block hb with hb | hb
      · cases hb
        exact List.subset_cons_of_subset t hinner
      · exact List.subset_cons_of_subset t (List.Subset.trans hb hafter)
  | case7 => cases h
  | case8 found t rest _ _ _ inner after hcut _ ih =>
    have hafter := (Bracket.subset_of_enclosed? hcut).2
    exact ⟨fun d hd => ((ih h).1 d hd).imp_right fun hd => List.Subset.trans hd hafter,
      fun block hb => ((ih h).2 block hb).imp_right fun hb => List.Subset.trans hb hafter⟩
  | case9 found t rest _ _ _ ih =>
    exact ⟨fun d hd => ((ih h).1 d hd).imp_right (List.subset_cons_of_subset t),
      fun block hb => ((ih h).2 block hb).imp_right (List.subset_cons_of_subset t)⟩

theorem complains_of_scan {body : List Token} (h : scan body = .error e) :
    Complains forms (Token.endOffset body) body e := complains_of_scanFrom h

theorem subset_of_scan {body : List Token} {m : Members} (h : scan body = .ok m) :
    (∀ d ∈ m.functions, d.body ⊆ body) ∧ ∀ block, m.block = some block → block ⊆ body := by
  obtain ⟨hfunctions, hblock⟩ := subset_of_scanFrom h
  exact ⟨fun d hd => (hfunctions d hd).resolve_left (by simp),
    fun block hb => (hblock block hb).resolve_left (by simp)⟩

end Members

end Quartz
