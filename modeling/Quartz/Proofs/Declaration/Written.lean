import Quartz.Declaration
import Quartz.Proofs.Token.Nested

/-!
# `Quartz.Proofs.Declaration.Written`: how declarations are written

`FunctionDecl.Written` and `ClassDecl.Written` give the form of a declaration, token by token:
the keyword, the name, the parameters of a function as types and names with commas between
them, and a body in braces. The readers accept exactly this form (`FunctionDecl.read_eq_ok_iff`,
`ClassDecl.read_eq_ok_iff`), and hand back what follows it.
-/

set_option autoImplicit false

namespace Quartz

variable {ts rest : List Token} {ends : Int} {ps : List Param}

/-! ### Parameters -/

/-- Tokens that list parameters: a type and a name for each, with commas between them. -/
inductive Param.Listed : List Param → List Token → Prop
  | nil : Listed [] []
  | last {type name : Token} (ht : type.namesType = true) (hn : name.kind = .ident) :
      Listed [⟨name.literal, type.literal⟩] [type, name]
  | more {type name comma : Token} {p : Param} {ps : List Param} {ts : List Token}
      (ht : type.namesType = true) (hn : name.kind = .ident) (hc : comma.kind = .comma)
      (h : Listed (p :: ps) ts) :
      Listed (⟨name.literal, type.literal⟩ :: p :: ps) (type :: name :: comma :: ts)

/-- A token that names a type is a word. -/
theorem Token.kind_of_namesType {t : Token} (h : t.namesType = true) :
    t.kind = .ident ∨ t.kind = .keyword := by
  by_cases hk : t.kind = .keyword
  · exact .inr hk
  · -- Without the kind of a keyword it is no keyword, and only names are left.
    have hno : ∀ k, t.isKeyword k = false := fun k => by
      simp [isKeyword, keyword?, hk]
    simp only [namesType, hno, Bool.or_false, decide_eq_true_eq] at h
    exact .inl h

namespace Param

theorem ofTokens?_eq_some_iff {piece : List Token} {p : Param} :
    ofTokens? piece = some p ↔
      ∃ type name, piece = [type, name] ∧ type.namesType = true ∧ name.kind = .ident ∧
        p = ⟨name.literal, type.literal⟩ := by
  constructor
  · intro h
    unfold ofTokens? at h
    split at h
    · next type name =>
        split at h
        · next hboth =>
            simp only [Bool.and_eq_true, decide_eq_true_eq] at hboth
            cases h
            exact ⟨type, name, rfl, hboth.1, hboth.2, rfl⟩
        · exact nomatch h
    · exact nomatch h
  · rintro ⟨type, name, rfl, ht, hn, rfl⟩
    simp [ofTokens?, ht, hn]

/-- A type and a name hold no comma and no parenthesis. -/
theorem uncut_pair {type name : Token} (ht : type.namesType = true) (hn : name.kind = .ident) :
    Bracket.Uncut 0 [type, name] := by
  have hword : Bracket.Uncut 0 [type] := by
    rcases Token.kind_of_namesType ht with hk | hk <;>
      exact Bracket.uncut_singleton (by simp [Bracket.parenWeight, hk]) (by simp [hk])
  have hname : Bracket.Uncut 0 [name] :=
    Bracket.uncut_singleton (by simp [Bracket.parenWeight, hn]) (by simp [hn])
  exact hword.append hname

/-- The pieces between commas that are read as parameters list them. There is always a first
piece, and so a first parameter. -/
theorem listed_of_spans (h : readAll (Bracket.spans ts) = .ok ps) : ps ≠ [] ∧ Listed ps ts := by
  induction ts using Bracket.cut_induction generalizing ps with
  | last ts hcut _ =>
    rw [Bracket.spans_of_last hcut, readAll] at h
    split at h
    · cases h
    · next p hp =>
        obtain ⟨type, name, rfl, ht, hn, rfl⟩ := ofTokens?_eq_some_iff.1 hp
        cases h
        exact ⟨List.cons_ne_nil _ _, .last ht hn⟩
  | more span comma rest hc hcut _ ih =>
    rw [Bracket.spans_of_more hcut, readAll] at h
    split at h
    · cases h
    · next p hp =>
        obtain ⟨type, name, rfl, ht, hn, rfl⟩ := ofTokens?_eq_some_iff.1 hp
        cases hrest : readAll (Bracket.spans rest) with
        | error e => simp [hrest, Except.map] at h
        | ok qs =>
          rw [hrest] at h
          cases h
          obtain ⟨hne, hlisted⟩ := ih hrest
          cases qs with
          | nil => exact absurd rfl hne
          | cons q qs => exact ⟨List.cons_ne_nil _ _, .more ht hn hc hlisted⟩

/-- A parameter in front of a comma is read before what follows. -/
theorem readAll_spans_pair {type name comma : Token} (ht : type.namesType = true)
    (hn : name.kind = .ident) (hc : comma.kind = .comma) (ts : List Token) :
    readAll (Bracket.spans (type :: name :: comma :: ts)) =
      (readAll (Bracket.spans ts)).map (⟨name.literal, type.literal⟩ :: ·) := by
  have hspans := @Bracket.spans_append_comma [type, name] ts comma (uncut_pair ht hn) hc
  rw [List.cons_append, List.cons_append, List.nil_append] at hspans
  rw [hspans, readAll, ofTokens?_eq_some_iff.2 ⟨type, name, rfl, ht, hn, rfl⟩]

/-- Listed parameters are read from the pieces between the commas. -/
theorem readAll_spans_of_listed {p : Param} (h : Listed (p :: ps) ts) :
    readAll (Bracket.spans ts) = .ok (p :: ps) := by
  generalize hall : p :: ps = all at h
  induction h generalizing p ps with
  | nil => cases hall
  | last ht hn =>
    rw [Bracket.spans_self (uncut_pair ht hn), readAll,
      ofTokens?_eq_some_iff.2 ⟨_, _, rfl, ht, hn, rfl⟩]
    rfl
  | more ht hn hc h ih =>
    rw [readAll_spans_pair ht hn hc, ih rfl]
    rfl

/-- The tokens between the parentheses are read as parameters exactly if they list them. -/
theorem readAll_eq_ok_iff : readAll (Bracket.splitArguments ts) = .ok ps ↔ Listed ps ts := by
  unfold Bracket.splitArguments
  constructor
  · intro h
    split at h
    · next hts =>
        subst hts
        cases h
        exact .nil
    · exact (listed_of_spans h).2
  · intro h
    cases h with
    | nil => rfl
    | last ht hn =>
      rw [if_neg (List.cons_ne_nil _ _)]
      exact readAll_spans_of_listed (.last ht hn)
    | more ht hn hc h =>
      rw [if_neg (List.cons_ne_nil _ _)]
      exact readAll_spans_of_listed (.more ht hn hc h)

/-- A list of parameters holds no brackets. -/
theorem Listed.nested (h : Listed ps ts) : Bracket.Nested ts := by
  have hplain : ∀ {type name : Token}, type.namesType = true → name.kind = .ident →
      Bracket.weight type = 0 ∧ Bracket.weight name = 0 := by
    intro type name ht hn
    constructor
    · rcases Token.kind_of_namesType ht with hk | hk <;> simp [Bracket.weight, hk]
    · simp [Bracket.weight, hn]
  induction h with
  | nil => exact .nil
  | last ht hn => exact .plain (hplain ht hn).1 (.plain (hplain ht hn).2 .nil)
  | @more type name comma _ _ _ ht hn hc _ ih =>
    have hcomma : Bracket.weight comma = 0 := by simp [Bracket.weight, hc]
    exact .plain (hplain ht hn).1 (.plain (hplain ht hn).2 (.plain hcomma ih))

end Param

/-! ### Readers -/

namespace Declaration

theorem expect_eq_ok_iff {p : Token → Bool} {form : Malformation} {t : Token} :
    expect p form ends ts = .ok (t, rest) ↔ ts = t :: rest ∧ p t = true := by
  constructor
  · intro h
    unfold expect at h
    split at h
    · split at h
      · next ht =>
          cases h
          exact ⟨rfl, ht⟩
      · cases h
    · cases h
  · rintro ⟨rfl, hp⟩
    rw [expect, if_pos hp]

section

variable {opener : Kind} {absent unclosed : Malformation} {inner : List Token}

/-- A bracket is read exactly where it stands, closed by one of its kind. -/
theorem bracketed_eq_ok_iff_closer? :
    bracketed opener absent unclosed ends ts = .ok (inner, rest) ↔
      ∃ o c : Token, ts = o :: (inner ++ c :: rest) ∧ o.kind = opener ∧
        Bracket.closer? opener = some c.kind ∧ Bracket.Closed opener c.kind inner := by
  constructor
  · intro h
    unfold bracketed at h
    split at h
    · cases h
    · split at h
      · next t tail hopen =>
          split at h
          · next cut hcut =>
              cases h
              obtain ⟨o, c, hts, hoc, hinner⟩ := Bracket.enclosed?_eq_some_iff.1 hcut
              cases hts
              rw [hopen] at hoc hinner
              exact ⟨_, c, rfl, hopen, hoc, hinner⟩
          · cases h
      · cases h
  · rintro ⟨o, c, rfl, rfl, hoc, hinner⟩
    have hcut : Bracket.enclosed? (o :: (inner ++ c :: rest)) = some (inner, rest) :=
      Bracket.enclosed?_eq_some_iff.2 ⟨o, c, rfl, hoc, hinner⟩
    rw [bracketed, if_pos rfl, hcut]

theorem bracketed_eq_ok_iff {closer : Kind} (hk : Bracket.closer? opener = some closer) :
    bracketed opener absent unclosed ends ts = .ok (inner, rest) ↔
      ∃ o c : Token, ts = o :: (inner ++ c :: rest) ∧ o.kind = opener ∧ c.kind = closer ∧
        Bracket.Closed opener closer inner := by
  rw [bracketed_eq_ok_iff_closer?]
  constructor
  · rintro ⟨o, c, hts, ho, hc, hinner⟩
    cases hk.symm.trans hc
    exact ⟨o, c, hts, ho, rfl, hinner⟩
  · rintro ⟨o, c, hts, ho, rfl, hinner⟩
    exact ⟨o, c, hts, ho, hk, hinner⟩

end

end Declaration

open Declaration

/-! ### Functions and classes -/

/-- The tokens of a function declaration. -/
inductive FunctionDecl.Written : FunctionDecl → List Token → Prop
  | intro {word name o c ob cb : Token} {params : List Param} {list body : List Token}
      (hword : word.isKeyword .function = true) (hname : name.kind = .ident)
      (ho : o.kind = .leftParen) (hlist : Param.Listed params list) (hc : c.kind = .rightParen)
      (hob : ob.kind = .leftBrace) (hbody : Bracket.Closed .leftBrace .rightBrace body)
      (hcb : cb.kind = .rightBrace) :
      Written ⟨name.literal, params, body⟩
        (word :: name :: o :: (list ++ c :: ob :: (body ++ [cb])))

/-- The tokens of a class declaration. -/
inductive ClassDecl.Written : ClassDecl → List Token → Prop
  | intro {word name ob cb : Token} {body : List Token}
      (hword : word.isKeyword .crystal = true) (hname : name.kind = .ident)
      (hob : ob.kind = .leftBrace) (hbody : Bracket.Closed .leftBrace .rightBrace body)
      (hcb : cb.kind = .rightBrace) :
      Written ⟨name.literal, body, name.offset⟩ (word :: name :: ob :: (body ++ [cb]))

/-- A function declaration is read exactly where one is written. -/
theorem FunctionDecl.read_eq_ok_iff {d : FunctionDecl} :
    read ends ts = .ok (d, rest) ↔ ∃ used, ts = used ++ rest ∧ d.Written used := by
  constructor
  · intro h
    obtain ⟨⟨word, ts₁⟩, h₁, h⟩ := bind_eq_ok.1 h
    obtain ⟨⟨name, ts₂⟩, h₂, h⟩ := bind_eq_ok.1 h
    obtain ⟨⟨list, ts₃⟩, h₃, h⟩ := bind_eq_ok.1 h
    obtain ⟨params, hparams, h⟩ := bind_eq_ok.1 h
    obtain ⟨⟨body, ts₄⟩, h₄, h⟩ := bind_eq_ok.1 h
    cases h
    obtain ⟨rfl, hword⟩ := expect_eq_ok_iff.1 h₁
    obtain ⟨rfl, hname⟩ := expect_eq_ok_iff.1 h₂
    obtain ⟨o, c, rfl, ho, hc, _⟩ := (bracketed_eq_ok_iff rfl).1 h₃
    obtain ⟨ob, cb, rfl, hob, hcb, hbody⟩ := (bracketed_eq_ok_iff rfl).1 h₄
    exact ⟨_, by simp, .intro hword (of_decide_eq_true hname) ho
      (Param.readAll_eq_ok_iff.1 hparams) hc hob hbody hcb⟩
  · rintro ⟨used, rfl, hwritten⟩
    cases hwritten with
    | @intro word name o c ob cb params list body hword hname ho hlist hc hob hbody hcb =>
      -- The parameters hold no parenthesis, so the first closing one ends the list.
      have hinner : Bracket.Closed .leftParen .rightParen list := hlist.nested.closed rfl
      refine bind_eq_ok.2 ⟨(word, _), expect_eq_ok_iff.2 ⟨rfl, hword⟩, ?_⟩
      refine bind_eq_ok.2 ⟨(name, _), expect_eq_ok_iff.2 ⟨rfl, decide_eq_true hname⟩, ?_⟩
      refine bind_eq_ok.2 ⟨(list, ob :: (body ++ [cb]) ++ rest),
        (bracketed_eq_ok_iff rfl).2 ⟨o, c, by simp, ho, hc, hinner⟩, ?_⟩
      refine bind_eq_ok.2 ⟨params, Param.readAll_eq_ok_iff.2 hlist, ?_⟩
      exact bind_eq_ok.2 ⟨(body, rest),
        (bracketed_eq_ok_iff rfl).2 ⟨ob, cb, by simp, hob, hcb, hbody⟩, rfl⟩

/-- A class declaration is read exactly where one is written. -/
theorem ClassDecl.read_eq_ok_iff {d : ClassDecl} :
    read ends ts = .ok (d, rest) ↔ ∃ used, ts = used ++ rest ∧ d.Written used := by
  constructor
  · intro h
    obtain ⟨⟨word, ts₁⟩, h₁, h⟩ := bind_eq_ok.1 h
    obtain ⟨⟨name, ts₂⟩, h₂, h⟩ := bind_eq_ok.1 h
    obtain ⟨⟨body, ts₃⟩, h₃, h⟩ := bind_eq_ok.1 h
    cases h
    obtain ⟨rfl, hword⟩ := expect_eq_ok_iff.1 h₁
    obtain ⟨rfl, hname⟩ := expect_eq_ok_iff.1 h₂
    obtain ⟨ob, cb, rfl, hob, hcb, hbody⟩ := (bracketed_eq_ok_iff rfl).1 h₃
    exact ⟨_, by simp, .intro hword (of_decide_eq_true hname) hob hbody hcb⟩
  · rintro ⟨used, rfl, hwritten⟩
    cases hwritten with
    | @intro word name ob cb body hword hname hob hbody hcb =>
      refine bind_eq_ok.2 ⟨(word, _), expect_eq_ok_iff.2 ⟨rfl, hword⟩, ?_⟩
      refine bind_eq_ok.2 ⟨(name, _), expect_eq_ok_iff.2 ⟨rfl, decide_eq_true hname⟩, ?_⟩
      exact bind_eq_ok.2 ⟨(body, rest),
        (bracketed_eq_ok_iff rfl).2 ⟨ob, cb, by simp, hob, hcb, hbody⟩, rfl⟩

end Quartz
