import Quartz.Program.Basic
import Quartz.Proofs.Declaration

/-!
# `Quartz.Proofs.Program.Segment`: the pieces of a source

A source is a sequence of segments: function declarations, class declarations, and
statements. `segments` cuts the tokens into them from left to right. A block in braces is one
segment, so a declaration inside it is no segment of its own.

A program is made of exactly these pieces if it is `Sliced`: its functions and classes are the
declared ones in source order, and its main statements are the statement segments.
-/

set_option autoImplicit false

namespace Quartz

namespace Program

/-- A piece of a token list, with what it declares. -/
inductive Segment where
  | function (d : FunctionDecl) (tokens : List Token)
  | crystal (d : ClassDecl) (tokens : List Token)
  | statement (tokens : List Token)

namespace Segment

/-- The function that a segment declares. -/
def function? : Segment → Option FunctionDecl
  | .function d _ => some d
  | _ => none

/-- The class that a segment declares. -/
def class? : Segment → Option ClassDecl
  | .crystal d _ => some d
  | _ => none

/-- The tokens of a segment that declares a function. -/
def functionTokens : Segment → List Token
  | .function _ ts => ts
  | _ => []

/-- The tokens of a segment that declares a class. -/
def classTokens : Segment → List Token
  | .crystal _ ts => ts
  | _ => []

/-- The tokens of a segment of statements. -/
def statementTokens : Segment → List Token
  | .statement ts => ts
  | _ => []

/-- A segment that declares something is read as that declaration, wherever it stands. -/
def Whole : Segment → Prop
  | .function d ts => (∃ t used, ts = t :: used ∧ t.isKeyword .function = true) ∧
      Declaration.Reads FunctionDecl.read d ts
  | .crystal d ts => (∃ t used, ts = t :: used ∧ t.isKeyword .crystal = true) ∧
      Declaration.Reads ClassDecl.read d ts
  | .statement _ => True

end Segment

/-- The tokens of a list in front of some of its last ones. -/
def front (ts after : List Token) : List Token := ts.take (ts.length - after.length)

theorem front_append (used after : List Token) : front (used ++ after) after = used := by
  simp [front]

/-- The segments of a token list. A word that starts no declaration counts as a statement. -/
def segments (ts : List Token) : List Segment :=
  match ts with
  | [] => []
  | t :: rest =>
    if t.isKeyword .function then
      match h : FunctionDecl.read (-1) (t :: rest) with
      | .error _ => .statement [t] :: segments rest
      | .ok (d, after) =>
        have := FunctionDecl.length_of_read h
        .function d (front (t :: rest) after) :: segments after
    else if t.isKeyword .crystal then
      match h : ClassDecl.read (-1) (t :: rest) with
      | .error _ => .statement [t] :: segments rest
      | .ok (d, after) =>
        have := ClassDecl.length_of_read h
        .crystal d (front (t :: rest) after) :: segments after
    else if t.kind = .leftBrace then
      match h : Bracket.enclosed? (t :: rest) with
      | none => .statement [t] :: segments rest
      | some (_, after) =>
        have := Bracket.length_of_enclosed? h
        .statement (front (t :: rest) after) :: segments after
    else .statement [t] :: segments rest
termination_by ts.length
decreasing_by all_goals simp only [List.length_cons] at *; omega

/-! ### The equations of the cut -/

variable {t : Token} {used : List Token}

theorem segments_function {d : FunctionDecl} (ht : t.isKeyword .function = true)
    (h : Declaration.Reads FunctionDecl.read d (t :: used)) (after : List Token) :
    segments (t :: used ++ after) = .function d (t :: used) :: segments after := by
  have hread := h (-1) after
  rw [List.cons_append] at hread ⊢
  rw [segments, if_pos ht]
  split
  · next heq => cases heq.symm.trans hread
  -- The reader takes the same tokens here, so both cuts end in the same place.
  · next d' after' heq =>
      cases heq.symm.trans hread
      exact congrArg (fun u => Segment.function d u :: segments after)
        (front_append (t :: used) after)

theorem segments_class {d : ClassDecl} (ht : t.isKeyword .crystal = true)
    (h : Declaration.Reads ClassDecl.read d (t :: used)) (after : List Token) :
    segments (t :: used ++ after) = .crystal d (t :: used) :: segments after := by
  have hf : ¬ t.isKeyword .function = true := by
    simp [Token.isKeyword, (Token.kind_of_isKeyword ht).2]
  have hread := h (-1) after
  rw [List.cons_append] at hread ⊢
  rw [segments, if_neg hf, if_pos ht]
  split
  · next heq => cases heq.symm.trans hread
  · next d' after' heq =>
      cases heq.symm.trans hread
      exact congrArg (fun u => Segment.crystal d u :: segments after)
        (front_append (t :: used) after)

/-- The class that the compiler reads is the class that a run reads. -/
theorem read_of_readClass {offset : Int} {t : Token} {rest after : List Token} {d : ClassDecl}
    (ht : t.isKeyword .crystal = true) (h : readClass offset rest = .ok (d, after)) (ends : Int) :
    ClassDecl.read ends (t :: rest) = .ok (d, after) := by
  unfold readClass at h
  split at h
  · next name tail =>
      split at h
      · next hname =>
          split at h
          · next body after' hbody =>
              cases h
              -- The compiler has checked the keyword before, and what it cuts off does not
              -- depend on the offset that it would report.
              obtain ⟨used, rfl, hreads⟩ := Declaration.reads_of_bracketed hbody
              refine Declaration.bind_eq_ok.2 ⟨(t, name :: (used ++ after)), ?_, ?_⟩
              · rw [Declaration.expect, if_pos ht]
              refine Declaration.bind_eq_ok.2 ⟨(name, used ++ after), ?_, ?_⟩
              · rw [Declaration.expect, if_pos (decide_eq_true hname)]
              exact Declaration.bind_eq_ok.2 ⟨_, hreads ends after, rfl⟩
          · cases h
      · cases h
  · cases h

theorem segments_block {o c : Token} {inner : List Token} (ho : o.kind = .leftBrace)
    (hc : c.kind = .rightBrace) (hi : Bracket.Closed .leftBrace .rightBrace inner)
    (after : List Token) :
    segments (o :: (inner ++ c :: after)) = .statement (o :: (inner ++ [c])) :: segments after := by
  have hcut : Bracket.enclosed? (o :: (inner ++ c :: after)) = some (inner, after) :=
    Bracket.enclosed?_eq_some_iff.2 ⟨o, c, rfl, by rw [ho, hc]; rfl, by rwa [ho, hc]⟩
  have hfront : front (o :: (inner ++ c :: after)) after = o :: (inner ++ [c]) := by
    simpa using front_append (o :: (inner ++ [c])) after
  have hno : ∀ k, ¬ o.isKeyword k = true := fun k hk => by
    rw [(Token.kind_of_isKeyword hk).1] at ho
    cases ho
  rw [segments, if_neg (hno _), if_neg (hno _), if_pos ho]
  split
  · next heq => cases heq.symm.trans hcut
  · next heq =>
      cases heq.symm.trans hcut
      exact congrArg (fun u => Segment.statement u :: segments after) hfront

/-! ### Programs and segments -/

/-- What was found before and what segments declare make up the parts of a program. -/
structure Sliced (found parts : Parts) (segs : List Segment) : Prop where
  functions : parts.functions = found.functions.reverse ++ segs.filterMap Segment.function?
  classes : parts.classes = found.classes.reverse ++ segs.filterMap Segment.class?
  main : parts.main = found.main.reverse ++ segs.flatMap Segment.statementTokens
  whole : ∀ seg ∈ segs, seg.Whole

end Program

end Quartz
