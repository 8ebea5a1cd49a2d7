import Quartz.Fault
import Quartz.Function
import Quartz.Token.Bracket

/-!
# `Quartz.Declaration`: the declarations in a token list

A function is declared as `function name(type name, …) { … }` and a class
as `crystal name { … }`. Reading a declaration takes it off the front of a
token list; the tokens that remain are handed back.

A complaint points at the token in front. Where no token is left it points
at the last token of the list that is being read, so every reader takes
that offset along as `ends`.

The body of a class is read by `Members.scan`: function declarations and at
most one `variables { … }` block at its top level. Blocks in braces are
passed over, and all other tokens mean nothing there.
-/

set_option autoImplicit false

namespace Quartz

namespace Declaration

/-- The error for a malformation at an offset. -/
def malformedAt (form : Malformation) (offset : Int) : RuntimeError := ⟨.malformed form, offset⟩

/-- Takes one token that passes a test off the front. -/
def expect (p : Token → Bool) (form : Malformation) (ends : Int) (ts : List Token) :
    Except RuntimeError (Token × List Token) :=
  match ts with
  | t :: rest => if p t then .ok (t, rest) else .error (malformedAt form t.offset)
  | [] => .error (malformedAt form ends)

/-- Takes a bracket of a kind off the front, with what it encloses. The two
malformations say that there is no such bracket, and that it is never
closed. -/
def bracketed (opener : Kind) (absent unclosed : Malformation) (ends : Int) (ts : List Token) :
    Except RuntimeError (List Token × List Token) :=
  match ts with
  | [] => .error (malformedAt absent ends)
  | t :: rest =>
    if t.kind = opener then
      match Bracket.enclosed? (t :: rest) with
      | some cut => .ok cut
      | none => .error (malformedAt unclosed t.offset)
    else .error (malformedAt absent t.offset)

/-- A chain of readers succeeds when its first step does and the rest then
does. -/
theorem bind_eq_ok {α β : Type} {x : Except RuntimeError α} {f : α → Except RuntimeError β}
    {b : β} : x >>= f = .ok b ↔ ∃ a, x = .ok a ∧ f a = .ok b := by
  cases x <;> simp [bind, Except.bind]

/-- What is taken off the front is one token. -/
theorem length_of_expect {p : Token → Bool} {form : Malformation} {ends : Int}
    {ts rest : List Token} {t : Token} (h : expect p form ends ts = .ok (t, rest)) :
    rest.length + 1 = ts.length := by
  unfold expect at h
  split at h
  · split at h
    · simp only [Except.ok.injEq, Prod.mk.injEq] at h
      obtain ⟨rfl, rfl⟩ := h
      rfl
    · exact nomatch h
  · exact nomatch h

/-- The two brackets, what they enclose and what follows make up the list. -/
theorem length_of_bracketed {opener : Kind} {absent unclosed : Malformation} {ends : Int}
    {ts inner rest : List Token}
    (h : bracketed opener absent unclosed ends ts = .ok (inner, rest)) :
    inner.length + rest.length + 2 = ts.length := by
  unfold bracketed at h
  split at h
  · exact nomatch h
  · split at h
    · split at h
      · next heq =>
          simp only [Except.ok.injEq] at h
          subst h
          exact Bracket.length_of_enclosed? heq
      · exact nomatch h
    · exact nomatch h

end Declaration

open Declaration

/-! ### Functions -/

/-- Whether a token can name the type of a parameter: a class name or one
of the type words. -/
def Token.namesType (t : Token) : Bool :=
  t.kind = .ident || t.isKeyword .number || t.isKeyword .string || t.isKeyword .bool ||
    t.isKeyword .null || t.isKeyword .function

/-- The parameter that a type and a name declare. -/
def Param.ofTokens? : List Token → Option Param
  | [type, name] =>
    if type.namesType && name.kind = .ident then some ⟨name.literal, type.literal⟩ else none
  | _ => none

/-- The parameters that several pieces declare, one each. -/
def Param.readAll : List (List Token) → Except RuntimeError (List Param)
  | [] => .ok []
  | piece :: pieces =>
    match Param.ofTokens? piece with
    | none => .error (malformedAt .parameterForm (Token.place (-1) piece))
    | some p => (Param.readAll pieces).map (p :: ·)

/-- A function declaration. -/
structure FunctionDecl where
  name : Bytes
  params : List Param
  body : List Token
  deriving DecidableEq, Repr

namespace FunctionDecl

/-- The function declaration at the front of a token list, and the tokens
behind it. -/
def read (ends : Int) (ts : List Token) : Except RuntimeError (FunctionDecl × List Token) := do
  let (_, ts) ← expect (·.isKeyword .function) .expectedFunction ends ts
  let (name, ts) ← expect (·.kind = .ident) .expectedFunctionName ends ts
  let (list, ts) ←
    bracketed .leftParen .expectedParameterList .unbalancedParameterList ends ts
  let params ← Param.readAll (Bracket.splitArguments list)
  let (body, ts) ← bracketed .leftBrace .expectedFunctionBody .unbalancedFunctionBody ends ts
  return (⟨name.literal, params, body⟩, ts)

/-- The function declaration at an index of a token list, and the index behind it. Without
one the index stays where it is. -/
def readAt (ts : List Token) (i : Nat) : Except RuntimeError FunctionDecl × Nat :=
  match read (Token.endOffset ts) (ts.drop i) with
  | .ok (d, rest) => (.ok d, ts.length - rest.length)
  | .error e => (.error e, i)

/-- The declared function, not registered anywhere. -/
def function (d : FunctionDecl) : Function := Function.ofBody d.name d.params d.body

/-- A declaration takes at least its six fixed tokens off the front. -/
theorem length_of_read {ends : Int} {ts rest : List Token} {d : FunctionDecl}
    (h : read ends ts = .ok (d, rest)) : d.body.length + rest.length + 6 ≤ ts.length := by
  obtain ⟨⟨k, ts₁⟩, h₁, h⟩ := bind_eq_ok.1 h
  obtain ⟨⟨name, ts₂⟩, h₂, h⟩ := bind_eq_ok.1 h
  obtain ⟨⟨list, ts₃⟩, h₃, h⟩ := bind_eq_ok.1 h
  obtain ⟨params, -, h⟩ := bind_eq_ok.1 h
  obtain ⟨⟨body, ts₄⟩, h₄, h⟩ := bind_eq_ok.1 h
  simp only [pure, Except.pure, Except.ok.injEq, Prod.mk.injEq] at h
  obtain ⟨rfl, rfl⟩ := h
  have := length_of_expect h₁
  have := length_of_expect h₂
  have := length_of_bracketed h₃
  have := length_of_bracketed h₄
  simp only
  omega

end FunctionDecl

/-! ### Classes -/

/-- A class declaration, with the offset of its name. -/
structure ClassDecl where
  name : Bytes
  body : List Token
  offset : Int
  deriving DecidableEq, Repr

namespace ClassDecl

/-- The class declaration at the front of a token list, and the tokens
behind it. -/
def read (ends : Int) (ts : List Token) : Except RuntimeError (ClassDecl × List Token) := do
  let (_, ts) ← expect (·.isKeyword .crystal) .expectedClass ends ts
  let (name, ts) ← expect (·.kind = .ident) .expectedClassName ends ts
  let (body, ts) ← bracketed .leftBrace .expectedClassBody .unbalancedClassBody ends ts
  return (⟨name.literal, body, name.offset⟩, ts)

/-- A declaration takes its body and four more tokens off the front. -/
theorem length_of_read {ends : Int} {ts rest : List Token} {d : ClassDecl}
    (h : read ends ts = .ok (d, rest)) : d.body.length + rest.length + 4 = ts.length := by
  obtain ⟨⟨word, ts₁⟩, h₁, h⟩ := bind_eq_ok.1 h
  obtain ⟨⟨name, ts₂⟩, h₂, h⟩ := bind_eq_ok.1 h
  obtain ⟨⟨body, ts₃⟩, h₃, h⟩ := bind_eq_ok.1 h
  simp only [pure, Except.pure, Except.ok.injEq, Prod.mk.injEq] at h
  obtain ⟨rfl, rfl⟩ := h
  have := length_of_expect h₁
  have := length_of_expect h₂
  have := length_of_bracketed h₃
  simp only
  omega

end ClassDecl

/-- What a class body declares: functions, and the block that sets up the
variables. -/
structure Members where
  functions : List FunctionDecl
  block : Option (List Token)
  deriving DecidableEq, Repr

namespace Members

/-- The declarations from here to the end of a class body, after those
found so far. The functions found so far are in reverse. -/
def scanFrom (ends : Int) (found : Members) (ts : List Token) : Except RuntimeError Members :=
  match ts with
  | [] => .ok { found with functions := found.functions.reverse }
  | t :: rest =>
    if t.isKeyword .function then
      match h : FunctionDecl.read ends (t :: rest) with
      | .error e => .error e
      | .ok (d, after) =>
        have := FunctionDecl.length_of_read h
        scanFrom ends { found with functions := d :: found.functions } after
    else if t.isKeyword .variables then
      match h : bracketed .leftBrace .expectedVariablesBlock .unbalancedVariablesBlock ends
          rest with
      | .error e => .error e
      | .ok (block, after) =>
        have := length_of_bracketed h
        if found.block.isSome then .error (malformedAt .duplicateVariablesBlock t.offset)
        else scanFrom ends { found with block := some block } after
    else if t.kind = .leftBrace then
      match h : Bracket.enclosed? (t :: rest) with
      | none => .error (malformedAt .unbalancedClassBody t.offset)
      | some (_, after) =>
        have := Bracket.length_of_enclosed? h
        scanFrom ends found after
    else scanFrom ends found rest
termination_by ts.length
decreasing_by all_goals simp only [List.length_cons] at *; omega

/-- The declarations in a class body. -/
def scan (body : List Token) : Except RuntimeError Members :=
  scanFrom (Token.endOffset body) ⟨[], none⟩ body

theorem length_of_scanFrom {ends : Int} {found m : Members} {ts block : List Token}
    (h : scanFrom ends found ts = .ok m) (hb : m.block = some block)
    (hn : found.block ≠ some block) : block.length + 3 ≤ ts.length := by
  fun_induction scanFrom ends found ts with
  | case1 found =>
      simp only [Except.ok.injEq] at h
      subst h
      exact absurd hb hn
  | case2 => exact nomatch h
  | case3 found t rest _ d after _ hlt ih =>
      have := ih h hn
      simp only [List.length_cons] at *
      omega
  | case4 => exact nomatch h
  | case5 => exact nomatch h
  | case6 found t rest _ _ inner after hread hlt _ ih =>
      by_cases hi : inner = block
      · subst hi
        simp only [List.length_cons] at *
        omega
      · have := ih h (by simpa using hi)
        simp only [List.length_cons] at *
        omega
  | case7 => exact nomatch h
  | case8 found t rest _ _ _ inner after _ hlt ih =>
      have := ih h hn
      simp only [List.length_cons] at *
      omega
  | case9 found t rest _ _ _ ih =>
      have := ih h hn
      simp only [List.length_cons]
      omega

/-- The variables block, its word and its braces lie inside the body. -/
theorem length_of_scan {body block : List Token} {m : Members} (h : scan body = .ok m)
    (hb : m.block = some block) : block.length + 3 ≤ body.length :=
  length_of_scanFrom h hb (by simp)

end Members

end Quartz
