import Quartz.Declaration
import Quartz.Report
import Quartz.Token.Lexer

/-!
# `Quartz.Program.Basic`: from a source to a program

A program is a source taken apart: the functions and the classes declared
outside braces, and all other tokens in source order, which are its main
statements. `Program.compile` refuses a source with an error token, with
brackets that do not pair up, with a malformed declaration, or with a name
declared twice; the first such problem is reported with its place.
-/

set_option autoImplicit false

namespace Quartz

/-- A compiled script. The name is empty for a source that has none. -/
structure Program where
  name : Bytes
  source : Bytes
  functions : List FunctionDecl
  classes : List ClassDecl
  main : List Token
  deriving DecidableEq, Repr

namespace Program

/-- The wording of an imbalance. -/
def imbalanceMessage : Bracket.Imbalance → Bytes
  | .unexpected t => utf8 "unexpected " ++ t.literal
  | .unclosed t => utf8 "unclosed " ++ t.literal

/-- The token at which an imbalance shows. -/
def imbalanceOffset : Bracket.Imbalance → Int
  | .unexpected t => t.offset
  | .unclosed t => t.offset

/-- What the parser finds wrong with a source: a complaint at an offset,
or a runtime error from reading a declaration. -/
inductive Complaint where
  | located (message : Bytes) (offset : Int)
  | declaration (e : RuntimeError)
  deriving DecidableEq, Repr

/-- A complaint about a source as a failure. An error in a declaration that
has no place stays as it is. -/
def Complaint.failure (source : Bytes) : Complaint → Failure
  | .located message offset => .report (Report.located .parser message source offset)
  | .declaration e =>
    if e.offset < 0 then .fault (.runtime e)
    else .report (Report.located .parser e.cause.message source e.offset (some (.runtime e)))

/-- The header of a class behind the word `crystal`, which stands at an
offset: the class, and the tokens behind it. -/
def readClass (offset : Int) : List Token → Except Complaint (ClassDecl × List Token)
  | name :: rest =>
    if name.kind = .ident then
      match Declaration.bracketed .leftBrace .expectedClassBody .unbalancedClassBody (-1)
          rest with
      | .ok (body, after) => .ok (⟨name.literal, body, name.offset⟩, after)
      | .error _ =>
        .error (.located (utf8 "expected \x7b after crystal " ++ name.literal) name.offset)
    else .error (.located (utf8 "expected class name after crystal") offset)
  | [] => .error (.located (utf8 "expected class name after crystal") offset)

/-- The declarations and statements found so far, each in reverse. -/
structure Parts where
  functions : List FunctionDecl := []
  classes : List ClassDecl := []
  main : List Token := []

/-- A class header leaves fewer tokens. -/
theorem length_of_readClass {offset : Int} {ts rest : List Token} {d : ClassDecl}
    (h : readClass offset ts = .ok (d, rest)) :
    d.body.length + rest.length + 3 = ts.length := by
  unfold readClass at h
  split at h
  · split at h
    · split at h
      · next heq =>
          simp only [Except.ok.injEq, Prod.mk.injEq] at h
          obtain ⟨rfl, rfl⟩ := h
          have := Declaration.length_of_bracketed heq
          simp only [List.length_cons]
          omega
      · exact nomatch h
    · exact nomatch h
  · exact nomatch h

/-- Takes the tokens apart from left to right. A block in braces belongs to
the statements as a whole, whatever it holds. -/
def slice (ends : Int) (found : Parts) (ts : List Token) : Except Complaint Parts :=
  match ts with
  | [] => .ok ⟨found.functions.reverse, found.classes.reverse, found.main.reverse⟩
  | t :: rest =>
    if t.isKeyword .function then
      match h : FunctionDecl.read ends (t :: rest) with
      | .error e => .error (.declaration e)
      | .ok (d, after) =>
        have := FunctionDecl.length_of_read h
        if found.functions.any (·.name = d.name) then
          .error (.located (utf8 "function " ++ d.name ++ utf8 " is already declared")
            (Token.place ends rest))
        else slice ends { found with functions := d :: found.functions } after
    else if t.isKeyword .crystal then
      match h : readClass t.offset rest with
      | .error e => .error e
      | .ok (d, after) =>
        have := length_of_readClass h
        if found.classes.any (·.name = d.name) then
          .error (.located (utf8 "crystal " ++ d.name ++ utf8 " is already declared") d.offset)
        else slice ends { found with classes := d :: found.classes } after
    else if t.kind = .leftBrace then
      match h : Bracket.enclosed? (t :: rest) with
      | none => slice ends { found with main := t :: found.main } rest
      | some (inner, after) =>
        have := Bracket.length_of_enclosed? h
        let block := (t :: rest).take (inner.length + 2)
        slice ends { found with main := block.reverse ++ found.main } after
    else slice ends { found with main := t :: found.main } rest
termination_by ts.length
decreasing_by all_goals simp only [List.length_cons] at *; omega

/-- Compiles a source without a name. -/
def compile (source : Bytes) : Except Failure Program :=
  let ts := Lexer.tokenize source
  match ts.find? fun t => t.kind = .error with
  | some t => .error (.report (Report.located .lexer t.diagnostic source t.offset))
  | none =>
    match Bracket.imbalance? ts with
    | some i =>
      .error (.report
        (Report.located .parser (imbalanceMessage i) source (imbalanceOffset i)))
    | none =>
      match slice (Token.endOffset ts) {} ts with
      | .error c => .error (c.failure source)
      | .ok parts =>
        .ok { name := [], source, functions := parts.functions, classes := parts.classes,
              main := parts.main }

/-- Compiles a source from a file. Reports carry the name of the file. -/
def compileFile (name source : Bytes) : Except Failure Program :=
  match compile source with
  | .ok p => .ok { p with name }
  | .error f => .error (f.inFile name)

end Program

end Quartz
