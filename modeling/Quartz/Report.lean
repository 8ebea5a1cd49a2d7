import Quartz.Fault
import Quartz.Source.Excerpt

/-!
# `Quartz.Report`: failures with their place in a source

A report says in which phase a script failed, where, and shows the lines
around. A failure is a report, or a fault whose place is unknown.
-/

set_option autoImplicit false

namespace Quartz

/-- The phases in which a script can fail. -/
inductive Phase where
  | lexer
  | parser
  | runtime
  deriving DecidableEq, Repr

/-- The name of a phase. -/
def Phase.name : Phase → Bytes
  | .lexer => utf8 "lexer"
  | .parser => utf8 "parser"
  | .runtime => utf8 "runtime"

/-- A failure with its place. The file is empty for a source without a
name. -/
structure Report where
  phase : Phase
  file : Bytes
  message : Bytes
  position : Position
  excerpt : Bytes
  cause : Option Fault
  deriving DecidableEq, Repr

namespace Report

/-- A report about an offset of a source. -/
def located (phase : Phase) (message source : Bytes) (offset : Int)
    (cause : Option Fault := none) : Report :=
  let position := Position.ofOffset source offset
  { phase, file := [], message, position, excerpt := Excerpt.around source position, cause }

/-- The full text of a report. -/
def text (r : Report) : Bytes :=
  let file := if r.file = [] then [] else r.file ++ utf8 ": "
  let excerpt := if r.excerpt = [] then [] else Bytes.newline :: r.excerpt
  file ++ r.phase.name ++ utf8 " error at line " ++ Bytes.ofNat r.position.line ++
    utf8 ", column " ++ Bytes.ofNat r.position.column ++ utf8 ": " ++ r.message ++ excerpt

end Report

/-- Why a script has no value: a located failure, or a fault without a
known place. -/
inductive Failure where
  | report (r : Report)
  | fault (f : Fault)
  deriving DecidableEq, Repr

namespace Failure

/-- The full text of a failure. -/
def message : Failure → Bytes
  | .report r => r.text
  | .fault f => f.message

/-- The runtime error behind a failure, if there is one. -/
def runtime? : Failure → Option RuntimeError
  | .report r => r.cause.bind Fault.runtime?
  | .fault f => f.runtime?

/-- The failure with a file name in its report. -/
def inFile (name : Bytes) : Failure → Failure
  | .report r => .report { r with file := name }
  | f => f

/-- A fault with the place of its runtime error, if that has one. -/
def locate (source : Bytes) (f : Fault) : Failure :=
  match f.runtime? with
  | none => .fault f
  | some e =>
    if e.offset < 0 then .fault f
    else
      let message := e.cause.message ++ utf8 " (" ++ e.cause.code.name ++ utf8 ")"
      .report (Report.located .runtime message source e.offset (some f))

end Failure

end Quartz
