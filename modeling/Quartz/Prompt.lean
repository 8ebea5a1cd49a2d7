import Quartz.Program.Run
import Quartz.Text.Blank
import Quartz.Text.LowerCase

/-!
# `Quartz.Prompt`: the interactive prompt

The prompt reads lines until the brackets they open are closed
(`readInput`), and runs what it has read in one scope that stays. An
interrupt drops the lines read so far. A text that starts with a colon is a
command; the only command is to quit, under three names.

`converse` answers a whole list of lines. Values and printed lines go to
the output, failures to the journal as notices.
-/

set_option autoImplicit false

namespace Quartz

namespace Prompt

/-- What the person at the prompt enters: a line, or an interrupt. -/
inductive Line where
  | text (s : Bytes)
  | interrupt
  deriving DecidableEq, Repr

/-- Asks for the first line of an input. -/
def first : Bytes := utf8 "crystal> "

/-- Asks for a further line. -/
def further : Bytes := utf8 "... "

/-- The greeting. -/
def banner : Bytes := utf8 "Crystal REPL. Type :quit to exit."

/-- What is said about a command that does not exist. -/
def unknownCommand : Bytes := utf8 "unknown command. Type :quit to exit."

/-- The commands that end the dialogue. -/
def quitWords : List Bytes := [utf8 ":quit", utf8 ":exit", utf8 ":q"]

/-- Whether a text opens more brackets than it closes, so that more lines
belong to it. -/
def incomplete (source : Bytes) : Bool := 0 < Bracket.openCount (Lexer.tokenize source)

/-- What came of reading an input. -/
inductive Input where
  | text (s : Bytes)
  | aborted
  | ended
  deriving DecidableEq, Repr

/-- What is handed over of an input: its text, and whether there may be
more to read. An aborted input leaves no text. -/
def Input.result : Input → Bytes × Bool
  | .text s => (s, true)
  | .aborted => ([], true)
  | .ended => ([], false)

/-- An input, the prompts shown while it was read, and the lines behind
it. -/
structure Answer where
  input : Input
  prompts : List Bytes
  rest : List Line

/-- The lines so far and one more. -/
def joined (pending line : Bytes) : Bytes :=
  if pending = [] then line else pending ++ Bytes.newline :: line

/-- Reads on after the lines of an unfinished input. -/
def readFrom (pending : Bytes) : List Line → Answer
  | [] => ⟨.ended, [asking pending], []⟩
  | .interrupt :: rest => ⟨.aborted, [asking pending], rest⟩
  | .text line :: rest =>
    let source := joined pending line
    if incomplete source then
      let more := readFrom source rest
      { more with prompts := asking pending :: more.prompts }
    else ⟨.text source, [asking pending], rest⟩
where
  /-- The prompt to show. -/
  asking (pending : Bytes) : Bytes := if pending = [] then first else further

/-- Reads one input. -/
def readInput (lines : List Line) : Answer := readFrom [] lines

/-- Reading takes at least one line, unless there is none. -/
theorem length_rest_readFrom (pending : Bytes) (lines : List Line) :
    (readFrom pending lines).rest.length < lines.length ∨
      (readFrom pending lines).input = .ended := by
  induction lines generalizing pending with
  | nil => exact Or.inr rfl
  | cons line rest ih =>
      cases line with
      | interrupt => simp [readFrom]
      | text s =>
          simp only [readFrom]
          split
          · rcases ih (joined pending s) with h | h
            · exact Or.inl (by simp only [List.length_cons]; omega)
            · exact Or.inr h
          · simp

/-- Every input in a list of lines, up to the one that meets the end. -/
def inputs (lines : List Line) : List Answer :=
  let a := readInput lines
  if h : a.input = .ended then [a]
  else
    have : a.rest.length < lines.length :=
      (length_rest_readFrom [] lines).resolve_right h
    a :: inputs a.rest
termination_by lines.length

/-! ### The dialogue -/

/-- A dialogue so far: the state, the prompts shown and the inputs kept as
history, the latest of each first. -/
structure Dialogue where
  st : State
  prompts : List Bytes := []
  history : List Bytes := []

/-- Runs an input in a scope. A value other than null is shown; a failure
is reported and noted. -/
def Dialogue.evaluate (d : Dialogue) (s : ScopeId) (source : Bytes) : Dialogue :=
  let history := Bytes.replace Bytes.newline (Bytes.byte ' ') source :: d.history
  match Program.runSource [] source s d.st with
  | (some (.ok v), st) =>
    match v with
    | .null => { d with st, history }
    | v => { d with st := st.print (st.display v), history }
  | (some (.error f), st) =>
    { d with st := (st.report (.evaluationFailed f.message)).notify f.message, history }
  | (none, st) => { d with st, history }

/-- What an input asks for. -/
inductive Request where
  | nothing
  | quit
  | unknown
  | evaluation (source : Bytes)
  deriving DecidableEq, Repr

/-- The request in a text. Blanks around a command do not count, and
neither does its case. -/
def Request.ofText (source : Bytes) : Request :=
  let word := source.trimBlank
  if word = [] then .nothing
  else if word.head? = some (Bytes.byte ':') then
    if quitWords.contains word.toLower then .quit else .unknown
  else .evaluation source

/-- Answers lines until they end or one asks to quit; the lines behind that
one are left over. -/
def converse (s : ScopeId) (d : Dialogue) (lines : List Line) : Dialogue × List Line :=
  let a := readInput lines
  let d := { d with prompts := a.prompts.reverse ++ d.prompts }
  if h : a.input = .ended then ({ d with st := d.st.print [] }, a.rest)
  else
    have : a.rest.length < lines.length :=
      (length_rest_readFrom [] lines).resolve_right h
    match Request.ofText a.input.result.1 with
    | .nothing => converse s d a.rest
    | .quit => (d, a.rest)
    | .unknown => converse s { d with st := d.st.notify unknownCommand } a.rest
    | .evaluation source => converse s (d.evaluate s source) a.rest
termination_by lines.length

end Prompt

end Quartz
