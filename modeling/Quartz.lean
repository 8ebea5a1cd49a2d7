import Quartz.Text.LowerCase
import Quartz.Text.CaseFold
import Quartz.Text.Blank
import Quartz.Number.Shortest
import Quartz.Number.Remainder
import Quartz.Token.Lexer
import Quartz.Token.Bracket
import Quartz.Value.Apply
import Quartz.Value.Literal
import Quartz.Log.Event
import Quartz.Application
import Quartz.Main
import Quartz.Proofs.Token.Bracket
import Quartz.Proofs.Expression.Grammar
import Quartz.Proofs.Expression.Reader
import Quartz.Proofs.Expression.Unambiguous
import Quartz.Proofs.Eval.Basic
import Quartz.Proofs.Expression.Complete
import Quartz.Proofs.Expression.Sound
import Quartz.Proofs.Expression.Agreement
import Quartz.Proofs.Eval.Statement
import Quartz.Proofs.Eval.Stepwise
import Quartz.Proofs.State.Basic
import Quartz.Proofs.State.Copy
import Quartz.Proofs.State.Reachable
import Quartz.Proofs.Eval.Course
import Quartz.Proofs.Eval.Restore
import Quartz.Proofs.Declaration
import Quartz.Proofs.Program.Segment
import Quartz.Proofs.Eval.Journal
import Quartz.Proofs.Program.Hoist
import Quartz.Proofs.Eval.Nesting
import Quartz.Proofs.Program.CallDepth
import Quartz.Proofs.Declaration.Written
import Quartz.Proofs.Token.Lexer
import Quartz.Proofs.Program.Compile
import Quartz.Proofs.State.Tidy
import Quartz.Proofs.State.Clone
import Quartz.Proofs.State.Isomorphism
import Quartz.Proofs.State.Sealed
import Quartz.Proofs.Eval.Confine
import Quartz.Proofs.Eval.Independence
import Quartz.Proofs.Expression.Lookahead
import Quartz.Proofs.Eval.Sequence
import Quartz.Proofs.Eval.Trace
import Quartz.Proofs.Program.Chunk
import Quartz.Proofs.Eval.Locals
import Quartz.Proofs.Eval.Settle
import Quartz.Proofs.Program.Terminate
import Quartz.Proofs.Cursor.Machine
import Quartz.Proofs.Cursor.Simulation
import Quartz.Proofs.Cursor.Token
import Quartz.Proofs.Cursor.Access
import Quartz.Proofs.Cursor.Expression
import Quartz.Proofs.Cursor.Statement
import Quartz.Proofs.Cursor.Execute
import Quartz.Proofs.Prompt
import Quartz.Proofs.State.Stack
import Quartz.Proofs.Eval.Regime
import Quartz.Proofs.Eval.Region
import Quartz.Proofs.Program.Locate
import Quartz.Proofs.State.Owned
import Quartz.Proofs.Program.Session
import Quartz.Proofs.Token.Lexical
import Quartz.Proofs.Token.Separator
import Quartz.Proofs.Token.Longest
import Quartz.Proofs.Program.Refusal
import Quartz.Proofs.Eval.Chain
import Quartz.Proofs.Program.Pairing
import Quartz.Proofs.Eval.Names
import Quartz.Proofs.Eval.Surroundings
import Quartz.Proofs.Eval.Variables
import Quartz.Proofs.Eval.DeadCode
import Quartz.Proofs.Declaration.Inverse
import Quartz.Proofs.Eval.Arguments
import Quartz.Proofs.State.Assign
import Quartz.Proofs.Source.Position
import Quartz.Proofs.Token.Character
import Quartz.Proofs.Value.Literal
import Quartz.Proofs.Prompt.Stream
import Quartz.Proofs.Script
import Quartz.Proofs.Options
import Quartz.Proofs.Expression.Argument
