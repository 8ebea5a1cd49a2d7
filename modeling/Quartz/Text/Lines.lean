import Quartz.Text.Bytes

/-!
# `Quartz.Text.Lines`: lines of an input

An input is read line by line through a buffer. A line ends with a line
break, with or without a carriage return before it, and the last one may
end with the input. A line that does not fit into the buffer is read in
several pieces.
-/

set_option autoImplicit false

namespace Quartz

namespace Lines

/-- The size of the buffer. -/
def bufferSize : Nat := 4096

/-- A piece of an input: a line, or a part of one that was cut because the
buffer was full. -/
structure Piece where
  text : Bytes
  cut : Bool
  deriving DecidableEq, Repr

/-- The text without one carriage return at its end. -/
def dropReturn (s : Bytes) : Bytes := if s.getLast? = some 13 then s.dropLast else s

/-- The first piece of an input that is not empty, and how many bytes it
takes beyond the first. A carriage return at the end of a cut piece is left
for the next one, as it may belong to a line break. -/
def front (s : Bytes) : Piece × Nat :=
  let window := s.take bufferSize
  let line := window.takeWhile (· ≠ Bytes.newline)
  if line.length < window.length then (⟨dropReturn line, false⟩, line.length)
  else if s.length < bufferSize then (⟨s, false⟩, s.length - 1)
  else
    let kept := dropReturn window
    (⟨kept, true⟩, kept.length - 1)

/-- The pieces of an input. -/
def pieces (s : Bytes) : List Piece :=
  match s with
  | [] => []
  | b :: rest => (front (b :: rest)).1 :: pieces (rest.drop (front (b :: rest)).2)
termination_by s.length
decreasing_by simp only [List.length_drop, List.length_cons]; omega

end Lines

end Quartz
