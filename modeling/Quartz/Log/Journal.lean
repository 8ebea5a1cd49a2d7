import Quartz.Log.Event
import Quartz.Log.Settings

/-!
# `Quartz.Log.Journal`: what is written beside the output

A journal keeps, in order, the events that were important enough and the
notices for the person at the prompt. Events are written in the chosen
format, notices as they are.
-/

set_option autoImplicit false

namespace Quartz.Log

/-- One entry of a journal. -/
inductive Entry where
  | event (e : Event)
  | notice (line : Bytes)
  deriving DecidableEq, Repr

/-- An entry on a line of its own. -/
def Entry.line (format : Format) : Entry → Bytes
  | .event e => e.record.line format
  | .notice line => line ++ [Bytes.newline]

/-- A journal. Without a threshold no event is kept. -/
structure Journal where
  threshold : Option Level := none
  entries : Array Entry := #[]

namespace Journal

/-- Keeps an event if it is important enough. -/
def report (j : Journal) (e : Event) : Journal :=
  match j.threshold with
  | none => j
  | some level =>
    if level.admits e.record then { j with entries := j.entries.push (.event e) } else j

/-- Keeps a notice. -/
def notify (j : Journal) (line : Bytes) : Journal :=
  { j with entries := j.entries.push (.notice line) }

/-- The text of a journal. -/
def text (format : Format) (j : Journal) : Bytes :=
  j.entries.toList.flatMap (Entry.line format)

end Journal

end Quartz.Log
