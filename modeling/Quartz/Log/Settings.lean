import Quartz.Log.Record

/-!
# `Quartz.Log.Settings`: what is logged, and how
-/

set_option autoImplicit false

namespace Quartz.Log

/-- Which records are written, and in which format. -/
structure Settings where
  level : Level
  format : Format
  deriving DecidableEq, Repr

/-- Why settings are refused. -/
inductive Refusal where
  | level (word : Bytes)
  | format (word : Bytes)
  deriving DecidableEq, Repr

/-- The wording of a refusal. -/
def Refusal.message : Refusal → Bytes
  | .level word => utf8 "invalid log level: " ++ word
  | .format word => utf8 "invalid log format: " ++ word

/-- The level with a name. -/
def Level.read (word : Bytes) : Except Refusal Level :=
  match Level.ofWord? word with
  | some l => .ok l
  | none => .error (.level word)

/-- The settings with the given names. The level is looked at first. -/
def Settings.read (level format : Bytes) : Except Refusal Settings := do
  let level ← Level.read level
  match Format.ofWord? format with
  | some format => .ok ⟨level, format⟩
  | none => .error (.format format)

/-- Whether a record is important enough to be written. -/
def Level.admits (l : Level) (r : Record) : Bool := l.number ≤ r.level.number

/-- The text of several records under settings. -/
def Settings.write (s : Settings) (rs : List Record) : Bytes :=
  (rs.filter s.level.admits).flatMap (Record.line s.format)

end Quartz.Log
