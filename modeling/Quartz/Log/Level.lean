import Quartz.Text.Bytes

/-!
# `Quartz.Log.Level`: how important a log record is
-/

set_option autoImplicit false

namespace Quartz.Log

/-- The levels, from the most detailed to the most important. -/
inductive Level where
  | debug
  | info
  | warn
  | error
  deriving DecidableEq, Repr

namespace Level

/-- Every level. -/
def all : List Level := [.debug, .info, .warn, .error]

/-- The position of a level on the scale; higher is more important. -/
def number : Level → Int
  | .debug => -4
  | .info => 0
  | .warn => 4
  | .error => 8

/-- The name of a level in options. -/
def word : Level → Bytes
  | .debug => utf8 "debug"
  | .info => utf8 "info"
  | .warn => utf8 "warn"
  | .error => utf8 "error"

/-- The name of a level in records. -/
def name : Level → Bytes
  | .debug => utf8 "DEBUG"
  | .info => utf8 "INFO"
  | .warn => utf8 "WARN"
  | .error => utf8 "ERROR"

/-- The level with a name, which is in lower case. -/
def ofWord? (s : Bytes) : Option Level := all.find? fun l => l.word = s

end Level

end Quartz.Log
