import Quartz.Log.Level
import Quartz.Text.Blank
import Quartz.Text.Quoted

/-!
# `Quartz.Log.Record`: log records and their two formats

A record has a level, a message and named fields. It is written on one
line, either as `name=value` pairs or as a JSON object. In the pair format
a text is quoted when it is empty or when a reader could not tell where it
ends: it holds a blank, an equals sign, a quote, or something that does not
print. A backslash alone needs no quotes, and neither does the delete
character.
-/

set_option autoImplicit false

namespace Quartz.Log

/-- The value of a field. -/
inductive Field where
  | text (s : Bytes)
  | number (n : Int)
  | flag (b : Bool)
  deriving DecidableEq, Repr

/-- One log record. -/
structure Record where
  level : Level
  message : Bytes
  fields : List (Bytes × Field)
  deriving DecidableEq, Repr

/-- The two ways to write a record. -/
inductive Format where
  | text
  | json
  deriving DecidableEq, Repr

/-- The format with a name. No name means text. -/
def Format.ofWord? (s : Bytes) : Option Format :=
  if s = [] ∨ s = utf8 "text" then some .text
  else if s = utf8 "json" then some .json
  else none

/-- The word for a truth value. -/
def flagWord (b : Bool) : Bytes := utf8 (if b then "true" else "false")

/-! ### Pairs -/

/-- A rune that a text outside quotes may not hold. -/
def forcesQuotes : Rune → Bool
  | .stray _ => true
  | .char c =>
    if c.toNat < 0x80 then c.toNat ≤ 0x20 || c = '=' || c = '"'
    else c = Rune.replacement || isBlank c || !isPrintable c

/-- A text as the value of a pair. -/
def pairText (s : Bytes) : Bytes :=
  if s = [] || (Rune.decode s).any forcesQuotes then s.quoted else s

/-- A field as the value of a pair. -/
def Field.pair : Field → Bytes
  | .text s => pairText s
  | .number n => Bytes.ofInt n
  | .flag b => flagWord b

/-- A record as pairs, the level and the message first. -/
def Record.pairs (r : Record) : Bytes :=
  Bytes.join (utf8 " ")
    ((utf8 "level=" ++ r.level.name) :: (utf8 "msg=" ++ pairText r.message) ::
      r.fields.map fun f => f.1 ++ utf8 "=" ++ f.2.pair)

/-! ### JSON -/

/-- One rune inside a JSON string. -/
def jsonRune : Rune → Bytes
  | .stray _ => utf8 "\\ufffd"
  | .char c =>
    if c = '"' || c = '\\' then [Bytes.byte '\\', Bytes.byte c]
    else if c = '\n' then utf8 "\\n"
    else if c = '\r' then utf8 "\\r"
    else if c = '\t' then utf8 "\\t"
    else if c.toNat < 0x20 || c.toNat = 0x2028 || c.toNat = 0x2029 then
      utf8 "\\u" ++ Bytes.hex 4 c.toNat
    else String.utf8EncodeChar c

/-- A text as a JSON string. -/
def jsonText (s : Bytes) : Bytes :=
  utf8 "\"" ++ (Rune.decode s).flatMap jsonRune ++ utf8 "\""

/-- A field as a JSON value. -/
def Field.json : Field → Bytes
  | .text s => jsonText s
  | .number n => Bytes.ofInt n
  | .flag b => flagWord b

/-- A record as a JSON object, the level and the message first. -/
def Record.json (r : Record) : Bytes :=
  utf8 "\x7b" ++ Bytes.join (utf8 ",")
    ((utf8 "\"level\":" ++ jsonText r.level.name) ::
      (utf8 "\"msg\":" ++ jsonText r.message) ::
      r.fields.map fun f => jsonText f.1 ++ utf8 ":" ++ f.2.json) ++ utf8 "\x7d"

/-- A record on a line of its own. -/
def Record.line (format : Format) (r : Record) : Bytes :=
  (match format with
    | .text => r.pairs
    | .json => r.json) ++ [Bytes.newline]

end Quartz.Log
