import Quartz.Text.Quoted
import Quartz.Token.Kind

/-!
# `Quartz.Token.Basic`: tokens and keywords

A token keeps its literal as written and the byte offset at which it
starts. The words of the language are the constructors of `Keyword`; a
token of kind `keyword` that a host made may hold any other word, and then
it is no keyword of the language.
-/

set_option autoImplicit false

namespace Quartz

/-- The reserved words. -/
inductive Keyword where
  | crystal
  | variables
  | function
  | ret
  | cond
  | alternative
  | number
  | string
  | bool
  | null
  | yes
  | no
  deriving DecidableEq, Repr

namespace Keyword

/-- Every reserved word. -/
def all : List Keyword :=
  [.crystal, .variables, .function, .ret, .cond, .alternative, .number, .string, .bool, .null,
    .yes, .no]

/-- A reserved word as it is written. Case matters. -/
def spelling : Keyword → Bytes
  | .crystal => utf8 "crystal"
  | .variables => utf8 "variables"
  | .function => utf8 "function"
  | .ret => utf8 "return"
  | .cond => utf8 "if"
  | .alternative => utf8 "else"
  | .number => utf8 "number"
  | .string => utf8 "string"
  | .bool => utf8 "bool"
  | .null => utf8 "null"
  | .yes => utf8 "true"
  | .no => utf8 "false"

/-- The reserved word that a text spells. -/
def ofBytes? (s : Bytes) : Option Keyword := all.find? fun k => k.spelling = s

end Keyword

/-- A word is a keyword or a name. -/
def Kind.ofWord (s : Bytes) : Kind :=
  if (Keyword.ofBytes? s).isSome then .keyword else .ident

/-- A token. An offset from a source is never negative; one that a host
made up may be. -/
structure Token where
  kind : Kind
  literal : Bytes
  offset : Int
  deriving DecidableEq, Repr

namespace Token

/-- The reserved word that the token is. -/
def keyword? (t : Token) : Option Keyword :=
  if t.kind = .keyword then Keyword.ofBytes? t.literal else none

/-- Whether the token is a given reserved word. -/
def isKeyword (t : Token) (k : Keyword) : Bool := t.keyword? = some k

/-- What is wrong with an error token: a string without its closing quote,
or a byte that starts no token. -/
def complaint (t : Token) : Bytes :=
  if t.literal.head? = some (Bytes.byte '"') then
    utf8 "unterminated string literal at offset " ++ Bytes.ofInt t.offset
  else
    utf8 "unexpected character " ++ t.literal.quoted ++ utf8 " at offset " ++
      Bytes.ofInt t.offset

/-- The complaint about an error token; nothing for the others. -/
def diagnostic (t : Token) : Bytes := if t.kind = .error then t.complaint else []

/-- A token with its kind, quoted literal and offset. -/
def describe (t : Token) : Bytes :=
  utf8 t.kind.name ++ utf8 ":" ++ t.literal.quoted ++ utf8 "@" ++ Bytes.ofInt t.offset

/-- The offset of the last of several tokens; -1 when there is none. -/
def endOffset (ts : List Token) : Int := (ts.getLast?.map Token.offset).getD (-1)

/-- The offset at which a complaint about the token in front points:
at it, or at `ends` if no token is left. -/
def place (ends : Int) : List Token → Int
  | [] => ends
  | t :: _ => t.offset

end Token

end Quartz
