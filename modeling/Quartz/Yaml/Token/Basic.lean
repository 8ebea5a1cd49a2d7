import Quartz.Yaml.Flaw

/-!
# `Quartz.Yaml.Token.Basic`: the tokens of a YAML text

Tokens are the marks of a text, its scalars, and the starts and ends of
blocks, which have no mark of their own and show in the indent.
-/

set_option autoImplicit false

namespace Quartz.Yaml

/-- What a token is. -/
inductive TokenKind where
  | streamEnd
  | version (major minor : Nat)
  | handle (handle uri : Bytes)
  | documentStart
  | documentEnd
  | blockSequence
  | blockMapping
  | blockEnd
  | sequenceStart
  | sequenceEnd
  | mappingStart
  | mappingEnd
  | item
  | comma
  | key
  | value
  | alias (name : Bytes)
  | anchor (name : Bytes)
  | tag (handle suffix : Bytes)
  | scalar (text : Bytes) (plain : Bool)
  deriving DecidableEq, Repr

/-- A token and the mark where it starts. -/
structure Token where
  kind : TokenKind
  mark : Mark
  deriving DecidableEq, Repr

end Quartz.Yaml
