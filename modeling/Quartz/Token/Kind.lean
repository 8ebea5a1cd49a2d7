import Quartz.Text.Bytes

/-!
# `Quartz.Token.Kind`: the kinds of token

A script is made of names, keywords, literals, operators and punctuation.
A host may also hand in tokens of its own, with kinds that no source
yields; they are all `unknown`.
-/

set_option autoImplicit false

namespace Quartz

/-- What a token is. -/
inductive Kind where
  | error
  | eof
  | ident
  | keyword
  | number
  | string
  | plus
  | minus
  | asterisk
  | slash
  | percent
  | equal
  | notEqual
  | greater
  | less
  | greaterEqual
  | lessEqual
  | and
  | or
  | not
  | leftBrace
  | rightBrace
  | leftParen
  | rightParen
  | semicolon
  | assign
  | comma
  | unknown
  deriving DecidableEq, Repr

namespace Kind

/-- The kinds in the order of their codes, which count from zero. -/
def numbered : List Kind :=
  [.error, .eof, .ident, .keyword, .number, .string, .plus, .minus, .asterisk, .slash,
    .percent, .equal, .notEqual, .greater, .less, .greaterEqual, .lessEqual, .and, .or, .not,
    .leftBrace, .rightBrace, .leftParen, .rightParen, .semicolon, .assign, .comma]

/-- The kind with a given code. -/
def ofCode (code : Int) : Kind :=
  if code < 0 then .unknown else numbered[code.toNat]?.getD .unknown

/-- The name of a kind; operators and punctuation are named as written. -/
def name : Kind → String
  | .error => "ERROR"
  | .eof => "EOF"
  | .ident => "IDENT"
  | .keyword => "KEYWORD"
  | .number => "NUMBER"
  | .string => "STRING"
  | .plus => "+"
  | .minus => "-"
  | .asterisk => "*"
  | .slash => "/"
  | .percent => "%"
  | .equal => "=="
  | .notEqual => "!="
  | .greater => ">"
  | .less => "<"
  | .greaterEqual => ">="
  | .lessEqual => "<="
  | .and => "&&"
  | .or => "||"
  | .not => "!"
  | .leftBrace => "\x7b"
  | .rightBrace => "\x7d"
  | .leftParen => "("
  | .rightParen => ")"
  | .semicolon => ";"
  | .assign => "="
  | .comma => ","
  | .unknown => "UNKNOWN"

/-- An operator on numbers that gives a number, or joins texts. -/
def isArithmetic : Kind → Bool
  | .plus | .minus | .asterisk | .slash | .percent => true
  | _ => false

/-- A comparison. -/
def isRelational : Kind → Bool
  | .equal | .notEqual | .greater | .less | .greaterEqual | .lessEqual => true
  | _ => false

/-- An operator between two truth values. -/
def isLogical : Kind → Bool
  | .and | .or => true
  | _ => false

/-- Any operator, the negation included. -/
def isOperator (k : Kind) : Bool :=
  k.isArithmetic || k.isRelational || k.isLogical || k = .not

/-- A bracket, a separator or the assignment sign. -/
def isPunctuation : Kind → Bool
  | .leftBrace | .rightBrace | .leftParen | .rightParen | .semicolon | .assign | .comma => true
  | _ => false

/-- How tightly an arithmetic operator binds; zero for other kinds. -/
def priority : Kind → Nat
  | .asterisk | .slash | .percent => 2
  | .plus | .minus => 1
  | _ => 0

end Kind

end Quartz
