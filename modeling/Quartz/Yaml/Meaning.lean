import Quartz.Number.Decimal
import Quartz.Text.Base64
import Quartz.Yaml.Moment
import Quartz.Yaml.Node

/-!
# `Quartz.Yaml.Meaning`: what scalars mean

A plain scalar means nothing, a boolean, a number, a date or a text, by the
way in which it is written. Any other scalar is a text. A tag before a
scalar says what it has to mean.
-/

set_option autoImplicit false

namespace Quartz.Yaml

/-- The meaning of a scalar. -/
inductive Meaning where
  | null
  | bool
  | int (n : Int)
  | float (x : Float)
  | date
  | text (s : Bytes)

/-- The tag of texts. -/
def textTag : Bytes := utf8 "!!str"

/-- The tag of a key that stands for the entries of other mappings. -/
def mergeTag : Bytes := utf8 "!!merge"

/-- The tag of sequences. -/
def sequenceTag : Bytes := utf8 "!!seq"

/-- The tag of mappings. -/
def mappingTag : Bytes := utf8 "!!map"

namespace Meaning

/-- The tag that a meaning has of its own. -/
def tag : Meaning → Bytes
  | .null => utf8 "!!null"
  | .bool => utf8 "!!bool"
  | .int _ => utf8 "!!int"
  | .float _ => utf8 "!!float"
  | .date => utf8 "!!timestamp"
  | .text _ => textTag

/-! ### Numbers -/

/-- The value of a digit in bases up to sixteen. -/
def digitValue? (b : UInt8) : Option Nat :=
  if 48 ≤ b && b ≤ 57 then some (b.toNat - 48)
  else if 97 ≤ b && b ≤ 102 then some (b.toNat - 87)
  else if 65 ≤ b && b ≤ 70 then some (b.toNat - 55)
  else none

/-- The number that digits of a base spell. -/
def digits? (base : Nat) (s : Bytes) : Option Nat :=
  if s = [] then none
  else s.foldlM (fun n b => do
    let d ← digitValue? b
    if d < base then some (base * n + d) else none) 0

/-- The number that digits spell behind a mark for their base. A leading
zero alone marks base eight. -/
def natural? : Bytes → Option Nat
  | [] => none
  | [b] => digits? 10 [b]
  | zero :: mark :: rest =>
    if zero ≠ Bytes.byte '0' then digits? 10 (zero :: mark :: rest)
    else if mark = Bytes.byte 'x' || mark = Bytes.byte 'X' then digits? 16 rest
    else if mark = Bytes.byte 'b' || mark = Bytes.byte 'B' then digits? 2 rest
    else if mark = Bytes.byte 'o' || mark = Bytes.byte 'O' then digits? 8 rest
    else digits? 8 (mark :: rest)

/-- A number with an optional sign. It has to fit into sixty-four bits, the
sign included unless there is none. -/
def signed? (magnitude : Bytes → Option Nat) (s : Bytes) : Option Int :=
  let signed := s.head? = some (Bytes.byte '-') || s.head? = some (Bytes.byte '+')
  let negative := s.head? = some (Bytes.byte '-')
  match magnitude (if signed then s.tail else s) with
  | none => none
  | some n =>
    if negative then (if n ≤ Nat.pow 2 63 then some (-(n : Int)) else none)
    else if signed then (if n < Nat.pow 2 63 then some n else none)
    else if n < Nat.pow 2 64 then some n
    else none

/-- An integer whose sign stands behind the mark of base two or eight. -/
def signedBehindMark? : Bytes → Option Int
  | zero :: mark :: rest =>
    if zero ≠ Bytes.byte '0' then none
    else if mark = Bytes.byte 'b' then signed? (digits? 2) rest
    else if mark = Bytes.byte 'o' then signed? (digits? 8) rest
    else none
  | _ => none

/-- Whether a text has the form of a decimal number: a sign, digits with a
point somewhere, and an exponent, of which only digits are needed. -/
def isDecimal (s : Bytes) : Bool :=
  let unsigned := match s with
    | b :: rest => if b = Bytes.byte '-' || b = Bytes.byte '+' then rest else s
    | [] => s
  let whole := unsigned.takeWhile Bytes.isDigit
  let rest := unsigned.drop whole.length
  let (fraction, rest) := match rest with
    | b :: more =>
      if b = Bytes.byte '.' then
        let ds := more.takeWhile Bytes.isDigit
        (ds, more.drop ds.length)
      else ([], rest)
    | [] => ([], [])
  let exponent := match rest with
    | [] => true
    | e :: more =>
      let ds := match more with
        | b :: ds => if b = Bytes.byte '-' || b = Bytes.byte '+' then ds else more
        | [] => more
      (e = Bytes.byte 'e' || e = Bytes.byte 'E') && ds ≠ [] && ds.all Bytes.isDigit
  (whole ≠ [] || fraction ≠ []) && exponent

/-- A finite number in decimal form. -/
def float? (s : Bytes) : Option Float :=
  if isDecimal s then
    (Decimal.parseFloat? s).bind fun x => if x.isFinite then some x else none
  else none

/-- A text without its underscores. -/
def bare (s : Bytes) : Bytes := s.filter (· ≠ Bytes.byte '_')

/-- Whether each underscore stands between two digits. -/
def separatesDigits : (afterDigit : Bool) → Bytes → Bool
  | _, [] => true
  | afterDigit, b :: rest =>
    if b = Bytes.byte '_' then
      afterDigit && rest.head?.any Bytes.isDigit && separatesDigits false rest
    else separatesDigits (Bytes.isDigit b) rest

/-- The number that a text spells. Underscores do not count, wherever they
stand. -/
def number? (s : Bytes) : Option Meaning :=
  let bare := bare s
  match signed? natural? bare with
  | some n => some (.int n)
  | none =>
    match float? bare with
    | some x => some (.float x)
    | none => (signedBehindMark? bare).map .int

/-! ### Scalars -/

/-- Whether a text is one of several words. -/
def isOneOf (s : Bytes) (words : List String) : Bool := words.any fun w => utf8 w = s

/-- What the way in which a scalar is written says. Dates are looked for
only where one may stand. -/
def ofText (dated : Bool) (s : Bytes) : Meaning :=
  if isOneOf s ["", "~", "null", "Null", "NULL"] then .null
  else if isOneOf s ["true", "True", "TRUE", "false", "False", "FALSE"] then .bool
  else if isOneOf s [".nan", ".NaN", ".NAN"] then .float (0 / 0)
  else if isOneOf s [".inf", ".Inf", ".INF", "+.inf", "+.Inf", "+.INF"] then .float (1 / 0)
  else if isOneOf s ["-.inf", "-.Inf", "-.INF"] then .float (-1 / 0)
  else
    let first := s.headD 0
    if first = Bytes.byte '.' then
      match if separatesDigits false s then float? (bare s) else none with
      | some x => .float x
      | none => .text s
    else if Bytes.isDigit first || first = Bytes.byte '-' || first = Bytes.byte '+' then
      if dated && Moment.isMoment s then .date else (number? s).getD (.text s)
    else .text s

/-- A scalar that does not mean what its tag says. -/
inductive Mismatch where
  | otherMeaning (found text tag : Bytes)
  | noBase64
  deriving DecidableEq, Repr

/-- The tags that the way of writing can answer to. -/
def ownTags : List Bytes := [.bool, .int 0, .float 0, .null, .date].map tag

/-- What a scalar with a tag means. An integer is good for a fraction, if it
fits into a signed word. Tags of other kinds leave a text. -/
def tagged (given s : Bytes) : Except Mismatch Meaning :=
  if given = utf8 "!!binary" then
    match Base64.decode? s with
    | some b => .ok (.text b)
    | none => .error .noBase64
  else if !ownTags.contains given then .ok (.text s)
  else
    let meaning := ofText (given = Meaning.date.tag) s
    if meaning.tag = given then .ok meaning
    else
      match meaning with
      | .int n =>
        if given = (Meaning.float 0).tag && n < Nat.pow 2 63 then .ok (.float (Float.ofInt n))
        else .error (.otherMeaning meaning.tag s given)
      | _ => .error (.otherMeaning meaning.tag s given)

end Meaning

/-- The tag of a node: the one before it, or the one that its kind and its
way of writing say. -/
def Node.tag : Node → Bytes
  | .scalar (some t) _ _ _ => t
  | .scalar none s plain _ =>
    if !plain then textTag
    else if s = utf8 "<<" then mergeTag
    else (Meaning.ofText true s).tag
  | .sequence t _ _ => t.getD sequenceTag
  | .mapping t _ _ => t.getD mappingTag
  | .alias _ _ _ _ => []

/-- Whether a node is the key that stands for the entries of other
mappings. -/
def Node.isMerge (node : Node) : Bool :=
  match node with
  | .scalar _ s _ _ => s = utf8 "<<" && node.tag = mergeTag
  | _ => false

/-- What a scalar means. -/
def Node.meaning (node : Node) : Except Meaning.Mismatch Meaning :=
  Meaning.tagged node.tag node.keyText

end Quartz.Yaml
