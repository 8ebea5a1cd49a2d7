import Quartz.Settings
import Quartz.Text.Quoted
import Quartz.Yaml.Document
import Quartz.Yaml.Meaning

/-!
# `Quartz.Yaml.Settings`: settings files in YAML

A settings file is a YAML mapping with the keys `log_level`, `log_format`,
`encoding`, `entry` and `max_call_depth`. A key that is set to nothing stays
unset. The texts take any scalar as it is written. The depth takes a
number; a fraction is cut off.

Problems with the values are collected and reported together, each with its
line. A key that stands twice is reported alone, before any value is looked
at. What a merge key brings in comes last and overrides nothing.
-/

set_option autoImplicit false

namespace Quartz

namespace Settings

/-- The name of the document's type in messages. -/
def typeName : Bytes := utf8 "cli.FileConfig"

/-! ### What can be wrong -/

/-- Something wrong with a document that does not keep the rest of it from
being looked at. -/
inductive Complaint where
  | mismatch (line : Nat) (tag value target : Bytes)
  | unknownKey (line : Nat) (key : Bytes)
  | repeatedKey (line : Nat) (key : Bytes) (first : Nat)
  | alreadySet (line : Nat) (key : Bytes)
  deriving DecidableEq, Repr

/-- A value as it is shown in a message; a long one is cut. -/
def shownValue (value : Bytes) : Bytes :=
  let shown := if 10 < value.length then value.take 7 ++ utf8 "..." else value
  utf8 " `" ++ shown ++ utf8 "`"

/-- The wording of a complaint. -/
def Complaint.message (c : Complaint) : Bytes :=
  let onLine (line : Nat) : Bytes := utf8 "line " ++ Bytes.ofNat line ++ utf8 ": "
  match c with
  | .mismatch line tag value target =>
    onLine line ++ utf8 "cannot unmarshal " ++ tag ++ value ++ utf8 " into " ++ target
  | .unknownKey line key =>
    onLine line ++ utf8 "field " ++ key ++ utf8 " not found in type " ++ typeName
  | .repeatedKey line key first =>
    onLine line ++ utf8 "mapping key " ++ key.quoted ++ utf8 " already defined at line " ++
      Bytes.ofNat first
  | .alreadySet line key =>
    onLine line ++ utf8 "field " ++ key ++ utf8 " already set in type " ++ typeName

/-- Why a text holds no settings. -/
inductive Error where
  | malformed (p : Yaml.Problem)
  | wrongTag (m : Yaml.Meaning.Mismatch)
  | mergesNoMapping
  | containsItself (anchor : Bytes)
  | complaints (l : List Complaint)
  deriving DecidableEq, Repr

/-- The wording of an error. -/
def Error.message : Error → Bytes
  | .malformed p => p.message
  | .wrongTag (.otherMeaning found text tag) =>
    utf8 "yaml: cannot decode " ++ found ++ utf8 " `" ++ text ++ utf8 "` as a " ++ tag
  | .wrongTag .noBase64 => utf8 "yaml: !!binary value contains invalid base64 data"
  | .mergesNoMapping => utf8 "yaml: map merge requires map or sequence of maps as the value"
  | .containsItself anchor => utf8 "yaml: anchor '" ++ anchor ++ utf8 "' value contains itself"
  | .complaints l =>
    utf8 "yaml: unmarshal errors:" ++ l.flatMap fun c => utf8 "\n  " ++ c.message

/-! ### Values -/

/-- A node that does not fit a target. A collection shows no value. -/
def mismatch (node : Yaml.Node) (target : Bytes) : Complaint :=
  let tag := node.tag
  let bare := tag = Yaml.sequenceTag || tag = Yaml.mappingTag
  .mismatch node.line tag (if bare then node.keyText else shownValue node.keyText) target

/-- A complaint about each pair of equal keys. -/
def repeated : List Yaml.Node → List Complaint
  | [] => []
  | k :: rest =>
    (rest.filter k.sameKey).map (fun later => .repeatedKey later.line later.keyText k.line) ++
      repeated rest

/-- The complaints about a collection where a scalar has to be. Those about
the keys of a mapping come alone. -/
def collection (node : Yaml.Node) (target : Bytes) : List Complaint :=
  let keys := match node with
    | .mapping _ entries _ => entries.map Prod.fst
    | _ => []
  match repeated keys with
  | [] => [mismatch node target]
  | found => found

/-- What a node gives to a target. -/
inductive Filling (α : Type) where
  | value (a : α)
  | nothing
  | refused (l : List Complaint)

/-- What a scalar means. -/
def meaning (node : Yaml.Node) : Except Error Yaml.Meaning := node.meaning.mapError .wrongTag

/-- A node as a text. -/
def textOf (node : Yaml.Node) : Except Error (Filling Bytes) :=
  match node with
  | .scalar _ s _ _ => do
    match ← meaning node with
    | .null => return .nothing
    | .text t => return .value t
    | _ => return .value s
  | _ => .ok (.refused (collection node (utf8 "string")))

/-- The least integer of sixty-four bits. -/
def leastInt : Int := -(Nat.pow 2 63)

/-- The integer part of a number. One that does not fit into sixty-four
bits is the least integer of them, up to `2 ^ 63`; above that, and for what
is no number, there is none. -/
def truncated? (x : Float) : Option Int :=
  let limit : Float := 9223372036854775808
  if x < limit then some x.toInt64.toInt
  else if x == limit then some leastInt
  else none

/-- A node as an integer. -/
def intOf (node : Yaml.Node) : Except Error (Filling Int) :=
  let target := utf8 "int"
  match node with
  | .scalar _ _ _ _ => do
    let number ← match ← meaning node with
      | .null => return .nothing
      | .int n => pure (if n < Nat.pow 2 63 then some n else none)
      | .float x => pure (truncated? x)
      | _ => pure none
    return number.elim (.refused [mismatch node target]) .value
  | _ => .ok (.refused (collection node target))

/-! ### Entries -/

/-- How far a document is taken over. Keys that a merge may no longer set
are kept while it is under way. -/
structure Intake where
  settings : Settings := {}
  complaints : List Complaint := []
  taken : Option (List Bytes) := none

namespace Intake

/-- Adds complaints. -/
def complain (i : Intake) (l : List Complaint) : Intake :=
  { i with complaints := i.complaints ++ l }

/-- Takes over a value, or complains about it. -/
def fill {α : Type} (i : Intake) (f : Filling α) (set : α → Settings) : Intake :=
  match f with
  | .value a => { i with settings := set a }
  | .nothing => i
  | .refused l => i.complain l

/-- The keys of a settings file. -/
def keys : List Bytes :=
  ["log_level", "log_format", "encoding", "entry", "max_call_depth"].map utf8

/-- Takes over the value of a key. -/
def enter (i : Intake) (key : Bytes) (value : Yaml.Node) : Except Error Intake := do
  let s := i.settings
  if key = utf8 "max_call_depth" then return i.fill (← intOf value) fun n => { s with depth := n }
  else
    let text ← textOf value
    if key = utf8 "log_level" then return i.fill text fun t => { s with level := t }
    else if key = utf8 "log_format" then return i.fill text fun t => { s with format := t }
    else if key = utf8 "encoding" then return i.fill text fun t => { s with charset := t }
    else return i.fill text fun t => { s with entry := t }

/-- Takes over entries in order, but for merge keys. A key that is no text
is complained about, and one that is nothing is passed over. A key that is
taken already sets nothing. -/
def enterAll (d : Yaml.Document) :
    Intake → (done : List Bytes) → List (Yaml.Node × Yaml.Node) → Except Error Intake
  | i, _, [] => .ok i
  | i, done, (k, v) :: rest =>
    if k.isMerge then enterAll d i done rest
    else
      match textOf (d.target k) with
      | .error e => .error e
      | .ok .nothing => enterAll d i done rest
      | .ok (.refused l) => enterAll d (i.complain l) done rest
      | .ok (.value name) =>
        if i.taken.any (·.contains name) then enterAll d i done rest
        else
          let i := { i with taken := i.taken.map (name :: ·) }
          if !keys.contains name then
            enterAll d (i.complain [.unknownKey k.line name]) done rest
          else if done.contains name then
            enterAll d (i.complain [.alreadySet k.line name]) done rest
          else
            match i.enter name (d.target v) with
            | .error e => .error e
            | .ok i => enterAll d i (name :: done) rest

/-- The texts among the keys of a mapping. -/
def textKeys (d : Yaml.Document) (entries : List (Yaml.Node × Yaml.Node)) : List Bytes :=
  entries.filterMap fun e =>
    let key := d.target e.1
    match key, key.meaning with
    | .scalar _ _ _ _, .ok (.text s) => some s
    | _, _ => none

mutual

/-- Takes over a mapping, its merge key last. -/
def enterMapping (d : Yaml.Document) :
    Nat → (opened : List Nat) → Intake → List (Yaml.Node × Yaml.Node) → Except Error Intake
  | 0, _, i, _ => .ok i
  | steps + 1, opened, i, entries =>
    match repeated (entries.map Prod.fst) with
    | [] => do
      let i ← enterAll d i [] entries
      match (entries.filter fun e => e.1.isMerge).getLast? with
      | none => return i
      | some (_, source) =>
        let before := i.taken
        let i := { i with taken := some (before.getD (textKeys d entries)) }
        let i ← match source with
          | .sequence _ sources _ => merge d steps opened i sources
          | source => merge d steps opened i [source]
        return { i with taken := before.bind fun _ => i.taken }
    | found => .ok (i.complain found)

/-- Takes over the mappings that a merge key names, the first of them
first. An alias must not lead back to itself. -/
def merge (d : Yaml.Document) :
    Nat → (opened : List Nat) → Intake → List Yaml.Node → Except Error Intake
  | _, _, i, [] => .ok i
  | 0, _, i, _ => .ok i
  | steps + 1, opened, i, source :: rest => do
    let opened' := match source with
      | .alias _ _ place _ => place :: opened
      | _ => opened
    match source with
    | .alias name _ place _ =>
      if opened.contains place then .error (.containsItself name)
    | _ => pure ()
    match d.target source with
    | .mapping _ entries _ =>
      let i ← enterMapping d steps opened' i entries
      merge d steps opened i rest
    | _ => .error .mergesNoMapping

end

end Intake

/-- The settings in a document. -/
def ofDocument (d : Yaml.Document) (steps : Nat) : Except Error Intake :=
  match d.root with
  | .mapping _ entries _ => Intake.enterMapping d steps [] {} entries
  | .scalar _ _ _ _ => do
    match ← meaning d.root with
    | .null => return {}
    | _ => return Intake.complain {} [mismatch d.root typeName]
  | _ => .ok (Intake.complain {} [mismatch d.root typeName])

/-- Reads settings in YAML. A merge goes through each alias once, and
through the nodes of the text in between, so the square of its length
bounds the steps. -/
def yaml (source : Bytes) : Reading :=
  match Yaml.Document.read source with
  | .error p => .refused (Error.malformed p).message
  | .ok none => .nothing
  | .ok (some d) =>
    let size := source.length + 1
    match ofDocument d (2 * size * size) with
    | .error e => .refused e.message
    | .ok i =>
      if i.complaints = [] then .settings i.settings
      else .refused (Error.complaints i.complaints).message

end Settings

end Quartz
