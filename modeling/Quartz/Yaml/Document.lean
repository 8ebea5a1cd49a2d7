import Quartz.Yaml.Node
import Quartz.Yaml.Token.Scan

/-!
# `Quartz.Yaml.Document`: from tokens to a document

The first document of a text is read, and nothing behind it but the tokens
that are looked at in advance. The readers take a bound on their steps. A
reader that calls another one has taken a token first, or leaves it one to
take, so a few steps for each token are enough.
-/

set_option autoImplicit false

namespace Quartz.Yaml

/-- How far a document is read: the tokens behind the place, the problem at
their end, what tag handles stand for, and the nodes with an anchor. A name
stands for the number it got last. -/
structure Progress where
  tokens : List Token
  ending : Problem
  handles : List (Bytes × Bytes) := []
  names : List (Bytes × Nat) := []
  anchored : List (Nat × Node) := []
  count : Nat := 0

/-- A reader of nodes. -/
abbrev Reading := StateT Progress (Except Problem)

namespace Reading

/-- The token at the place. -/
def peek : Reading Token := fun p =>
  match p.tokens with
  | t :: _ => .ok (t, p)
  | [] => .error p.ending

/-- Goes on behind the token at the place. -/
def skip : Reading Unit := modify fun p => { p with tokens := p.tokens.tail }

/-- Stops with a problem. -/
def fail {α : Type} (p : Problem) : Reading α := fun _ => .error p

/-- Gives a name to the node that comes, and a number with it. -/
def openAnchor (name : Option Bytes) : Reading (Option Nat) := fun p =>
  match name with
  | none => .ok (none, p)
  | some s => .ok (some p.count, { p with names := (s, p.count) :: p.names, count := p.count + 1 })

/-- Keeps a node under its number. -/
def keep (number : Option Nat) (node : Node) : Reading Node := fun p =>
  match number with
  | none => .ok (node, p)
  | some n => .ok (node, { p with anchored := (n, node) :: p.anchored })

/-! ### Tags and anchors -/

/-- What stands before the content of a node. -/
structure Properties where
  anchor : Option Bytes := none
  tag : Option (Bytes × Bytes × Mark) := none

/-- An anchor and a tag in either order, or one of them. -/
def properties : Reading Properties := do
  let first ← peek
  match first.kind with
  | .anchor name =>
    skip
    let second ← peek
    match second.kind with
    | .tag h suffix =>
      skip
      return { anchor := some name, tag := some (h, suffix, second.mark) }
    | _ => return { anchor := some name }
  | .tag h suffix =>
    skip
    let second ← peek
    match second.kind with
    | .anchor name =>
      skip
      return { anchor := some name, tag := some (h, suffix, first.mark) }
    | _ => return { tag := some (h, suffix, first.mark) }
  | _ => return {}

/-- What the tags of the standard start with in full. -/
def standardTag : Bytes := utf8 "tag:yaml.org,2002:"

/-- The short form of a tag, with two exclamation marks for the standard. -/
def shortTag (tag : Bytes) : Bytes :=
  if standardTag.isPrefixOf tag then utf8 "!!" ++ tag.drop standardTag.length else tag

/-- The tag that a handle and a suffix make. A lone exclamation mark is no
tag. -/
def fullTag (start : Mark) (tag : Option (Bytes × Bytes × Mark)) : Reading (Option Bytes) := do
  match tag with
  | none => return none
  | some (h, suffix, found) =>
    let handles := (← get).handles
    let whole := if h = [] then some suffix else (handles.lookup h).map (· ++ suffix)
    match whole with
    | none => fail (.amongTokens .unknownHandle start found)
    | some t => return if t = utf8 "!" then none else some (shortTag t)

/-! ### Nodes -/

mutual

/-- A node. Only outside of brackets it may be a block, and only as the
value of a mapping a sequence without an indent of its own. -/
def node (block indentless : Bool) : Nat → Reading Node
  | 0 => fun p => .error p.ending
  | steps + 1 => do
    let first ← peek
    let line := first.mark.line + 1
    match first.kind with
    | .alias name =>
      skip
      match (← get).names.lookup name with
      | some number => return .alias name number first.mark.index line
      | none => fail { flaw := .unknownAnchor name }
    | _ =>
      let given ← properties
      let token ← peek
      let tag ← fullTag first.mark given.tag
      let number ← openAnchor given.anchor
      let start := token.mark
      match token.kind, block, indentless with
      | .item, _, true => keep number (.sequence tag (← flatItems steps) line)
      | .scalar text plain, _, _ =>
        skip
        keep number (.scalar tag text plain line)
      | .sequenceStart, _, _ =>
        skip
        keep number (.sequence tag (← flowItems start true steps) line)
      | .mappingStart, _, _ =>
        skip
        keep number (.mapping tag (← flowEntries start true steps) line)
      | .blockSequence, true, _ =>
        skip
        keep number (.sequence tag (← blockItems start steps) line)
      | .blockMapping, true, _ =>
        skip
        keep number (.mapping tag (← blockEntries start steps) line)
      | _, _, _ =>
        if given.anchor.isSome || given.tag.isSome then keep number (.scalar tag [] true line)
        else fail (.amongTokens .noContent start start)

/-- The items of a sequence in a block. -/
def blockItems (start : Mark) : Nat → Reading (List Node)
  | 0 => fun p => .error p.ending
  | steps + 1 => do
    let t ← peek
    match t.kind with
    | .item =>
      skip
      let item ← match (← peek).kind with
        | .item | .blockEnd => pure (.empty (t.mark.line + 1))
        | _ => node true false steps
      return item :: (← blockItems start steps)
    | .blockEnd =>
      skip
      return []
    | _ => fail (.amongTokens .noItem start t.mark)

/-- The items of a sequence without an indent of its own. -/
def flatItems : Nat → Reading (List Node)
  | 0 => fun p => .error p.ending
  | steps + 1 => do
    let t ← peek
    match t.kind with
    | .item =>
      skip
      let item ← match (← peek).kind with
        | .item | .key | .value | .blockEnd => pure (.empty (t.mark.line + 1))
        | _ => node true false steps
      return item :: (← flatItems steps)
    | _ => return []

/-- The entries of a mapping in a block. -/
def blockEntries (start : Mark) : Nat → Reading (List (Node × Node))
  | 0 => fun p => .error p.ending
  | steps + 1 => do
    let t ← peek
    match t.kind with
    | .key =>
      skip
      let key ← match (← peek).kind with
        | .key | .value | .blockEnd => pure (.empty (t.mark.line + 1))
        | _ => node true true steps
      let v ← peek
      let value ← match v.kind with
        | .value => do
          skip
          match (← peek).kind with
          | .key | .value | .blockEnd => pure (.empty (v.mark.line + 1))
          | _ => node true true steps
        | _ => pure (.empty (v.mark.line + 1))
      return (key, value) :: (← blockEntries start steps)
    | .blockEnd =>
      skip
      return []
    | _ => fail (.amongTokens .noKey start t.mark)

/-- The items of a sequence in brackets. One with a key is a mapping with
one entry. -/
def flowItems (start : Mark) (first : Bool) : Nat → Reading (List Node)
  | 0 => fun p => .error p.ending
  | steps + 1 => do
    let t ← peek
    match t.kind, first with
    | .sequenceEnd, _ =>
      skip
      return []
    | .comma, false =>
      skip
      match (← peek).kind with
      | .sequenceEnd =>
        skip
        return []
      | _ =>
        let item ← flowItem steps
        return item :: (← flowItems start false steps)
    | _, true =>
      let item ← flowItem steps
      return item :: (← flowItems start false steps)
    | _, false => fail (.amongTokens .openSequence start t.mark)

/-- An item of a sequence in brackets. -/
def flowItem : Nat → Reading Node
  | 0 => fun p => .error p.ending
  | steps + 1 => do
    let t ← peek
    match t.kind with
    | .key =>
      skip
      let k ← peek
      let key ← match k.kind with
        | .value | .comma | .sequenceEnd => do
          skip
          pure (.empty (k.mark.line + 1))
        | _ => node false false steps
      let v ← peek
      let value ← match v.kind with
        | .value => do
          skip
          match (← peek).kind with
          | .comma | .sequenceEnd => pure (.empty (v.mark.line + 1))
          | _ => node false false steps
        | _ => pure (.empty (v.mark.line + 1))
      return .mapping none [(key, value)] (t.mark.line + 1)
    | _ => node false false steps

/-- The entries of a mapping in brackets. A node without a key mark is a key
without a value. -/
def flowEntries (start : Mark) (first : Bool) : Nat → Reading (List (Node × Node))
  | 0 => fun p => .error p.ending
  | steps + 1 => do
    let t ← peek
    match t.kind, first with
    | .mappingEnd, _ =>
      skip
      return []
    | .comma, false =>
      skip
      match (← peek).kind with
      | .mappingEnd =>
        skip
        return []
      | _ =>
        let entry ← flowEntry steps
        return entry :: (← flowEntries start false steps)
    | _, true =>
      let entry ← flowEntry steps
      return entry :: (← flowEntries start false steps)
    | _, false => fail (.amongTokens .openMapping start t.mark)

/-- An entry of a mapping in brackets. -/
def flowEntry : Nat → Reading (Node × Node)
  | 0 => fun p => .error p.ending
  | steps + 1 => do
    let t ← peek
    match t.kind with
    | .key =>
      skip
      let k ← peek
      let key ← match k.kind with
        | .value | .comma | .mappingEnd => pure (.empty (k.mark.line + 1))
        | _ => node false false steps
      let v ← peek
      let value ← match v.kind with
        | .value => do
          skip
          match (← peek).kind with
          | .comma | .mappingEnd => pure (.empty (v.mark.line + 1))
          | _ => node false false steps
        | _ => pure (.empty (v.mark.line + 1))
      return (key, value)
    | _ =>
      let key ← node false false steps
      return (key, .empty ((← peek).mark.line + 1))

end

/-! ### Documents -/

/-- The version of the documents that are read. -/
def readVersion : Nat × Nat := (1, 1)

/-- The directives before a document. Every step takes one. -/
def directives : Nat → Bool → Reading Unit
  | 0, _ => fun p => .error p.ending
  | steps + 1, versioned => do
    let t ← peek
    match t.kind with
    | .version major minor =>
      if versioned then fail (.amongTokens .secondVersion {} t.mark)
      else if (major, minor) ≠ readVersion then fail (.amongTokens .wrongVersion {} t.mark)
      else
        skip
        directives steps true
    | .handle h uri =>
      if ((← get).handles.lookup h).isSome then fail (.amongTokens .secondHandle {} t.mark)
      else
        modify fun p => { p with handles := p.handles ++ [(h, uri)] }
        skip
        directives steps versioned
    | _ => modify fun p =>
        { p with handles := p.handles ++ [(utf8 "!", utf8 "!"), (utf8 "!!", standardTag)] }

/-- The first document, up to the token behind it. -/
def document (steps : Nat) : Reading (Option Node) := do
  let t ← peek
  match t.kind with
  | .streamEnd => return none
  | _ =>
    directives steps false
    let explicit := match t.kind with
      | .version _ _ | .handle _ _ | .documentStart => true
      | _ => false
    if !explicit then
      let root ← node true false steps
      let _ ← peek
      return some root
    else
      let s ← peek
      if s.kind ≠ .documentStart then fail (.amongTokens .noDocumentStart {} s.mark)
      else
        skip
        let t ← peek
        let root ← match t.kind with
          | .version _ _ | .handle _ _ | .documentStart | .documentEnd | .streamEnd =>
            pure (.empty (t.mark.line + 1))
          | _ => node true false steps
        let _ ← peek
        return some root

end Reading

/-- The first document of a text; nothing if there is none. -/
def Document.read (source : Bytes) : Except Problem (Option Document) :=
  let (tokens, problem) := (Text.ofBytes source).tokens
  let ending := problem.getD { flaw := .noContent }
  match Reading.document (4 * tokens.length + 4) { tokens, ending } with
  | .error p => .error p
  | .ok (root, p) => .ok (root.map fun node => ⟨node, p.anchored⟩)

end Quartz.Yaml
