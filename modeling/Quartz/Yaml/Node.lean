import Quartz.Text.Bytes

/-!
# `Quartz.Yaml.Node`: the nodes of a document

A node keeps the tag that is written before it, if there is one, and the
line on which it starts. An alias refers to a node by the number that the
node got when its anchor was read, since an anchor may be given again.
-/

set_option autoImplicit false

namespace Quartz.Yaml

/-- A node of a document. A plain scalar and another one with the same text
can mean different things. The place of an alias tells it from others with
the same name. -/
inductive Node where
  | scalar (tag : Option Bytes) (text : Bytes) (plain : Bool) (line : Nat)
  | sequence (tag : Option Bytes) (items : List Node) (line : Nat)
  | mapping (tag : Option Bytes) (entries : List (Node × Node)) (line : Nat)
  | alias (name : Bytes) (number place line : Nat)

namespace Node

/-- The line on which a node starts. -/
def line : Node → Nat
  | .scalar _ _ _ line => line
  | .sequence _ _ line => line
  | .mapping _ _ line => line
  | .alias _ _ _ line => line

/-- A scalar without a text. -/
def empty (line : Nat) : Node := .scalar none [] true line

/-- Whether two nodes are keys of the same entry: their kinds and their
texts agree. An alias has its name for a text, and a collection has none. -/
def sameKey : Node → Node → Bool
  | .scalar _ s _ _, .scalar _ t _ _ => s = t
  | .sequence _ _ _, .sequence _ _ _ => true
  | .mapping _ _ _, .mapping _ _ _ => true
  | .alias s _ _ _, .alias t _ _ _ => s = t
  | _, _ => false

/-- The text of a node as a key. -/
def keyText : Node → Bytes
  | .scalar _ s _ _ => s
  | .alias s _ _ _ => s
  | _ => []

end Node

/-- A document: its root, and the nodes with an anchor by their numbers. -/
structure Document where
  root : Node
  anchored : List (Nat × Node) := []

/-- The node that a node stands for. -/
def Document.target (d : Document) : Node → Node
  | .alias _ number _ line => (d.anchored.lookup number).getD (.empty line)
  | node => node

end Quartz.Yaml
