/-!
YAML documents as trees.

A document's nodes carry the tags that were written, and an alias refers to the node of an anchor by
number. What a plain scalar stands for (a number, a truth value, text) is decided later, from its
text and its tag.

Main definitions:

* `Yaml.Node` — the nodes of a document;
* `Yaml.Document` — a document's root and its anchored nodes.
-/

namespace StandardsGate.Yaml

/-- A node of a document. A scalar is `plain` when it was written without quotes and without a block
indicator. -/
inductive Node
  | alias (id : Nat)
  | scalar (tag : Option String) (plain : Bool) (text : String)
  | seq (tag : Option String) (items : List Node)
  | map (tag : Option String) (entries : List (Node × Node))
deriving Repr, Inhabited

/-- A document: its root, absent when the text holds none, the anchored nodes by number, and the
number of events it consists of. -/
structure Document where
  root : Option Node
  anchors : List (Nat × Node)
  events : Nat
deriving Repr, Inhabited

/-- The node of an anchor's number. -/
def Document.anchored? (d : Document) (id : Nat) : Option Node := d.anchors.lookup id

end StandardsGate.Yaml
