import EmbeddedScripts.Text.Bytes
import EmbeddedScripts.Text.Mark

/-!
# Concrete syntax trees

A `Tree` is one node of a concrete syntax tree: its `Label`, the marks where it starts and stops, and
its children in the order of the text.
-/

namespace EmbeddedScripts

/-- What can be wrong with a node of a tree that a grammar could not build cleanly. -/
inductive Flaw where
  /-- The node covers text that fits no rule. -/
  | unexpected
  /-- The node stands for text that a rule needs and the source lacks. -/
  | missing
deriving DecidableEq, Repr

/-- What a node is, apart from where it is. -/
structure Label where
  kind : String
  /-- Whether the node stands for a rule of the grammar, not for a fixed spelling. -/
  named : Bool := true
  /-- The role of the node in its parent. -/
  field : Option String := none
  flaw : Option Flaw := none
deriving DecidableEq, Repr, Inhabited

/-- A node of a concrete syntax tree with everything below it. -/
inductive Tree where
  | node (label : Label) (start stop : Mark) (children : List Tree)
deriving Repr, Inhabited

namespace Tree

def label : Tree → Label
  | node l _ _ _ => l

def start : Tree → Mark
  | node _ m _ _ => m

def stop : Tree → Mark
  | node _ _ m _ => m

def children : Tree → List Tree
  | node _ _ _ ts => ts

def kind (t : Tree) : String := t.label.kind

def named (t : Tree) : Bool := t.label.named

/-- The text of a tree of `source`. -/
def text (source : String) (t : Tree) : String := Text.slice source t.start.offset t.stop.offset

/-- Whether a child has the kind `kind`. -/
def hasChild (t : Tree) (kind : String) : Bool := t.children.any (·.kind == kind)

/-- The children that stand for rules of the grammar. -/
def namedChildren (t : Tree) : List Tree := t.children.filter (·.named)

/-- The first child in the role `field`. -/
def childByField? (t : Tree) (field : String) : Option Tree :=
  t.children.find? (·.label.field == some field)

/-- The tree in the role `field`, unless it has one already. -/
def inField (field : Option String) : Tree → Tree
  | node l a b ts => node (if l.field.isNone then { l with field := field } else l) a b ts

end Tree

end EmbeddedScripts
