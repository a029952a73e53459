import EmbeddedScripts.Outcome

/-!
# Documents

A `Document` joins the parse trees of all regions of a document into one. The nodes of the trees
follow each other, with their indices moved along; `merge` leaves out regions without a tree.
-/

namespace EmbeddedScripts

/-- The nodes of all regions. -/
structure Program where
  nodes : Array SyntaxNode := #[]
  /-- The indices of the nodes at the top, in the order of the document. -/
  statements : Array Nat := #[]
  span : Span
deriving DecidableEq, Repr, Inhabited

/-- One tree for all scripts of a document. Its span is always that of the whole document. -/
structure Document where
  program : Program
  comments : Array Comment := #[]
  tokens : Array Token := #[]
  span : Span
deriving DecidableEq, Repr, Inhabited

/-- The node with all its relatives moved by `base` places. -/
def SyntaxNode.shift (base : Nat) (n : SyntaxNode) : SyntaxNode :=
  { n with parent := n.parent.map (· + base), children := n.children.map (· + base) }

namespace Document

/-- The nodes at the top, in the order of the document. -/
def statements (d : Document) : Array SyntaxNode :=
  d.program.statements.filterMap (d.program.nodes[·]?)

def node? (d : Document) (id : Nat) : Option SyntaxNode := d.program.nodes[id]?

/-- Whether the document has neither statements nor comments nor tokens. -/
def isEmpty (d : Document) : Bool :=
  d.program.statements.isEmpty && d.comments.isEmpty && d.tokens.isEmpty

/-- The document with the nodes, comments and tokens of one more tree. -/
def append (d : Document) (t : ParseTree) : Document :=
  let base := d.program.nodes.size
  { d with
    program :=
      { d.program with
        nodes := d.program.nodes ++ t.nodes.map (·.shift base)
        statements := d.program.statements ++ t.statements.map (· + base) }
    comments := d.comments ++ t.comments
    tokens := d.tokens ++ t.tokens }

/-- A document without scripts. The span starts in front of the first column. -/
def ofText (text : List Char) : Document :=
  let length := Text.byteLength text
  let span : Span := ⟨0, length, ⟨1, 0⟩, lineColumn text length⟩
  { program := { span }, span }

end Document

/-- Joins the trees of the outcomes, in order. -/
def merge (document : String) (outcomes : List Outcome) : Document :=
  (outcomes.filterMap Outcome.tree?).foldl Document.append (.ofText document.toList)

end EmbeddedScripts
