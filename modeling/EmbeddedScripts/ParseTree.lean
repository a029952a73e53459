import EmbeddedScripts.Position

/-!
# Parse trees

A `ParseTree` is what a parser of scripts answers: the nodes that stand for rules of the grammar in
pre-order, linked by their indices, with the comments and the tokens of the text. `ParseTree.relocate`
moves a tree that was parsed from a padded snippet to the place of the snippet in its document.
-/

namespace EmbeddedScripts

/-- A node of a parse tree. Relatives are given by their indices in the list of nodes. -/
structure SyntaxNode where
  kind : String
  span : Span
  /-- The text of a node without parts. -/
  text : Option String := none
  /-- `none` for a statement at the top. -/
  parent : Option Nat := none
  children : Array Nat := #[]
deriving DecidableEq, Repr, Inhabited

/-- The ways to write a comment. -/
inductive CommentKind where
  /-- From `//` to the end of the line. -/
  | line
  /-- From `/*` to `*/`. -/
  | block
  /-- From `<!--` or `-->` to the end of the line. -/
  | html
deriving DecidableEq, Repr, Inhabited

/-- A comment; its value leaves out the marks of a line or block comment. -/
structure Comment where
  kind : CommentKind
  value : String
  span : Span
deriving DecidableEq, Repr, Inhabited

/-- A token with its text. -/
structure Token where
  kind : String
  value : String
  span : Span
deriving DecidableEq, Repr, Inhabited

/-- The result of parsing one script. -/
structure ParseTree where
  nodes : Array SyntaxNode := #[]
  /-- The indices of the nodes at the top. -/
  statements : Array Nat := #[]
  comments : Array Comment := #[]
  tokens : Array Token := #[]
  span : Span
deriving DecidableEq, Repr, Inhabited

/-! ## Relocation -/

/-- The position in the document. On the line where the snippet begins the padding is one column too
long, since columns are counted from one. -/
def LineColumn.relocate (firstLine : Nat) (p : LineColumn) : LineColumn :=
  if p.line = firstLine then { p with column := max (p.column - 1) 1 } else p

/-- The span in the document of a snippet that begins at `base` and has `padding` spaces before it.
The padding itself collapses onto the beginning. -/
def Span.relocate (base padding firstLine : Nat) (s : Span) : Span :=
  { start := s.start - padding + base
    stop := s.stop - padding + base
    startPos := s.startPos.relocate firstLine
    stopPos := s.stopPos.relocate firstLine }

namespace ParseTree

/-- The tree in its document; `firstLine` is the line on which the snippet begins. -/
def relocate (t : ParseTree) (base padding firstLine : Nat) : ParseTree :=
  { nodes := t.nodes.map fun n => { n with span := n.span.relocate base padding firstLine }
    statements := t.statements
    comments := t.comments.map fun c => { c with span := c.span.relocate base padding firstLine }
    tokens := t.tokens.map fun k => { k with span := k.span.relocate base padding firstLine }
    span := t.span.relocate base padding firstLine }

/-- The nodes at the top, in the order of the text. -/
def statementNodes (t : ParseTree) : Array SyntaxNode := t.statements.filterMap (t.nodes[·]?)

end ParseTree

end EmbeddedScripts
