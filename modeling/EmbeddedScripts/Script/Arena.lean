import EmbeddedScripts.ParseTree
import EmbeddedScripts.Position.ColumnIndex
import EmbeddedScripts.Tree.Walk

/-!
# Nodes, tokens and comments of a tree

`arena` lists the nodes of a concrete syntax tree that stand for rules of the grammar, comments apart,
in pre-order with links between them. `lexicalParts` lists its tokens and comments in the order of
the text. A string or a regular expression is kept whole in both.
-/

namespace EmbeddedScripts.Script

/-- A source text with what is needed to place its trees. -/
structure Source where
  text : String
  columns : ColumnIndex
  startLine : Nat

namespace Source

def ofString (text : String) (startLine : Nat) : Source :=
  ⟨text, .ofList text.toList, startLine⟩

/-- The span of a tree. -/
def span (s : Source) (t : Tree) : Span := s.columns.span t.start t.stop s.startLine

end Source

/-- Whether a node is kept whole. -/
def isAtomic (t : Tree) : Bool := t.kind == "string" || t.kind == "regex"

def isComment (t : Tree) : Bool := t.kind == "comment" || t.kind == "html_comment"

/-! ## Nodes -/

/-- Whether a node has a place in the arena, given that it stands for a rule. -/
def isSyntactic (t : Tree) : Bool := !isComment t && t.kind != "hash_bang_line"

/-- The children of a node that have a place in the arena. -/
def syntacticChildren (t : Tree) : List Tree := t.namedChildren.filter isSyntactic

/-- Whether a node of the arena shows its text. -/
def isLeaf (t : Tree) : Bool := t.namedChildren.isEmpty || isAtomic t

/-- The nodes of the arena that stand directly below the one of `t`. -/
def partsOf (t : Tree) : List Tree := if isLeaf t then [] else syntacticChildren t

theorem sizeAll_partsOf_lt (t : Tree) : Tree.sizeAll (partsOf t) < t.size := by
  have h : Tree.sizeAll (syntacticChildren t) ≤ Tree.sizeAll t.children :=
    Nat.le_trans (Tree.sizeAll_filter_le _ _) (Tree.sizeAll_filter_le _ _)
  rw [Tree.size_eq, partsOf]
  split
  · simp only [Tree.sizeAll]
    omega
  · omega

/-- Nodes in pre-order and the indices of those at the top. -/
structure Arena where
  nodes : Array SyntaxNode := #[]
  statements : Array Nat := #[]
deriving Inhabited

/-- Adds the node of `t` below `parent`, without its children. -/
def Arena.add (s : Source) (a : Arena) (t : Tree) (parent : Option Nat) : Arena :=
  let id := a.nodes.size
  let text := if isLeaf t then some (t.text s.text) else none
  let node : SyntaxNode := { kind := t.kind, span := s.span t, text, parent }
  match parent with
  | some p =>
    { a with nodes := (a.nodes.modify p fun n => { n with children := n.children.push id }).push node }
  | none => ⟨a.nodes.push node, a.statements.push id⟩

/-- Adds the pending trees, each below its parent, with all below them. -/
def Arena.addAll (s : Source) (a : Arena) (pending : List (Tree × Option Nat)) : Arena :=
  match pending with
  | [] => a
  | (t, parent) :: rest =>
    let id := a.nodes.size
    Arena.addAll s (a.add s t parent) ((partsOf t).map (·, some id) ++ rest)
termination_by Tree.sizeAll (pending.map (·.1))
decreasing_by
  have h := sizeAll_partsOf_lt t
  simpa [Tree.sizeAll, Function.comp_def] using h

/-- The nodes below `root`. -/
def arena (s : Source) (root : Tree) : Arena :=
  Arena.addAll s {} ((syntacticChildren root).map (·, none))

/-! ## Tokens and comments -/

/-- The kind and the value of a comment. -/
def commentOf : List Char → CommentKind × List Char
  | '/' :: '/' :: value => (.line, value)
  | '/' :: '*' :: value =>
    (.block, if ['*', '/'].isSuffixOf value then value.take (value.length - 2) else value)
  | text => (.html, text)

/-- The tokens and the comments of a text. -/
structure LexicalParts where
  tokens : Array Token := #[]
  comments : Array Comment := #[]
deriving Inhabited

/-- Notes the token or comment that a node is. A node of no text is a semicolon that was put in, and
is no token. -/
def LexicalParts.visit (s : Source) (parts : LexicalParts) (t : Tree) : Tree.Visit × LexicalParts :=
  if isComment t then
    let (kind, value) := commentOf (t.text s.text).toList
    let comment : Comment := ⟨kind, String.ofList value, s.span t⟩
    (.skip, { parts with comments := parts.comments.push comment })
  else if t.children.isEmpty || isAtomic t then
    if t.start.offset < t.stop.offset then
      let token : Token := ⟨t.kind, t.text s.text, s.span t⟩
      (.skip, { parts with tokens := parts.tokens.push token })
    else (.skip, parts)
  else (.descend, parts)

/-- The tokens and comments of a tree, in the order of the text. -/
def lexicalParts (s : Source) (root : Tree) : LexicalParts :=
  Tree.walk (fun parts p => parts.visit s p.node) {} root

end EmbeddedScripts.Script
