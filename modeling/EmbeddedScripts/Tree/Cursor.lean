import EmbeddedScripts.Tree

/-!
# Cursors in a tree

A `Place` is a node with the way to it from the root, which tells it from equal nodes of the same tree.
A `Cursor` is at a place and moves to the first child of its node, to the next sibling or to the
parent. It keeps the places above and the siblings that follow each of them, and cannot leave the tree
at whose root it began.
-/

namespace EmbeddedScripts.Tree

/-- A node, and the indices of the children on the way to it from the root, its own index first. -/
structure Place where
  path : List Nat := []
  node : Tree
deriving Repr, Inhabited

/-- The places of the children, in the order of the text. -/
def Place.children (p : Place) : List Place :=
  p.node.children.zipIdx.map fun (t, i) => ⟨i :: p.path, t⟩

/-- A place in a tree, from which one can move on. -/
structure Cursor where
  place : Place
  /-- The siblings that follow the place. -/
  later : List Place := []
  /-- The places above, the nearest first, each with the siblings that follow it. -/
  above : List (Place × List Place) := []
deriving Inhabited

namespace Cursor

/-- The cursor at the root of a tree. Nothing follows the root, whatever the tree is part of. -/
def ofRoot (root : Tree) : Cursor := { place := { node := root } }

/-- The cursor at the first child of the node, if it has one. -/
def firstChild? (c : Cursor) : Option Cursor :=
  match c.place.children with
  | [] => none
  | p :: ps => some ⟨p, ps, (c.place, c.later) :: c.above⟩

/-- The cursor at the next sibling, if there is one. -/
def nextSibling? (c : Cursor) : Option Cursor :=
  match c.later with
  | [] => none
  | p :: ps => some { c with place := p, later := ps }

/-- The cursor at the parent, unless the place is the root. -/
def parent? (c : Cursor) : Option Cursor :=
  match c.above with
  | [] => none
  | (p, ps) :: above => some ⟨p, ps, above⟩

end Cursor

end EmbeddedScripts.Tree
