import EmbeddedScripts.Grammar.Automaton
import EmbeddedScripts.Grammar.Piece

/-!
# Graph-structured stacks

The parses of a text that are under way share their stacks: a node of the `Stack` may lie on several
nodes below it, each through a link with the piece read in between. `Stack.push` adds a node,
`Stack.merge` lets one node lie also on what another one lies on, and `Stack.paths` lists the ways down
from a node over a given number of pieces.
-/

namespace EmbeddedScripts.Grammar

/-- A piece on a node. -/
structure Link where
  below : Nat
  piece : Piece
deriving Inhabited

/-- A node: the state of the parser and the place it has reached. -/
structure Node where
  state : State
  cursor : Cursor
  /-- The greatest weight of the pieces on a way down. -/
  weight : Int
  links : List Link
deriving Inhabited

def Node.offset (n : Node) : Nat := n.cursor.mark.offset

/-- Whether two nodes stand for the same state at the same place. -/
def Node.agrees (n m : Node) : Bool := n.offset == m.offset && State.same n.state m.state

/-- The nodes of all parses; a node is given by its index. -/
structure Stack where
  nodes : Array Node
deriving Inhabited

namespace Stack

/-- A node may lie on no more nodes than this. -/
def maxLinks : Nat := 8

/-- The node before anything is read. -/
def initial (state : State) (here : Cursor) : Stack := ⟨#[⟨state, here, 0, []⟩]⟩

def get (s : Stack) (n : Nat) : Node := s.nodes.getD n default

/-- Puts `piece` on the node `below`, reaching `state`. Gives the new node, too. -/
def push (s : Stack) (below : Nat) (piece : Piece) (state : State) : Stack × Nat :=
  let node : Node :=
    { state, cursor := piece.stop, weight := (s.get below).weight + piece.weight
      links := [⟨below, piece⟩] }
  let top := s.nodes.size
  (⟨s.nodes.push node⟩, top)

/-- Puts all of `pieces` on the node `below`, one on the other, in the same state. -/
def pushAll (s : Stack) (below : Nat) (state : State) : List Piece → Stack × Nat
  | [] => (s, below)
  | p :: ps =>
    let (s, top) := s.push below p state
    s.pushAll top state ps

/-- What becomes of a link that is added to the links of a node. -/
inductive Joining where
  /-- It takes the place of the link at the index, as the better one of two between the same
  nodes. -/
  | replaces (index : Nat)
  /-- It is no better than a link between the same nodes. -/
  | isKnown
  /-- The node it leads to and the given node are joined. -/
  | joins (below : Nat)
  | isNew

/-- Looks for a link like `link` among `links`, the first of which has the index `i`. -/
def joining (s : Stack) (link : Link) (i : Nat) : List Link → Joining
  | [] => .isNew
  | l :: ls =>
    if l.piece.alike link.piece then
      if l.below == link.below then
        if l.piece.weight < link.piece.weight then .replaces i else .isKnown
      else if (s.get l.below).agrees (s.get link.below) then .joins l.below
      else s.joining link (i + 1) ls
    else s.joining link (i + 1) ls

/-- Adds a link to the node `top`. `fuel` bounds how far down nodes are joined. -/
def addLink : (fuel : Nat) → Stack → (top : Nat) → Link → Stack
  | 0, s, _, _ => s
  | fuel + 1, s, top, link =>
    if link.below = top then s
    else
      let node := s.get top
      let weight := (s.get link.below).weight + link.piece.weight
      match s.joining link 0 node.links with
      | .replaces i =>
        ⟨s.nodes.setIfInBounds top { node with weight, links := node.links.set i link }⟩
      | .isKnown => s
      | .joins below =>
        let s := (s.get link.below).links.foldl (fun s l => addLink fuel s below l) s
        let node := s.get top
        ⟨s.nodes.setIfInBounds top { node with weight := max node.weight weight }⟩
      | .isNew =>
        if maxLinks ≤ node.links.length then s
        else
          ⟨s.nodes.setIfInBounds top
            { node with weight := max node.weight weight, links := node.links ++ [link] }⟩

/-- Lets the node `top` lie also on what the node `other` lies on. -/
def merge (s : Stack) (top other : Nat) : Stack :=
  (s.get other).links.foldl (fun s l => addLink s.nodes.size s top l) s

/-! ## Ways down -/

/-- A way down from a node: the node reached, the pieces passed in the order of the text, and how many
that are not extra are still to be passed. -/
structure Path where
  node : Nat
  pieces : List Piece
  left : Nat
deriving Inhabited

/-- The way one link further down. -/
def Path.down (p : Path) (l : Link) : Path :=
  ⟨l.below, l.piece :: p.pieces, if l.piece.extra then p.left else p.left - 1⟩

/-- The ways down that pass the pieces `ways` still have to pass. -/
def descend (s : Stack) : (fuel : Nat) → (ways : List Path) → List Path
  | 0, _ => []
  | _ + 1, [] => []
  | fuel + 1, ways =>
    let done := ways.filter (·.left == 0)
    let going := ways.filter (·.left != 0)
    let first := going.filterMap fun p => (s.get p.node).links.head?.map p.down
    let others := going.flatMap fun p => ((s.get p.node).links.drop 1).map p.down
    done ++ s.descend fuel (first ++ others)

/-- The ways down from `top` over `count` pieces that are not extra. -/
def paths (s : Stack) (top count : Nat) : List Path :=
  s.descend (s.nodes.size + 1) [⟨top, [], count⟩]

/-- The ways down of `ways`, all the way to a node that lies on none. -/
def descendAll (s : Stack) : (fuel : Nat) → (ways : List (Nat × List Piece)) → List (List Piece)
  | 0, _ => []
  | _ + 1, [] => []
  | fuel + 1, ways =>
    let done := ways.filter fun w => (s.get w.1).links.isEmpty
    let first := ways.filterMap fun w =>
      (s.get w.1).links.head?.map fun l => (l.below, l.piece :: w.2)
    let others := ways.flatMap fun w =>
      ((s.get w.1).links.drop 1).map fun l => (l.below, l.piece :: w.2)
    done.map (·.2) ++ s.descendAll fuel (first ++ others)

/-- The pieces from the bottom up to `top`, one list for each way down. -/
def allPaths (s : Stack) (top : Nat) : List (List Piece) :=
  s.descendAll (s.nodes.size + 1) [(top, [])]

/-- The pieces of ways down, by the node they lead to, in the order in which the nodes come. -/
def groupByNode (paths : List Path) : List (Nat × List (List Piece)) :=
  paths.foldl (fun groups p =>
    if groups.any (·.1 == p.node) then
      groups.map fun g => if g.1 == p.node then (g.1, g.2 ++ [p.pieces]) else g
    else groups ++ [(p.node, [p.pieces])]) []

end Stack

end EmbeddedScripts.Grammar
