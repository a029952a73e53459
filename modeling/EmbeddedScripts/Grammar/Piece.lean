import EmbeddedScripts.Grammar.Rule

/-!
# Pieces of a parse

A `Piece` is a part of a text that has been recognised as one symbol: its derivation, where it
lies, and the trees it shows. A symbol without a label shows the trees of its parts. Of two pieces for
the same symbol and text the one of greater weight is better, and of equal weight the one whose
derivation comes first.
-/

namespace EmbeddedScripts.Grammar

/-- How a symbol was derived. -/
inductive Derivation where
  | node (symbol : Symbol) (children : List Derivation)
deriving Repr, Inhabited

namespace Derivation

def symbol : Derivation → Symbol
  | node s _ => s

def children : Derivation → List Derivation
  | node _ cs => cs

end Derivation

/-- Terminals come before nonterminals. -/
def Symbol.compare : Symbol → Symbol → Ordering
  | .terminal s, .terminal t => Ord.compare s t
  | .terminal _, .nonterminal _ => .lt
  | .nonterminal _, .terminal _ => .gt
  | .nonterminal m, .nonterminal n => Ord.compare m n

mutual

/-- Orders derivations by symbol, then by the number of parts, then by the parts. -/
def Derivation.compare : Derivation → Derivation → Ordering
  | .node s cs, .node t ds =>
    ((s.compare t).then (Ord.compare cs.length ds.length)).then (compareAll cs ds)

/-- Orders lists of derivations of the same length by their first difference. -/
def compareAll : List Derivation → List Derivation → Ordering
  | c :: cs, d :: ds => (c.compare d).then (compareAll cs ds)
  | _, _ => .eq

end

/-- A part of a text recognised as one symbol. -/
structure Piece where
  derivation : Derivation
  /-- The offset where what separates it from the text before begins. -/
  lead : Nat
  start : Mark
  stop : Cursor
  weight : Int
  /-- Whether it stands outside all productions. -/
  extra : Bool
  /-- The trees it shows, if it shows none for itself. -/
  forest : List Tree
deriving Inhabited

namespace Piece

def symbol (p : Piece) : Symbol := p.derivation.symbol

/-- Whether two pieces are alike to all around them. -/
def alike (p q : Piece) : Bool :=
  p.symbol == q.symbol && p.start.offset - p.lead == q.start.offset - q.lead &&
    p.stop.mark.offset - p.start.offset == q.stop.mark.offset - q.start.offset &&
    p.derivation.children.length == q.derivation.children.length && p.extra == q.extra

/-- Whether `q` replaces `p` as a piece of the same symbol. -/
def yieldsTo (p q : Piece) : Bool :=
  if p.weight = q.weight then p.derivation.compare q.derivation == .gt else p.weight < q.weight

/-- The trees that the piece shows as the step `step` of a production. -/
def view (label : Symbol → Option Label) (p : Piece) (step : Option Scope) : List Tree :=
  let field := step.bind (·.field)
  match step.bind (·.guise), label p.symbol with
  | some g, _ =>
    [.node { kind := g.kind, named := g.named, field := field } p.start p.stop.mark p.forest]
  | none, some l => [.node { l with field := field } p.start p.stop.mark p.forest]
  | none, none => if field.isNone then p.forest else p.forest.map (Tree.inField field)

/-- The trees that the parts of a production show. -/
def viewAll (label : Symbol → Option Label) : List Step → List Piece → List Tree
  | _, [] => []
  | steps, p :: ps =>
    if p.extra then p.view label none ++ viewAll label steps ps
    else
      match steps with
      | [] => p.view label none ++ viewAll label [] ps
      | s :: steps => p.view label (some s.scope) ++ viewAll label steps ps

/-- A piece for the symbol `symbol` made of `parts`; an empty one lies at `here`. -/
def ofParts (symbol : Symbol) (here : Cursor) (parts : List Piece) (forest : List Tree) : Piece :=
  { derivation := .node symbol (parts.map (·.derivation))
    lead := (parts.head?.map (·.lead)).getD here.mark.offset
    start := (parts.head?.map (·.start)).getD here.mark
    stop := (parts.getLast?.map (·.stop)).getD here
    weight := parts.foldl (fun w p => w + p.weight) 0
    extra := false
    forest := forest }

/-- A piece for one terminal. -/
def ofToken (token : Nat) (before : Mark) (start : Mark) (stop : Cursor) (extra : Bool) : Piece :=
  { derivation := .node (.terminal token) []
    lead := before.offset
    start, stop, extra
    weight := 0
    forest := [] }

end Piece

end EmbeddedScripts.Grammar
