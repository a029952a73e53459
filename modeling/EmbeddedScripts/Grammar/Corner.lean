import EmbeddedScripts.Grammar.Rule
import EmbeddedScripts.Grammar.TokenSet

/-!
# Grammars and left corners

A `Grammar` is a list of rules with the data that settles its ambiguities. This file derives what
can stand at the beginning of a nonterminal: the terminals that can begin it (`firsts`), the
nonterminals that can begin it (`corners`), and so the productions that can begin it, each with the
terminals that can follow it there (`startsWith`). What follows a corner is either known from inside
the nonterminal, or it includes whatever follows the nonterminal itself (`Corner.inherits`).
-/

namespace EmbeddedScripts

/-- An entry of an order of precedences: a tier, or every production of a nonterminal. -/
inductive Grammar.Rank where
  | tier (tier : Nat)
  | nonterminal (index : Nat)
deriving DecidableEq, Repr

/-- A grammar: its rules, and how its ambiguities are settled. Nonterminals and terminals are given
by their indices; nonterminal 0 is the start. -/
structure Grammar where
  /-- The right-hand side of each nonterminal. -/
  rules : List Grammar.Rule
  /-- How many terminals there are. -/
  terminals : Nat
  /-- The nonterminals that are replaced by their phrases wherever they occur. -/
  inlined : List Nat
  /-- The first of the nonterminals that stand for one or more of something. -/
  repetitions : Nat
  /-- Orders of precedence, the strongest entry first. -/
  orders : List (List Grammar.Rank)
  /-- The terminal for words that are not keywords. -/
  word : Nat
  /-- The terminal for the end of the text. -/
  endToken : Nat
  /-- The terminals that may stand anywhere. -/
  extras : List Nat
deriving Inhabited

namespace Grammar

/-! ## Productions -/

/-- The phrases of the nonterminal `n`, if it is one that is to be replaced. -/
def inlineBody (g : Grammar) : Symbol → Option (List Phrase)
  | .terminal _ => none
  | .nonterminal n =>
    if g.inlined.contains n then g.rules[n]?.map Rule.allPhrases else none

/-- The productions of nonterminal `n` with the right-hand side `rule`. -/
def productionsOf (g : Grammar) (n : Nat) (rule : Rule) : List Production :=
  if g.inlined.contains n then []
  else
    let phrases := rule.allPhrases.flatMap (·.inlined g.inlineBody g.inlined.length)
    phrases.mapIdx fun i p => ⟨i, n, p.steps, p.weight⟩

/-- The productions of every nonterminal. -/
def productions (g : Grammar) : List (List Production) := g.rules.mapIdx g.productionsOf

/-! ## First terminals -/

/-- The terminals that can begin `s`, given those that can begin each nonterminal. -/
def firstOf (firsts : Nat → TokenSet) : Symbol → TokenSet
  | .terminal t => .single t
  | .nonterminal n => firsts n

/-- Whether `s` can begin with the terminal `word` at a place where no word is reserved. -/
def freeOf (word : Nat) (frees : Nat → Bool) (s : Step) : Bool :=
  match s.symbol with
  | .terminal t => t == word && s.scope.free
  | .nonterminal n => frees n

/-- Repeats `f` until nothing changes, at most `n` times. -/
def stabilise {α : Type} [DecidableEq α] (f : α → α) : (n : Nat) → α → α
  | 0, x => x
  | n + 1, x => let y := f x; if y = x then x else stabilise f n y

/-- The terminals that can begin each nonterminal. -/
def firsts (productions : List (List Production)) : List TokenSet :=
  stabilise (fun known => productions.map fun ps => ps.foldl (fun s p =>
      match p.steps with
      | [] => s
      | step :: _ => s.union (firstOf (known.getD · .empty) step.symbol)) .empty)
    (productions.length + 1) (productions.map fun _ => .empty)

/-- Whether each nonterminal can begin with `word` at a place where no word is reserved. -/
def frees (word : Nat) (productions : List (List Production)) : List Bool :=
  stabilise (fun known => productions.map fun ps => ps.any fun p =>
      match p.steps with
      | [] => false
      | step :: _ => freeOf word (known.getD · false) step)
    (productions.length + 1) (productions.map fun _ => false)

/-! ## Corners -/

/-- A nonterminal at the beginning of another one, and what can follow it there. -/
structure Corner where
  nonterminal : Nat
  follow : TokenSet
  /-- Whether a word that follows stands where no word is reserved. -/
  free : Bool
  /-- Whether it can be followed by what follows the outer nonterminal. -/
  inherits : Bool
deriving DecidableEq, Repr, Inhabited

/-- Both corners in one; they are of the same nonterminal. -/
def Corner.union (c d : Corner) : Corner :=
  { c with
    follow := c.follow.union d.follow
    free := c.free || d.free
    inherits := c.inherits || d.inherits }

/-- Adds a corner to a list that is ordered by nonterminal; `none` if that changes nothing. -/
def Corner.insert? (c : Corner) : List Corner → Option (List Corner)
  | [] => some [c]
  | d :: ds =>
    if c.nonterminal < d.nonterminal then some (c :: d :: ds)
    else if c.nonterminal = d.nonterminal then
      let u := d.union c
      if u = d then none else some (u :: ds)
    else (c.insert? ds).map (d :: ·)

/-- Adds a corner to a list that is ordered by nonterminal. -/
def Corner.insert (c : Corner) (known : List Corner) : List Corner := (c.insert? known).getD known

/-- The nonterminal at the very beginning of a production. A corner that ends its production is
followed by what follows the whole. -/
def edge? (firsts : Nat → TokenSet) (word : Nat) (frees : Nat → Bool) (p : Production) :
    Option Corner :=
  match p.steps with
  | [⟨.nonterminal n, _⟩] => some ⟨n, .empty, false, true⟩
  | ⟨.nonterminal n, _⟩ :: s :: _ => some ⟨n, firstOf firsts s.symbol, freeOf word frees s, false⟩
  | _ => none

/-- The nonterminals at the very beginning of a nonterminal with the productions `ps`. -/
def edges (firsts : Nat → TokenSet) (word : Nat) (frees : Nat → Bool) (ps : List Production) :
    List Corner :=
  (ps.filterMap (edge? firsts word frees)).foldl (fun known c => c.insert known) []

/-- The corner `inner` of the nonterminal of `outer`, seen from where `outer` stands. -/
def Corner.through (outer inner : Corner) : Corner :=
  if inner.inherits then
    { outer.union inner with nonterminal := inner.nonterminal, inherits := outer.inherits }
  else inner

/-- Adds the corners in `work`, and the corners of those, to `known`. -/
def closeCorners (edges : Nat → List Corner) : (fuel : Nat) → (work known : List Corner) → List Corner
  | 0, _, known => known
  | _ + 1, [], known => known
  | fuel + 1, c :: work, known =>
    match c.insert? known with
    | none => closeCorners edges fuel work known
    | some known => closeCorners edges fuel ((edges c.nonterminal).map c.through ++ work) known

/-- All corners of nonterminal `n`, itself included. -/
def corners (edges : Nat → List Corner) (n : Nat) : List Corner :=
  closeCorners edges 100000 [⟨n, .empty, false, true⟩] []

/-! ## Starts -/

/-- A production that can begin a nonterminal, and what can follow it there. -/
structure Start where
  production : Production
  follow : TokenSet
  free : Bool
  inherits : Bool
deriving DecidableEq, Repr, Inhabited

/-- The productions at the given corners whose first symbol is `s`, or that are empty if there is no
`s`; in the order of the corners. -/
def startsWith (productions : Nat → List Production) (s : Option Symbol) (cs : List Corner) :
    List Start :=
  cs.flatMap fun c => (productions c.nonterminal).filterMap fun p =>
    if p.steps.head?.map (·.symbol) = s then some ⟨p, c.follow, c.free, c.inherits⟩ else none

end Grammar

end EmbeddedScripts
