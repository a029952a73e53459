import EmbeddedScripts.Grammar.Lexing
import EmbeddedScripts.Grammar.Stack

/-!
# Parsing with a grammar that is not deterministic

`Language.parse` reads a text with the automaton of a grammar. Where several actions are possible the
parse splits into versions that share a stack; a version that meets a terminal it has no use for is
dropped as long as another one goes on, versions that reach the same state at the same place are
joined, and of two parses of the same text the one of greater weight is kept. A text is rejected when
all versions are stuck before one has read it all.
-/

namespace EmbeddedScripts.Grammar

/-- A token read for a parser. -/
structure Lexeme extends Found where
  /-- Whether it is a word that stands for a keyword. -/
  keyword : Bool := false
deriving Inhabited

/-- A grammar with its tokens and the labels of its trees. -/
structure Language where
  automaton : Automaton
  /-- The label of the trees for a symbol; `none` if the symbol shows the trees of its parts. -/
  label : Symbol → Option Label
  /-- Whether a keyword is reserved where words are. -/
  reserved : Nat → Bool
  /-- Reads the next token, given the terminals of use and whether words are reserved. -/
  lex : (valid : TokenSet) → (reserves : Bool) → Cursor → Option Lexeme

/-- Where a version of a parse stands. -/
inductive Status where
  | active
  /-- Stuck at a terminal it has no use for. -/
  | stuck
  /-- Finished, or joined with another version. -/
  | over
deriving DecidableEq, Repr, Inhabited

/-- A version of a parse: the top of its stack. -/
structure Version where
  top : Nat
  status : Status := .active
deriving Inhabited

/-- The parses of a text that are under way, in order of preference, and the best finished one. -/
structure Parse where
  stack : Stack
  versions : List Version
  result : Option Piece := none
deriving Inhabited

namespace Parse

/-- More versions than this are not carried to the next token. -/
def maxVersions : Nat := 6

/-- More versions than `maxVersions` by this many are not even begun. -/
def maxOverflow : Nat := 4

def version (p : Parse) (v : Nat) : Version := p.versions.getD v default

def node (p : Parse) (v : Nat) : Node := p.stack.get (p.version v).top

def setStatus (p : Parse) (v : Nat) (status : Status) : Parse :=
  { p with versions := p.versions.modify v ({ · with status }) }

/-- Whether two versions can be joined. -/
def joinable (s : Stack) (v w : Version) : Bool :=
  v.status == .active && w.status == .active && (s.get v.top).agrees (s.get w.top)

/-! ## Reductions -/

/-- The pieces up to the last one that is not extra, and the extra ones after it. -/
def splitTrailing (pieces : List Piece) : List Piece × List Piece :=
  let trailing := pieces.reverse.takeWhile (·.extra)
  (pieces.take (pieces.length - trailing.length), trailing.reverse)

/-- The best piece for the production out of several lists of parts, with the extra pieces that come
after it. -/
def bestOf (label : Symbol → Option Label) (production : Production) (here : Cursor) :
    List (List Piece) → Option (Piece × List Piece)
  | [] => none
  | first :: more =>
    let build (pieces : List Piece) : Piece × List Piece :=
      let (parts, trailing) := splitTrailing pieces
      (.ofParts (.nonterminal production.left) here parts
        (Piece.viewAll label production.steps parts), trailing)
    some (more.foldl (fun best pieces =>
      let other := build pieces
      if best.1.yieldsTo other.1 then other else best) (build first))

/-- The first version, other than `v`, that the version `w` can be joined with. -/
def partner? (s : Stack) (v : Nat) (w : Version) (versions : List Version) : Option Version :=
  (versions.zipIdx.find? fun (u, i) => i != v && joinable s u w).map (·.1)

/-- Reduces version `v` by the production, over the ways down `groups`: each one gives a new version,
unless it can be joined with another one. `limit` bounds the number of versions. -/
def reduceGroups (l : Language) (production : Production) (v limit : Nat) (here : Cursor) :
    List (Nat × List (List Piece)) → Stack → List Version → Stack × List Version
  | [], s, versions => (s, versions)
  | (base, lists) :: groups, s, versions =>
    if limit < versions.length then reduceGroups l production v limit here groups s versions
    else
      match bestOf l.label production here lists with
      | none => reduceGroups l production v limit here groups s versions
      | some (piece, trailing) =>
        let state := l.automaton.next (s.get base).state (.nonterminal production.left)
        let piece := { piece with weight := piece.weight + production.weight }
        let (s, top) := s.push base piece state
        let (s, top) := s.pushAll top state trailing
        let w : Version := { top }
        match partner? s v w versions with
        | some u => reduceGroups l production v limit here groups (s.merge u.top top) versions
        | none => reduceGroups l production v limit here groups s (versions ++ [w])

/-- Reduces version `v` by the production. The versions this gives come after the others. -/
def reduce (l : Language) (p : Parse) (v : Nat) (production : Production) : Parse :=
  let top := (p.version v).top
  let groups := Stack.groupByNode (p.stack.paths top production.steps.length)
  let limit := maxVersions + maxOverflow + (p.versions.countP (·.status == .over))
  let here := (p.stack.get top).cursor
  let ⟨stack, versions, result⟩ := p
  let (stack, versions) := reduceGroups l production v limit here groups stack versions
  ⟨stack, versions, result⟩

/-! ## Actions -/

/-- The whole text as one piece: the start symbol with the extra pieces around it. -/
def wholeOf (label : Symbol → Option Label) (pieces : List Piece) : Option Piece :=
  let before := pieces.takeWhile (·.extra)
  match pieces.dropWhile (·.extra) with
  | [] => none
  | start :: after =>
    let forest := before.flatMap (·.view label none) ++ start.forest ++
      after.flatMap (·.view label none)
    let around := Piece.ofParts start.symbol start.stop
      (before ++ (if start.derivation.children.isEmpty then [] else [start]) ++ after) forest
    some { around with
      derivation := .node start.symbol (before.map (·.derivation) ++ start.derivation.children ++
        after.map (·.derivation))
      weight := start.weight }

/-- Ends version `v` with the text all read. -/
def accept (l : Language) (p : Parse) (v : Nat) (lexeme : Lexeme) : Parse :=
  let top := (p.version v).top
  let piece := Piece.ofToken lexeme.token (p.stack.get top).cursor.mark lexeme.start.mark
    lexeme.stop true
  let (stack, top) := p.stack.push top piece []
  let result := (stack.allPaths top).foldl (fun best pieces =>
    match best, wholeOf l.label pieces with
    | none, whole => whole
    | some b, some whole => if b.yieldsTo whole then some whole else some b
    | some b, none => some b) p.result
  { stack, result, versions := p.versions.set v ⟨top, .over⟩ }

/-- Reads the token into version `v`. -/
def shift (p : Parse) (v : Nat) (lexeme : Lexeme) (token : Nat) (state : State) (extra : Bool) :
    Parse :=
  let top := (p.version v).top
  let piece := Piece.ofToken token (p.stack.get top).cursor.mark lexeme.start.mark lexeme.stop extra
  let ⟨stack, versions, result⟩ := p
  let (stack, top) := stack.push top piece state
  ⟨stack, versions.set v { top }, result⟩

/-- What performing actions has led to. -/
inductive Progress where
  /-- The token is read. -/
  | read
  /-- Only reductions were performed; the version at the index, if any, goes on in place of the one
  that was reduced. -/
  | reduced (heir : Option Nat)
  /-- No action was performed. -/
  | idle

/-- Performs the actions on version `v`, up to the first that reads the token. -/
def perform (l : Language) (v : Nat) (lexeme : Lexeme) (token : Nat) :
    List Action → Parse → Progress → Parse × Progress
  | [], p, progress => (p, progress)
  | .repeatShift :: actions, p, progress => perform l v lexeme token actions p progress
  | .shift :: _, p, _ =>
    let state := l.automaton.next (p.node v).state (.terminal token)
    (p.shift v lexeme token state false, .read)
  | .extra :: _, p, _ =>
    let state := (p.node v).state
    (p.shift v lexeme token state true, .read)
  | .accept :: _, p, _ => (p.accept l v lexeme, .read)
  | .reduce production :: actions, p, progress =>
    let count := p.versions.length
    let p := p.reduce l v production
    let heir := if count < p.versions.length then some count
      else match progress with
        | .reduced heir => heir
        | _ => none
    perform l v lexeme token actions p (.reduced heir)

/-- The version at `heir` takes the place of version `v`. -/
def replace (p : Parse) (v heir : Nat) : Parse :=
  { p with versions := (p.versions.set v (p.version heir)).eraseIdx heir }

/-- Goes on with version `v` until the token is read, or the version is stuck or over. A keyword that
is of no use counts as a plain word, unless it is reserved. -/
def act (l : Language) (v : Nat) (lexeme : Lexeme) : (fuel token : Nat) → Parse → Parse
  | 0, _, p => p.setStatus v .stuck
  | fuel + 1, token, p =>
    let state := (p.node v).state
    let (p, progress) := perform l v lexeme token (l.automaton.actions state token) p .idle
    match progress with
    | .read => p
    | .reduced (some heir) => act l v lexeme fuel token (p.replace v heir)
    | .reduced none => p.setStatus v .over
    | .idle =>
      let word := l.automaton.grammar.word
      if lexeme.keyword && token != word &&
          !(l.reserved token && l.automaton.reserves state (l.automaton.valid state)) &&
          !(l.automaton.actions state word).isEmpty then
        act l v lexeme fuel word p
      else p.setStatus v .stuck

/-- Reads the next token into version `v`. -/
def advance (l : Language) (fuel : Nat) (p : Parse) (v : Nat) : Parse :=
  let node := p.node v
  let valid := l.automaton.valid node.state
  match l.lex valid (l.automaton.reserves node.state valid) node.cursor with
  | none => p.setStatus v .stuck
  | some lexeme => act l v lexeme fuel lexeme.token p

/-! ## Rounds -/

/-- Advances version `v` past the offset `reached`; a version other than the first may also stop
there. -/
def catchUp (l : Language) (limit v : Nat) : (fuel : Nat) → Parse → (reached : Nat) → Parse × Nat
  | 0, p, reached => (p, reached)
  | fuel + 1, p, reached =>
    if (p.version v).status != .active then (p, reached)
    else
      let p := p.advance l limit v
      let offset := (p.node v).offset
      if reached < offset || (0 < v && offset == reached) then (p, offset)
      else catchUp l limit v fuel p reached

/-- Advances all versions from `v` on. -/
def advanceAll (l : Language) (limit : Nat) : (fuel v : Nat) → Parse → (reached : Nat) → Parse × Nat
  | 0, _, p, reached => (p, reached)
  | fuel + 1, v, p, reached =>
    if v < p.versions.length then
      let (p, reached) := catchUp l limit v limit p reached
      advanceAll l limit fuel (v + 1) p reached
    else (p, reached)

/-- Puts the version `w` among those of higher preference. `stuck` and `weight` are those of the
version for which a place is sought; one that it displaces moves on in its stead. -/
def insert (stuck : Bool) (weight : Int) : Stack → (w : Version) → List Version → Stack × List Version
  | s, w, [] => (s, [w])
  | s, w, u :: us =>
    if u.status != .stuck && stuck then (s, u :: us)
    else if u.status == .stuck && !stuck then insert stuck weight s w us
    else if joinable s u w then (s.merge u.top w.top, u :: us)
    else if (s.get u.top).weight < weight then
      let (s, us) := insert stuck weight s u us
      (s, w :: us)
    else
      let (s, us) := insert stuck weight s w us
      (s, u :: us)

/-- Orders the versions by weight, joins those that agree, drops those that are stuck if any goes on,
and drops those beyond the greatest number. -/
def condense (p : Parse) : Parse :=
  let ⟨stack, versions, result⟩ := p
  let live := versions.filter (·.status != .over)
  let (stack, versions) := live.foldl (fun (s, kept) w =>
    insert (w.status == .stuck) (s.get w.top).weight s w kept) (stack, [])
  ⟨stack, versions.take maxVersions, result⟩

/-- Goes on round by round until no version is left, or all are stuck. -/
def run (l : Language) (limit : Nat) : (fuel : Nat) → Parse → (reached : Nat) → Option Piece
  | 0, p, _ => p.result
  | fuel + 1, p, reached =>
    let (p, reached) := advanceAll l limit limit 0 p reached
    let p := p.condense
    if p.versions.all (·.status == .stuck) then p.result else run l limit fuel p reached

end Parse

/-- The tree of a text, if the grammar allows it. -/
def Language.parse (l : Language) (text : List Char) : Option Tree :=
  let here := Cursor.ofText text
  let limit := 64 * (text.length + 64)
  let p : Parse := { stack := .initial l.automaton.initial here, versions := [{ top := 0 }] }
  (p.run l limit limit 0).bind fun piece => (piece.view l.label none).head?

end EmbeddedScripts.Grammar
