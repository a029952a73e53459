import EmbeddedScripts.Grammar.Corner

/-!
# The automaton of a grammar

A state is the list of items that a parser is in the middle of: productions with the steps still to
come and the terminals that can follow. States are computed as they are needed (`Automaton.next`);
what the parser may do on a terminal is `Automaton.actions`, after precedence and associativity have
removed the actions they rule out. What is left of a conflict stays: the parser then tries every
remaining action.

An `Automaton` is given by functions. `Grammar.automaton` computes them from the grammar each time,
`Tables.automaton` looks them up; the two agree (`Tables.automaton_ofGrammar`).
-/

namespace EmbeddedScripts.Grammar

/-- A production that is partly read. -/
structure Item where
  production : Production
  /-- How many steps are read. -/
  dot : Nat
  /-- The annotations of the last step read. -/
  last : Option Scope
  rest : List Step
  follow : TokenSet
  /-- Whether a word that follows stands where no word is reserved. -/
  free : Bool
deriving Inhabited

/-- A state of the automaton: items in order, each production at most once at each dot. -/
abbrev State := List Item

namespace Item

def tier (i : Item) : Option Nat := i.last.bind (·.tier)

def assoc (i : Item) : Option Assoc := i.last.bind (·.assoc)

/-- The item after one more step. -/
def advance (i : Item) (s : Step) (rest : List Step) : Item :=
  { i with dot := i.dot + 1, last := some s.scope, rest := rest }

/-- Whether two items are the same apart from what can follow. -/
def sameCore (i j : Item) : Bool :=
  i.dot == j.dot && i.production.left == j.production.left &&
    i.production.index == j.production.index

/-- The order of items in a state. -/
def before (i j : Item) : Bool :=
  if i.dot = j.dot then
    if i.production.left = j.production.left then i.production.index < j.production.index
    else i.production.left < j.production.left
  else i.dot < j.dot

def same (i j : Item) : Bool := i.sameCore j && i.follow == j.follow && i.free == j.free

/-- Two items of the same core as one. -/
def union (i j : Item) : Item :=
  { i with follow := i.follow.union j.follow, free := i.free || j.free }

/-- Joins two ordered lists of items into one. -/
def merge : List Item → List Item → List Item
  | [] => fun ys => ys
  | x :: xs =>
    let rec go (more : List Item → List Item) : List Item → List Item
      | [] => x :: xs
      | y :: ys =>
        if x.sameCore y then x.union y :: more ys
        else if x.before y then x :: more (y :: ys)
        else y :: go more ys
    go (merge xs)

end Item

/-- Whether two states are equal. -/
def State.same : State → State → Bool
  | [], [] => true
  | i :: is, j :: js => i.same j && State.same is js
  | _, _ => false

/-- What a parser may do on a terminal. -/
inductive Action where
  /-- Read the terminal. -/
  | shift
  /-- Read the terminal as a further element of a repetition; the reductions beside it give the same
  parse, so it is not taken. -/
  | repeatShift
  | reduce (production : Production)
  /-- The whole text is read. -/
  | accept
  /-- Read the terminal without changing state. -/
  | extra
deriving DecidableEq, Repr, Inhabited

/-- An automaton, by what its states are computed from. -/
structure Automaton where
  grammar : Grammar
  /-- The terminals that can begin a nonterminal. -/
  first : Nat → TokenSet
  /-- Whether a nonterminal can begin with a word where no word is reserved. -/
  free : Nat → Bool
  /-- The productions that can begin a nonterminal, by their first symbol. -/
  starts : Nat → Symbol → List Start
  /-- The empty productions that can begin a nonterminal. -/
  empties : Nat → List Start

namespace Automaton

/-- The left-hand side of the production that reads a whole text. -/
def goal (a : Automaton) : Nat := a.grammar.rules.length

/-- The state before anything is read. -/
def initial (a : Automaton) : State :=
  let step : Step := ⟨.nonterminal 0, {}⟩
  [{ production := ⟨0, a.goal, [step], 0⟩
     dot := 0
     last := none
     rest := [step]
     follow := .single a.grammar.endToken
     free := false }]

def firstOf (a : Automaton) (s : Symbol) : TokenSet := Grammar.firstOf a.first s

/-- The terminals that are of use in a state. -/
def valid (a : Automaton) (state : State) : TokenSet :=
  state.foldl (fun s i =>
      match i.rest with
      | [] => s.union i.follow
      | step :: _ =>
        let s := s.union (a.firstOf step.symbol)
        match step.symbol with
        | .terminal _ => s
        | .nonterminal n =>
          if (a.empties n).isEmpty then s
          else (a.empties n).foldl (fun s e =>
            s.union (if e.inherits then e.follow.union i.follow else e.follow)) s)
    (.ofList a.grammar.extras)

/-- Whether a word of the language is reserved in a state, given its valid terminals. -/
def reserves (a : Automaton) (state : State) (valid : TokenSet) : Bool :=
  valid.has a.grammar.word && !state.any fun i =>
    match i.rest with
    | [] => i.free && i.follow.has a.grammar.word
    | step :: _ => freeOf a.grammar.word a.free step

/-! ## Transitions -/

/-- What follows the nonterminal after which `rest` comes in the item `i`. -/
def following (a : Automaton) (i : Item) : List Step → TokenSet × Bool
  | [] => (i.follow, i.free)
  | s :: _ => (a.firstOf s.symbol, freeOf a.grammar.word a.free s)

/-- The item of a production that begins a nonterminal, before its first step. -/
def Start.item (follow : TokenSet × Bool) (s : Start) : Item :=
  { production := s.production
    dot := 0
    last := none
    rest := s.production.steps
    follow := if s.inherits then s.follow.union follow.1 else s.follow
    free := s.free || (s.inherits && follow.2) }

/-- The item of a production that begins a nonterminal, after its first step. -/
def Start.advanced (follow : TokenSet × Bool) (s : Start) : Option Item :=
  match s.production.steps with
  | [] => none
  | step :: rest => some ((Start.item follow s).advance step rest)

/-- The state after the symbol `s`. -/
def next (a : Automaton) (state : State) (s : Symbol) : State :=
  let begun := state.foldl (fun acc i =>
    match i.rest with
    | ⟨.nonterminal n, _⟩ :: rest =>
      match a.starts n s with
      | [] => acc
      | starts => Item.merge (starts.filterMap (Start.advanced (a.following i rest))) acc
    | _ => acc) []
  let continued := state.filterMap fun i =>
    match i.rest with
    | [] => none
    | step :: rest => if step.symbol = s then some (i.advance step rest) else none
  Item.merge begun continued

/-! ## Actions -/

/-- Compares two precedences: each is a tier, if any, with the nonterminals it comes from. The first
order in which both occur decides. -/
def comparePrecedence (orders : List (List Rank)) (left : Option Nat × List Nat)
    (right : Option Nat × List Nat) : Ordering :=
  let isOf (p : Option Nat × List Nat) : Rank → Bool
    | .tier t => p.1 == some t
    | .nonterminal n => p.2.contains n
  let rec go (sawLeft sawRight : Bool) : List Rank → Ordering
    | [] => .eq
    | r :: rs =>
      if isOf left r then (if sawRight then .lt else go true sawRight rs)
      else if isOf right r then (if sawLeft then .gt else go sawLeft true rs)
      else go sawLeft sawRight rs
  (orders.map (go false false)).find? (· != .eq) |>.getD .eq

/-- The reductions that remain on a terminal, with their common precedence. -/
structure Reductions where
  items : List Item := []
  tier : Option Nat := none
  lefts : List Nat := []
  assocs : List (Option Assoc) := []
deriving Inhabited

/-- Adds a finished item; one of lower precedence is dropped, one of higher precedence drops the
others. -/
def Reductions.add (orders : List (List Rank)) (r : Reductions) (i : Item) : Reductions :=
  let keep (r : Reductions) : Reductions :=
    { items := r.items ++ [i]
      tier := i.tier
      lefts := if r.lefts.contains i.production.left then r.lefts
        else r.lefts ++ [i.production.left]
      assocs := i.assoc :: r.assocs }
  if r.items.isEmpty then keep r
  else
    match comparePrecedence orders (i.tier, [i.production.left]) (r.tier, r.lefts) with
    | .gt => keep {}
    | .eq => keep r
    | .lt => r

/-- The finished items of a state. -/
def finished (a : Automaton) (state : State) : List Item :=
  state.flatMap fun i =>
    match i.rest with
    | [] => [i]
    | ⟨.nonterminal n, _⟩ :: rest => (a.empties n).map (Start.item (a.following i rest))
    | _ => []

def reduction (a : Automaton) (i : Item) : Action :=
  if i.production.left = a.goal then .accept else .reduce i.production

/-- Settles a choice between reading the terminal and the reductions `r`. `pending` are the items
that read the terminal, `closing` all finished items that allow it. -/
def resolve (a : Automaton) (r : Reductions) (pending closing : List Item) : List Action :=
  let reduces := r.items.map a.reduction
  let lefts := (pending ++ closing).map (·.production.left)
  if lefts.all (fun l => a.grammar.repetitions ≤ l && lefts.head? == some l) then
    reduces ++ [.repeatShift]
  else
    let comparisons := pending.map fun i =>
      comparePrecedence a.grammar.orders (i.tier, [i.production.left]) (r.tier, r.lefts)
    if comparisons.contains .gt then
      if comparisons.contains .lt then reduces ++ [.shift] else [.shift]
    else if comparisons.contains .lt then reduces
    else if r.assocs.all (· == some .left) then reduces
    else if r.assocs.all (· == some .right) then [.shift]
    else reduces ++ [.shift]

/-- What a parser in the state may do on terminal `t`. -/
def actions (a : Automaton) (state : State) (t : Nat) : List Action :=
  let closing := (a.finished state).filter (·.follow.has t)
  let r := closing.foldl (Reductions.add a.grammar.orders) {}
  let pending := state.filter fun i =>
    match i.rest with
    | [] => false
    | step :: _ => (a.firstOf step.symbol).has t
  if pending.isEmpty then
    if r.items.isEmpty then if a.grammar.extras.contains t then [.extra] else []
    else r.items.map a.reduction
  else if r.items.isEmpty then [.shift]
  else a.resolve r (pending.filter (0 < ·.dot)) closing

end Automaton

/-! ## Computing and looking up -/

/-- The automaton of a grammar. -/
def automaton (g : Grammar) : Automaton :=
  let lists := g.productions
  let firstLists := firsts lists
  let freeLists := frees g.word lists
  let productions := fun n => lists.getD n []
  let first := fun n => firstLists.getD n .empty
  let free := fun n => freeLists.getD n false
  let cornersOf := corners fun n => edges first g.word free (productions n)
  { grammar := g
    first := first
    free := free
    starts := fun n s => startsWith productions (some s) (cornersOf n)
    empties := fun n => startsWith productions none (cornersOf n) }

/-- The table of the first `n` values of `f`. -/
def tabulate {α : Type} (n : Nat) (f : Nat → α) : Array α := ((List.range n).map f).toArray

theorem getElem?_tabulate {α : Type} (n : Nat) (f : Nat → α) (i : Nat) :
    (tabulate n f)[i]? = if i < n then some (f i) else none := by
  simp only [tabulate, List.getElem?_toArray, List.getElem?_map]
  split
  · next h => simp [List.getElem?_range h]
  · next h => simp [List.getElem?_eq_none (l := List.range n) (i := i) (by simpa using h)]

/-- A value of the table, or `f` beyond its end. -/
def lookup {α : Type} (table : Array α) (f : Nat → α) (i : Nat) : α :=
  match table[i]? with
  | some x => x
  | none => f i

theorem lookup_tabulate {α : Type} (f : Nat → α) (n i : Nat) : lookup (tabulate n f) f i = f i := by
  simp only [lookup, getElem?_tabulate]
  split
  · next h =>
    split at h
    · simpa using h.symm
    · simp at h
  · rfl

/-- What the automaton of a grammar is computed from, in tables. -/
structure Tables where
  grammar : Grammar
  productions : Array (List Production)
  first : Array TokenSet
  free : Array Bool
  corners : Array (List Corner)
  /-- By nonterminal and first symbol; the terminals come first. -/
  starts : Array (Array (List Start))
  empties : Array (List Start)

namespace Tables

/-- The place of a symbol when the `terminals` terminals come first. -/
def place (terminals : Nat) : Symbol → Nat
  | .terminal t => t
  | .nonterminal n => terminals + n

/-- The symbol at a place. -/
def symbolAt (terminals i : Nat) : Symbol :=
  if i < terminals then .terminal i else .nonterminal (i - terminals)

def productionsAt (productions : Array (List Production)) (n : Nat) : List Production :=
  productions.getD n []

/-- The corners of nonterminal `n`, computed. -/
def cornersFor (word : Nat) (productions : Array (List Production)) (first : Array TokenSet)
    (free : Array Bool) (n : Nat) : List Corner :=
  Grammar.corners (fun m => edges (first.getD · .empty) word (free.getD · false)
    (productionsAt productions m)) n

def cornersAt (t : Tables) (n : Nat) : List Corner :=
  lookup t.corners (cornersFor t.grammar.word t.productions t.first t.free) n

def startsFor (productions : Array (List Production)) (cs : List Corner) (s : Symbol) :
    List Start :=
  startsWith (productionsAt productions) (some s) cs

/-- The tables of a grammar. -/
def ofGrammar (g : Grammar) : Tables :=
  let lists := g.productions
  let productions := lists.toArray
  let first := (firsts lists).toArray
  let free := (frees g.word lists).toArray
  let n := g.rules.length
  let corners := tabulate n (cornersFor g.word productions first free)
  let cornersAt := lookup corners (cornersFor g.word productions first free)
  { grammar := g
    productions, first, free, corners
    starts := tabulate n fun k =>
      let cs := cornersAt k
      tabulate (g.terminals + n) fun i => startsFor productions cs (symbolAt g.terminals i)
    empties := tabulate n fun k => startsWith (productionsAt productions) none (cornersAt k) }

/-- The automaton that looks its data up. A terminal beyond the number of terminals of the grammar
is not in the tables. -/
def automaton (t : Tables) : Automaton :=
  { grammar := t.grammar
    first := fun n => t.first.getD n .empty
    free := fun n => t.free.getD n false
    starts := fun n s =>
      let i := place t.grammar.terminals s
      let compute := fun (_ : Unit) => startsFor t.productions (t.cornersAt n) s
      if symbolAt t.grammar.terminals i = s then
        match t.starts[n]? with
        | none => compute ()
        | some row => match row[i]? with
          | none => compute ()
          | some starts => starts
      else compute ()
    empties := fun n => match t.empties[n]? with
      | none => startsWith (productionsAt t.productions) none (t.cornersAt n)
      | some starts => starts }

theorem cornersAt_ofGrammar (g : Grammar) (n : Nat) :
    (ofGrammar g).cornersAt n = cornersFor g.word g.productions.toArray (firsts g.productions).toArray
      (frees g.word g.productions).toArray n := by
  simp only [cornersAt, ofGrammar]
  exact lookup_tabulate _ _ _

/-- Looking up gives what is computed. -/
theorem automaton_ofGrammar (g : Grammar) : (ofGrammar g).automaton = g.automaton := by
  have hc : ∀ n, cornersFor g.word g.productions.toArray (firsts g.productions).toArray
      (frees g.word g.productions).toArray n = Grammar.corners (fun n => edges
        (fun n => (firsts g.productions).getD n .empty) g.word
        (fun n => (frees g.word g.productions).getD n false) (g.productions.getD n [])) n := by
    intro n
    simp [cornersFor, productionsAt, Array.getD_eq_getD_getElem?, List.getD_eq_getElem?_getD]
  have hp : productionsAt g.productions.toArray = fun n => g.productions.getD n [] := by
    funext n
    simp [productionsAt, Array.getD_eq_getD_getElem?, List.getD_eq_getElem?_getD]
  unfold Grammar.automaton automaton
  congr 1
  · funext n
    simp [ofGrammar, Array.getD_eq_getD_getElem?, List.getD_eq_getElem?_getD]
  · funext n
    simp [ofGrammar, Array.getD_eq_getD_getElem?, List.getD_eq_getElem?_getD]
  · funext n s
    rw [← hc n, ← hp]
    simp only [cornersAt_ofGrammar]
    split
    · rename_i hs
      split
      · rfl
      · rename_i row hrow
        split
        · rfl
        · rename_i starts hstarts
          simp only [ofGrammar, getElem?_tabulate, lookup_tabulate] at hrow
          split at hrow
          · cases hrow
            rw [getElem?_tabulate] at hstarts
            split at hstarts
            · cases hstarts
              have hs' : symbolAt g.terminals (place (ofGrammar g).grammar.terminals s) = s := hs
              simp only [hs', startsFor]
            · cases hstarts
          · cases hrow
    · rfl
  · funext n
    rw [← hc n, ← hp]
    simp only [cornersAt_ofGrammar]
    split
    · rfl
    · rename_i starts hstarts
      simp only [ofGrammar, getElem?_tabulate, lookup_tabulate] at hstarts
      split at hstarts
      · cases hstarts
        rfl
      · cases hstarts

end Tables

end EmbeddedScripts.Grammar
