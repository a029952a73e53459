import EmbeddedScripts.Tree

/-!
# Grammar rules and productions

A grammar is written as one `Rule` per nonterminal. `Rule.phrases` turns a rule into the plain
sequences of symbols it allows, each step with the annotations in force there, and
`Phrase.inlined` replaces the nonterminals that are to disappear by their own phrases.
-/

namespace EmbeddedScripts.Grammar

/-- A symbol of a grammar, by its index. -/
inductive Symbol where
  | terminal (index : Nat)
  | nonterminal (index : Nat)
deriving DecidableEq, Repr, Inhabited

/-- How a construct groups with a copy of itself. -/
inductive Assoc where
  | left
  | right
deriving DecidableEq, Repr

/-- The name a symbol takes at one place of a rule instead of its own. -/
structure Guise where
  kind : String
  named : Bool
deriving DecidableEq, Repr

/-- The annotations in force at a place of a rule. -/
structure Scope where
  /-- The precedence tier. -/
  tier : Option Nat := none
  assoc : Option Assoc := none
  guise : Option Guise := none
  field : Option String := none
  /-- Whether no word is reserved here. -/
  free : Bool := false
deriving DecidableEq, Repr, Inhabited

/-- The right-hand side of a grammar rule. -/
inductive Rule where
  | blank
  | symbol (s : Symbol)
  | seq (rules : List Rule)
  | choice (rules : List Rule)
  /-- Sets the precedence tier. -/
  | tier (tier : Nat) (rule : Rule)
  | assoc (assoc : Assoc) (rule : Rule)
  /-- Adds to the weight by which one of several parses of a text is chosen. -/
  | weight (weight : Int) (rule : Rule)
  | guise (guise : Guise) (rule : Rule)
  | field (field : String) (rule : Rule)
  /-- Lifts the reservation of words. -/
  | free (rule : Rule)
deriving Inhabited

/-- One step of a production. -/
structure Step where
  symbol : Symbol
  scope : Scope
deriving DecidableEq, Repr, Inhabited

/-- A sequence of steps that a rule allows, with its weight. -/
structure Phrase where
  steps : List Step
  weight : Int
deriving DecidableEq, Repr, Inhabited

/-- Of two weights the one further from zero; the first if they are equally far. -/
def heavier (a b : Int) : Int := if a.natAbs < b.natAbs then b else a

namespace Phrase

def empty : Phrase := ⟨[], 0⟩

def append (p q : Phrase) : Phrase := ⟨p.steps ++ q.steps, heavier p.weight q.weight⟩

/-- Changes the annotations of the last step. -/
def mapLast (f : Scope → Scope) (p : Phrase) : Phrase :=
  match p.steps.reverse with
  | [] => p
  | s :: rest => { p with steps := (({ s with scope := f s.scope } :: rest).reverse) }

end Phrase

mutual

/-- The phrases of a rule under the annotations `scope`; `final` says that the rule stands at the end
of the whole right-hand side. A tier or associativity that ends earlier does not hold for the step
before its end. -/
def Rule.phrases (scope : Scope) (final : Bool) : Rule → List Phrase
  | .blank => [.empty]
  | .symbol s => [⟨[⟨s, scope⟩], 0⟩]
  | .seq rules => phrasesOfSeq scope final rules
  | .choice rules => phrasesOfChoice scope final rules
  | .tier t rule =>
    let inner := rule.phrases { scope with tier := some t } final
    if final then inner else inner.map (·.mapLast ({ · with tier := scope.tier }))
  | .assoc a rule =>
    let inner := rule.phrases { scope with assoc := some a } final
    if final then inner else inner.map (·.mapLast ({ · with assoc := scope.assoc }))
  | .weight w rule =>
    (rule.phrases scope final).map fun p => { p with weight := heavier w p.weight }
  | .guise g rule => rule.phrases { scope with guise := some g } final
  | .field f rule => rule.phrases { scope with field := some f } final
  | .free rule => rule.phrases { scope with free := true } final

/-- The phrases of a sequence of rules. -/
def phrasesOfSeq (scope : Scope) (final : Bool) : List Rule → List Phrase
  | [] => [.empty]
  | rule :: rules =>
    let heads := rule.phrases scope (final && rules.isEmpty)
    let tails := phrasesOfSeq scope final rules
    heads.flatMap fun p => tails.map p.append

/-- The phrases of a choice of rules. -/
def phrasesOfChoice (scope : Scope) (final : Bool) : List Rule → List Phrase
  | [] => []
  | rule :: rules => rule.phrases scope final ++ phrasesOfChoice scope final rules

end

/-- The phrases of a right-hand side, each once. -/
def Rule.allPhrases (rule : Rule) : List Phrase := (rule.phrases {} true).eraseDups

/-- The phrase as it stands in place of the step `s`: the name and role of `s` go to all of its
steps, the tier and associativity to its last step unless it has its own. -/
def Phrase.inPlaceOf (s : Step) (p : Phrase) : Phrase :=
  let named : Phrase := { p with steps := p.steps.map fun t =>
    { t with scope := { t.scope with
        guise := if s.scope.guise.isSome then s.scope.guise else t.scope.guise
        field := if s.scope.field.isSome then s.scope.field else t.scope.field } } }
  named.mapLast fun c => { c with
    tier := if c.tier.isNone then s.scope.tier else c.tier
    assoc := if c.assoc.isNone then s.scope.assoc else c.assoc }

/-- The phrases that result when each step for which `body` gives phrases is replaced by one of
those. `depth` bounds how deep replaced steps may nest. -/
def Phrase.inlined (body : Symbol → Option (List Phrase)) : (depth : Nat) → Phrase → List Phrase
  | 0, p => [p]
  | depth + 1, p =>
    p.steps.foldl (fun done s =>
      let options : List Phrase := match body s.symbol with
        | none => [⟨[s], 0⟩]
        | some phrases => phrases.flatMap fun q => (q.inPlaceOf s).inlined body depth
      done.flatMap fun d => options.map d.append) [⟨[], p.weight⟩]

/-- A rule of the grammar in plain form. -/
structure Production where
  /-- Its place among the productions of its nonterminal. -/
  index : Nat
  /-- The nonterminal it is a form of. -/
  left : Nat
  steps : List Step
  weight : Int
deriving DecidableEq, Repr, Inhabited

end EmbeddedScripts.Grammar
