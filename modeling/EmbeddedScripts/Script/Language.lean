import EmbeddedScripts.Grammar.Parser
import EmbeddedScripts.Script.Rules
import EmbeddedScripts.Script.Scanner

/-!
# Concrete syntax trees of scripts

`language` puts the grammar of scripts, its lexicon and the tokens that depend on their surroundings
together, and `syntaxTree` is the tree of a script. A text that the grammar does not allow gets a tree
that is one flawed node.
-/

namespace EmbeddedScripts.Script

open Grammar (TokenSet TokenRule Symbol Language Lexeme Automaton Tables)

/-! ## Reading tokens -/

/-- The terminals that are described by a pattern, with their rules. -/
def lexicon : List (Terminal × TokenRule) :=
  Terminal.all.filterMap fun t => t.rule?.map (t, ·)

/-- The keywords by their spelling. -/
def keywords : List (String × Terminal) :=
  Terminal.all.filterMap fun t =>
    if t.isKeyword then t.spelling?.map (·, t) else none

/-- The keywords as a set. -/
def keywordSet : TokenSet := .ofList (keywords.map (·.2.index))

/-- The terminals that are no identifiers where words are reserved. -/
def reservedSet : TokenSet := .ofList (Terminal.reserved.map (·.index))

/-- The rules to read the next token with. A keyword is read as an identifier; a word operator is
also read where it is reserved. -/
def rulesFor (valid : TokenSet) (reserves : Bool) : List (Nat × TokenRule) :=
  let word := valid.has Terminal.identifier.index || valid.bits &&& keywordSet.bits != 0
  lexicon.filterMap fun (t, rule) =>
    let wanted :=
      if t = .identifier then word
      else if t.isWordOperator then valid.has t.index || reserves
      else valid.has t.index && !keywordSet.has t.index
    if wanted then some (t.index, rule) else none

/-- A token in characters from `here` on. -/
def lexemeAt (here : Cursor) (s : Scanner.Scanned) : Lexeme :=
  let start := here.skip s.start
  { token := s.token.index, start, stop := start.skip (s.stop - s.start) }

/-- The keyword that the text between two cursors spells. -/
def keywordOf (start stop : Cursor) : Option Terminal :=
  keywords.lookup (String.ofList (start.textTo stop.mark.offset))

/-- Reads the next token. A byte order mark at the very beginning is passed over. -/
def lex (valid : TokenSet) (reserves : Bool) (here : Cursor) : Option Lexeme :=
  let here := if here.mark.offset = 0 && here.rest.head? == some '\ufeff' then here.skip 1 else here
  match Scanner.scan (fun t => valid.has t.index) here.rest with
  | some s => some (lexemeAt here s)
  | none =>
    let endToken := Terminal.endOfText.index
    let endToken := if valid.has endToken then some endToken else none
    match Grammar.longest isSeparator (rulesFor valid reserves) endToken here with
    | none => none
    | some found =>
      if found.token = Terminal.identifier.index then
        match keywordOf found.start found.stop with
        | none => some { found with }
        | some k =>
          if valid.has k.index || (reserves && reservedSet.has k.index) then
            some { found with token := k.index, keyword := true }
          else some { found with }
      else some { found with }

/-! ## The language -/

/-- The label of the trees for a symbol of the grammar. -/
def label : Symbol → Option Label
  | .terminal t => if t < Terminal.count then (Terminal.ofNat t).label else none
  | .nonterminal n =>
    if n < Category.count then (Category.ofNat n).kind?.map fun kind => { kind } else none

/-- The tables of the grammar. -/
def tables : Tables := .ofGrammar grammar

/-- Scripts as a language. -/
def language : Language :=
  { automaton := tables.automaton
    label := label
    reserved := reservedSet.has
    lex := lex }

/-- The tree of a text that the grammar does not allow. -/
def flawedTree (text : List Char) : Tree :=
  .node { kind := "ERROR", flaw := some .unexpected } .zero (Mark.zero.advanceAll text) []

/-- The concrete syntax tree of a script. -/
def syntaxTree (text : List Char) : Tree := (language.parse text).getD (flawedTree text)

end EmbeddedScripts.Script
