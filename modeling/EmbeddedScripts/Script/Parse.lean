import EmbeddedScripts.Script.Arena
import EmbeddedScripts.Script.Language
import EmbeddedScripts.Script.Violation

/-!
# Parsing scripts

`parse` is the parser of scripts: it builds the concrete syntax tree of a source and reads it into a
parse tree, or rejects it at the first node that breaks a rule. A `ScriptParser` is any function of
that shape.
-/

namespace EmbeddedScripts

/-- How to read a script. -/
structure ParseOptions where
  mode : SourceMode := .script
  /-- The number of the first line of the source. -/
  startLine : Nat := 1
deriving DecidableEq, Repr, Inhabited

/-- Why a script has no parse tree. -/
inductive ParseError where
  /-- A node at the position breaks a rule. -/
  | rejected (violation : Script.Violation) (pos : LineColumn)
  /-- The parser gives its own reason. -/
  | invalid (reason : String)
  /-- The parser itself cannot be used. -/
  | unavailable (reason : String)
deriving DecidableEq, Repr, Inhabited

def ParseError.message : ParseError → String
  | rejected v p =>
    "Syntax error: " ++ v.message ++ " at " ++ toString p.line ++ ":" ++ toString p.column
  | invalid reason => "Syntax error: " ++ reason
  | unavailable reason => "Language error: " ++ reason

/-- A parser of the contents of one script. -/
abbrev ScriptParser := String → ParseOptions → Except ParseError ParseTree

namespace Script

/-- Reads a concrete syntax tree of `text` into a parse tree. -/
def readTree (text : String) (options : ParseOptions) (root : Tree) : Except ParseError ParseTree :=
  let source := Source.ofString text options.startLine
  match firstViolation? options.mode text [(root, .top options.mode)] with
  | some (t, v) => .error (.rejected v (source.columns.lineColumn t.start options.startLine))
  | none =>
    let nodes := arena source root
    let parts := lexicalParts source root
    .ok
      { nodes := nodes.nodes
        statements := nodes.statements
        comments := parts.comments
        tokens := parts.tokens
        span := source.span root }

theorem readTree_eq_ok_iff {text : String} {options : ParseOptions} {root : Tree}
    {tree : ParseTree} :
    readTree text options root = .ok tree ↔
      firstViolation? options.mode text [(root, .top options.mode)] = none ∧
        let source := Source.ofString text options.startLine
        tree =
          { nodes := (arena source root).nodes
            statements := (arena source root).statements
            comments := (lexicalParts source root).comments
            tokens := (lexicalParts source root).tokens
            span := source.span root } := by
  unfold readTree
  cases firstViolation? options.mode text [(root, .top options.mode)] with
  | some p => simp
  | none => simp [eq_comm]

/-- The parser of scripts over a grammar, which is any function from texts to their trees. -/
def parserOf (grammar : List Char → Tree) : ScriptParser := fun text options =>
  readTree text options (grammar text.toList)

/-- The parser of scripts. -/
def parse : ScriptParser := parserOf syntaxTree

end Script

end EmbeddedScripts
