import EmbeddedScripts.Script.Declarations
import EmbeddedScripts.Script.Mode
import EmbeddedScripts.Tree.Walk

/-!
# Violations

A script that the grammar allows can still break a rule that depends on what surrounds a node: a
`return` outside of a function, a name declared twice. `violation?` checks one node in its `Context`,
and `firstViolation?` finds the first node of a tree, in the order of the text, that breaks a rule.
-/

namespace EmbeddedScripts.Script

/-- The ways in which a node makes a script unacceptable. -/
inductive Violation where
  /-- The text fits no rule of the grammar. -/
  | unexpected
  /-- The grammar needs a token that is not there. -/
  | missing (kind : String)
  /-- An element of markup is used as an expression. -/
  | markupElement
  /-- An import or export stands in a classic script. -/
  | moduleDeclaration
  | strayReturn
  | undefinedLabel
  | strayBreak
  | strayContinue
  | strayYield
  | strayAwait
  | invalidBigInt
  /-- The name is declared twice in one block. -/
  | redeclared (name : String)
deriving DecidableEq, Repr, Inhabited

/-- The wording of a violation. -/
def Violation.message : Violation → String
  | unexpected => "Unexpected token"
  | missing kind => "Missing " ++ kind
  | markupElement => "JSX is not allowed in scripts"
  | moduleDeclaration => "Module declarations require module mode"
  | strayReturn => "'return' outside of function"
  | undefinedLabel => "Undefined label"
  | strayBreak => "Unsyntactic break"
  | strayContinue => "Unsyntactic continue"
  | strayYield => "'yield' outside of generator"
  | strayAwait => "'await' is only allowed within async functions"
  | invalidBigInt => "Invalid BigInt literal"
  | redeclared name => "Identifier '" ++ name ++ "' has already been declared"

/-! ## Contexts -/

/-- The kinds of the nodes that open a function body. -/
def functionKinds : List String :=
  ["function_declaration", "function_expression", "function", "generator_function_declaration",
    "generator_function", "arrow_function", "method_definition"]

/-- The kinds of functions that are always generators. -/
def generatorKinds : List String := ["generator_function_declaration", "generator_function"]

def loopKinds : List String :=
  ["for_statement", "for_in_statement", "while_statement", "do_statement"]

/-- The kinds of statements that only a module holds. -/
def moduleKinds : List String := ["import_statement", "export_statement"]

/-- Whether a node opens a function body. -/
def opensFunction (t : Tree) : Bool := t.named && functionKinds.contains t.kind

/-- Whether a function is a generator. -/
def isGenerator (t : Tree) : Bool :=
  generatorKinds.contains t.kind || (t.kind == "method_definition" && t.hasChild "*")

/-- Where a node stands: what the innermost function around it is, and what is around the node inside
that function. -/
structure Context where
  function : Bool := false
  generator : Bool := false
  async : Bool := false
  loop : Bool := false
  /-- Whether a loop or a switch is around. -/
  breakable : Bool := false
  labeled : Bool := false
deriving DecidableEq, Repr, Inhabited

/-- The context of the children of `t`. -/
def Context.enter (c : Context) (t : Tree) : Context :=
  if opensFunction t then
    { function := true, generator := isGenerator t, async := t.hasChild "async" }
  else if loopKinds.contains t.kind then { c with loop := true, breakable := true }
  else if t.kind == "switch_statement" then { c with breakable := true }
  else if t.kind == "labeled_statement" then { c with labeled := true }
  else c

/-- The context of the top of a script. A module may wait at its top. -/
def Context.top (mode : SourceMode) : Context := { async := mode == .module }

/-! ## The rules -/

/-- Whether the text of a number is one: a big integer has no fraction, no exponent and no leading
zero. -/
def isValidNumber (text : List Char) : Bool :=
  if text.getLast? == some 'n' then
    let digits := text.dropLast.map Char.toLower
    match digits with
    | '0' :: 'x' :: _ => true
    | '0' :: 'o' :: _ => true
    | '0' :: 'b' :: _ => true
    | '0' :: _ :: _ => false
    | _ => !(digits.contains '.' || digits.contains 'e')
  else true

/-- The rule that the node breaks in its context. -/
def violation? (mode : SourceMode) (source : String) (c : Context) (t : Tree) : Option Violation :=
  let require (holds : Bool) (v : Violation) : Option Violation := if holds then none else some v
  match t.label.flaw with
  | some .unexpected => some .unexpected
  | some .missing => some (.missing t.kind)
  | none =>
    if "jsx_".isPrefixOf t.kind then some .markupElement
    else if mode == .script && moduleKinds.contains t.kind then some .moduleDeclaration
    else match t.kind with
      | "return_statement" => require c.function .strayReturn
      | "break_statement" =>
        if t.hasChild "statement_identifier" then require c.labeled .undefinedLabel
        else require c.breakable .strayBreak
      | "continue_statement" => require c.loop .strayContinue
      | "yield_expression" => require c.generator .strayYield
      | "await_expression" => require c.async .strayAwait
      | "number" => require (isValidNumber (t.text source).toList) .invalidBigInt
      | "program" => (redeclaredName? source t).map .redeclared
      | "statement_block" => (redeclaredName? source t).map .redeclared
      | _ => none

/-- The number of nodes of the trees of a list of pairs. -/
def pendingSize {α : Type} (pending : List (Tree × α)) : Nat := Tree.sizeAll (pending.map (·.1))

/-- The first node of the pending trees, in the order of the text, that breaks a rule. -/
def firstViolation? (mode : SourceMode) (source : String) (pending : List (Tree × Context)) :
    Option (Tree × Violation) :=
  match pending with
  | [] => none
  | (t, c) :: rest =>
    match violation? mode source c t with
    | some v => some (t, v)
    | none => firstViolation? mode source (t.children.map (·, c.enter t) ++ rest)
termination_by pendingSize pending
decreasing_by
  simp [pendingSize, Tree.sizeAll, Tree.size_eq t, Function.comp_def]

end EmbeddedScripts.Script
