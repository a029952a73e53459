/-!
# Categories of the script language

The nonterminals of the script grammar: its categories, and the repetitions of something one or more
times. A category without a kind shows the trees of its parts.
-/

namespace EmbeddedScripts.Script

/-- A nonterminal of the script grammar. -/
inductive Category where
  | program | exportStatement | namespaceExport | exportClause | exportSpecifier
  | moduleExportName | declaration | importWord | importStatement | importClause | fromClause
  | namespaceImport | namedImports | importSpecifier | importAttribute | statement
  | expressionStatement | variableDeclaration | lexicalDeclaration | usingDeclaration
  | variableDeclarator | statementBlock | elseClause | ifStatement | switchStatement
  | forStatement | forInStatement | forHeader | whileStatement | doStatement | tryStatement
  | withStatement | breakStatement | continueStatement | debuggerStatement | returnStatement
  | throwStatement | emptyStatement | labeledStatement | switchBody | switchCase | switchDefault
  | catchClause | finallyClause | parenthesizedExpression | expressions | expression
  | primaryExpression | yieldExpression | object | objectPattern | assignmentPattern
  | objectAssignmentPattern | array | arrayPattern | anyJsxElement | jsxElement | jsxExpression
  | jsxChild | jsxOpeningElement | jsxName | nestedIdentifier | jsxNamespaceName | jsxElementName
  | jsxClosingElement | jsxSelfClosingElement | anyJsxAttribute | jsxAttributeName | jsxAttribute
  | jsxString | jsxAttributeValue | classExpression | classDeclaration | classHeritage
  | functionExpression | functionDeclaration | generatorFunction | generatorFunctionDeclaration
  | arrowFunction | callSignature | formalParameter | callExpression | newExpression
  | awaitExpression | memberExpression | subscriptExpression | assignable | assignmentExpression
  | updatable | augmentedAssignmentExpression | initializer | destructuringPattern
  | spreadElement | ternaryExpression | binaryExpression | unaryExpression | updateExpression
  | sequenceExpression | string | templateString | templateSubstitution | regex | plainIdentifier
  | metaProperty | arguments | decorator | decoratorMemberExpression | decoratorCallExpression
  | classBody | fieldDefinition | formalParameters | classStaticBlock | pattern | restPattern
  | methodDefinition | pair | pairPattern | propertyName | computedPropertyName | softKeyword
  | statementEnd
deriving DecidableEq, Repr, Inhabited

/-- Something that is repeated one or more times. -/
inductive Repetition where
  | statements | decorators | exportSpecifiers | importSpecifiers | declarators | switchClauses
  | members | patternMembers | elements | patternElements | jsxChildren | jsxAttributes
  | jsxDoubleParts | jsxSingleParts | moreExpressions | doubleParts | singleParts | templateParts
  | classMembers | moreParameters
deriving DecidableEq, Repr, Inhabited

/-- A tier of precedence. -/
inductive Tier where
  | member | templateCall | newTier | call | unaryVoid | binaryExp | binaryTimes | binaryPlus
  | binaryShift | binaryCompare | binaryRelation | binaryEquality | bitwiseAnd | bitwiseXor
  | bitwiseOr | logicalAnd | logicalOr | ternary | assign | declaration | literal | objectTier
deriving DecidableEq, Repr, Inhabited

namespace Category

/-- How many categories there are. -/
def count : Nat := 121

def all : List Category := (List.range count).map ofNat

/-- The kind of the trees for a category. -/
def kind? : Category → Option String
  | .program => some "program"
  | .exportStatement => some "export_statement"
  | .namespaceExport => some "namespace_export"
  | .exportClause => some "export_clause"
  | .exportSpecifier => some "export_specifier"
  | .importWord => some "import"
  | .importStatement => some "import_statement"
  | .importClause => some "import_clause"
  | .namespaceImport => some "namespace_import"
  | .namedImports => some "named_imports"
  | .importSpecifier => some "import_specifier"
  | .importAttribute => some "import_attribute"
  | .expressionStatement => some "expression_statement"
  | .variableDeclaration => some "variable_declaration"
  | .lexicalDeclaration => some "lexical_declaration"
  | .usingDeclaration => some "using_declaration"
  | .variableDeclarator => some "variable_declarator"
  | .statementBlock => some "statement_block"
  | .elseClause => some "else_clause"
  | .ifStatement => some "if_statement"
  | .switchStatement => some "switch_statement"
  | .forStatement => some "for_statement"
  | .forInStatement => some "for_in_statement"
  | .whileStatement => some "while_statement"
  | .doStatement => some "do_statement"
  | .tryStatement => some "try_statement"
  | .withStatement => some "with_statement"
  | .breakStatement => some "break_statement"
  | .continueStatement => some "continue_statement"
  | .debuggerStatement => some "debugger_statement"
  | .returnStatement => some "return_statement"
  | .throwStatement => some "throw_statement"
  | .emptyStatement => some "empty_statement"
  | .labeledStatement => some "labeled_statement"
  | .switchBody => some "switch_body"
  | .switchCase => some "switch_case"
  | .switchDefault => some "switch_default"
  | .catchClause => some "catch_clause"
  | .finallyClause => some "finally_clause"
  | .parenthesizedExpression => some "parenthesized_expression"
  | .yieldExpression => some "yield_expression"
  | .object => some "object"
  | .objectPattern => some "object_pattern"
  | .assignmentPattern => some "assignment_pattern"
  | .objectAssignmentPattern => some "object_assignment_pattern"
  | .array => some "array"
  | .arrayPattern => some "array_pattern"
  | .jsxElement => some "jsx_element"
  | .jsxExpression => some "jsx_expression"
  | .jsxOpeningElement => some "jsx_opening_element"
  | .nestedIdentifier => some "nested_identifier"
  | .jsxNamespaceName => some "jsx_namespace_name"
  | .jsxClosingElement => some "jsx_closing_element"
  | .jsxSelfClosingElement => some "jsx_self_closing_element"
  | .jsxAttribute => some "jsx_attribute"
  | .classExpression => some "class"
  | .classDeclaration => some "class_declaration"
  | .classHeritage => some "class_heritage"
  | .functionExpression => some "function_expression"
  | .functionDeclaration => some "function_declaration"
  | .generatorFunction => some "generator_function"
  | .generatorFunctionDeclaration => some "generator_function_declaration"
  | .arrowFunction => some "arrow_function"
  | .callExpression => some "call_expression"
  | .newExpression => some "new_expression"
  | .awaitExpression => some "await_expression"
  | .memberExpression => some "member_expression"
  | .subscriptExpression => some "subscript_expression"
  | .assignmentExpression => some "assignment_expression"
  | .augmentedAssignmentExpression => some "augmented_assignment_expression"
  | .spreadElement => some "spread_element"
  | .ternaryExpression => some "ternary_expression"
  | .binaryExpression => some "binary_expression"
  | .unaryExpression => some "unary_expression"
  | .updateExpression => some "update_expression"
  | .sequenceExpression => some "sequence_expression"
  | .string => some "string"
  | .templateString => some "template_string"
  | .templateSubstitution => some "template_substitution"
  | .regex => some "regex"
  | .metaProperty => some "meta_property"
  | .arguments => some "arguments"
  | .decorator => some "decorator"
  | .decoratorMemberExpression => some "decorator_member_expression"
  | .decoratorCallExpression => some "decorator_call_expression"
  | .classBody => some "class_body"
  | .fieldDefinition => some "field_definition"
  | .formalParameters => some "formal_parameters"
  | .classStaticBlock => some "class_static_block"
  | .restPattern => some "rest_pattern"
  | .methodDefinition => some "method_definition"
  | .pair => some "pair"
  | .pairPattern => some "pair_pattern"
  | .computedPropertyName => some "computed_property_name"
  | _ => none

end Category

/-- All repetitions. -/
def Repetition.all : List Repetition := (List.range 20).map Repetition.ofNat

end EmbeddedScripts.Script
