import EmbeddedScripts.Grammar.Corner
import EmbeddedScripts.Script.Category
import EmbeddedScripts.Script.Terminal

/-!
# The grammar of scripts

`Category.rule` gives the right-hand side of each category, `Repetition.element` what a repetition
repeats, and `grammar` puts them together with the precedences. `grammar` is ambiguous in some places
on purpose (a parenthesised list may turn out to be the parameters of a function): which reading holds
is seen later in the text.
-/

namespace EmbeddedScripts.Script

open Grammar (Rule Symbol Assoc)
open Grammar.Rule (seq choice field)

/-! ## Writing rules -/

/-- A terminal. -/
def t (x : Terminal) : Rule := .symbol (.terminal x.index)

/-- A category. -/
def c (x : Category) : Rule := .symbol (.nonterminal x.ctorIdx)

/-- The index of a repetition among the nonterminals. -/
def Repetition.index (r : Repetition) : Nat := Category.count + r.ctorIdx

/-- A repetition, at least once. -/
def rep (r : Repetition) : Rule := .symbol (.nonterminal r.index)

def optional (r : Rule) : Rule := choice [r, .blank]

/-- A repetition, any number of times. -/
def many (r : Repetition) : Rule := optional (rep r)

/-- A rule whose tree has the kind `kind`. -/
def called (kind : String) (r : Rule) : Rule := .guise ⟨kind, true⟩ r

/-- A rule whose tree stands for the fixed spelling `text`. -/
def spelt (text : String) (r : Rule) : Rule := .guise ⟨text, false⟩ r

def tier (x : Tier) (r : Rule) : Rule := .tier x.ctorIdx r

def leftAssoc (r : Rule) : Rule := .assoc .left r

def rightAssoc (r : Rule) : Rule := .assoc .right r

/-! ## The rules -/

/-- The operators between two operands, with their grouping and tier. -/
def binaryOperators : List (Terminal × Assoc × Tier) :=
  [(.andAnd, .left, .logicalAnd), (.orOr, .left, .logicalOr), (.shr, .left, .binaryShift),
   (.ushr, .left, .binaryShift), (.shl, .left, .binaryShift), (.amp, .left, .bitwiseAnd),
   (.caret, .left, .bitwiseXor), (.bar, .left, .bitwiseOr), (.plus, .left, .binaryPlus),
   (.minus, .left, .binaryPlus), (.star, .left, .binaryTimes), (.slash, .left, .binaryTimes),
   (.percent, .left, .binaryTimes), (.pow, .right, .binaryExp), (.lt, .left, .binaryRelation),
   (.le, .left, .binaryRelation), (.eqEq, .left, .binaryEquality),
   (.eqEqEq, .left, .binaryEquality), (.notEq, .left, .binaryEquality),
   (.notEqEq, .left, .binaryEquality), (.ge, .left, .binaryRelation),
   (.gt, .left, .binaryRelation), (.nullish, .left, .ternary),
   (.kwInstanceof, .left, .binaryRelation), (.kwIn, .left, .binaryRelation)]

/-- The right-hand side of a category. -/
def Category.rule : Category → Rule
  | .program => seq [optional (t .hashBang), many .statements]
  | .exportStatement =>
    choice [
      seq [
        t .kwExport,
        choice [
          seq [t .star, c .fromClause], seq [c .namespaceExport, c .fromClause],
          seq [c .exportClause, c .fromClause], c .exportClause],
        c .statementEnd],
      seq [
        many .decorators, t .kwExport,
        choice [
          field "declaration" (c .declaration),
          seq [
            t .kwDefault,
            choice [
              field "declaration" (c .declaration),
              seq [field "value" (c .expression), c .statementEnd]]]]]]
  | .namespaceExport => seq [t .star, t .kwAs, c .moduleExportName]
  | .exportClause =>
    seq [
      t .lbrace, optional (seq [c .exportSpecifier, many .exportSpecifiers]), optional (t .comma),
      t .rbrace]
  | .exportSpecifier =>
    seq [
      field "name" (c .moduleExportName),
      optional (seq [t .kwAs, field "alias" (c .moduleExportName)])]
  | .moduleExportName => choice [t .identifier, c .string, t .kwDefault]
  | .declaration =>
    choice [
      c .functionDeclaration, c .generatorFunctionDeclaration, c .classDeclaration,
      c .lexicalDeclaration, c .variableDeclaration, c .usingDeclaration]
  | .importWord => t .kwImport
  | .importStatement =>
    seq [
      t .kwImport, choice [seq [c .importClause, c .fromClause], field "source" (c .string)],
      optional (c .importAttribute), c .statementEnd]
  | .importClause =>
    choice [
      c .namespaceImport, c .namedImports,
      seq [t .identifier, optional (seq [t .comma, choice [c .namespaceImport, c .namedImports]])]]
  | .fromClause => seq [t .kwFrom, field "source" (c .string)]
  | .namespaceImport => seq [t .star, t .kwAs, t .identifier]
  | .namedImports =>
    seq [
      t .lbrace, optional (seq [c .importSpecifier, many .importSpecifiers]), optional (t .comma),
      t .rbrace]
  | .importSpecifier =>
    choice [
      field "name" (t .identifier),
      seq [field "name" (c .moduleExportName), t .kwAs, field "alias" (t .identifier)]]
  | .importAttribute => seq [t .kwWith, c .object]
  | .statement =>
    choice [
      c .exportStatement, c .importStatement, c .debuggerStatement, c .expressionStatement,
      c .declaration, c .statementBlock, c .ifStatement, c .switchStatement, c .forStatement,
      c .forInStatement, c .whileStatement, c .doStatement, c .tryStatement, c .withStatement,
      c .breakStatement, c .continueStatement, c .returnStatement, c .throwStatement,
      c .emptyStatement, c .labeledStatement]
  | .expressionStatement => seq [c .expressions, c .statementEnd]
  | .variableDeclaration =>
    seq [t .kwVar, seq [c .variableDeclarator, many .declarators], c .statementEnd]
  | .lexicalDeclaration =>
    seq [
      field "kind" (choice [t .kwLet, t .kwConst]),
      seq [c .variableDeclarator, many .declarators], c .statementEnd]
  | .usingDeclaration =>
    seq [
      field "kind" (choice [t .kwUsing, seq [t .kwAwait, t .kwUsing]]),
      seq [c .variableDeclarator, many .declarators], c .statementEnd]
  | .variableDeclarator =>
    seq [
      field "name" (choice [
        t .identifier, called "identifier" (t .kwOf), c .destructuringPattern]),
      optional (c .initializer)]
  | .statementBlock =>
    rightAssoc (seq [t .lbrace, many .statements, t .rbrace, optional (t .automaticSemicolon)])
  | .elseClause => seq [t .kwElse, c .statement]
  | .ifStatement =>
    rightAssoc (seq [
      t .kwIf, field "condition" (c .parenthesizedExpression), field "consequence" (c .statement),
      optional (field "alternative" (c .elseClause))])
  | .switchStatement =>
    seq [t .kwSwitch, field "value" (c .parenthesizedExpression), field "body" (c .switchBody)]
  | .forStatement =>
    seq [
      t .kwFor, t .lparen,
      choice [
        field "initializer" (choice [c .lexicalDeclaration, c .variableDeclaration]),
        seq [field "initializer" (c .expressions), t .semicolon],
        field "initializer" (c .emptyStatement)],
      field "condition" (choice [seq [c .expressions, t .semicolon], c .emptyStatement]),
      field "increment" (optional (c .expressions)), t .rparen, field "body" (c .statement)]
  | .forInStatement =>
    seq [t .kwFor, optional (t .kwAwait), c .forHeader, field "body" (c .statement)]
  | .forHeader =>
    seq [
      t .lparen,
      choice [
        field "left" (choice [c .assignable, c .parenthesizedExpression]),
        seq [
          field "kind" (t .kwVar),
          field "left" (choice [
            t .identifier, called "identifier" (t .kwOf), c .destructuringPattern]),
          optional (c .initializer)],
        seq [
          field "kind" (choice [t .kwLet, t .kwConst]),
          field "left" (choice [
            t .identifier, called "identifier" (t .kwOf), c .destructuringPattern]),
          optional (t .automaticSemicolon)],
        seq [
          field "kind" (choice [t .kwUsing, seq [t .kwAwait, t .kwUsing]]),
          field "left" (choice [
            t .identifier, called "identifier" (t .kwOf), c .destructuringPattern]),
          optional (t .automaticSemicolon)]],
      field "operator" (choice [t .kwIn, t .kwOf]), field "right" (c .expressions), t .rparen]
  | .whileStatement =>
    seq [t .kwWhile, field "condition" (c .parenthesizedExpression), field "body" (c .statement)]
  | .doStatement =>
    rightAssoc (seq [
      t .kwDo, field "body" (c .statement), t .kwWhile,
      field "condition" (c .parenthesizedExpression), optional (c .statementEnd)])
  | .tryStatement =>
    seq [
      t .kwTry, field "body" (c .statementBlock), optional (field "handler" (c .catchClause)),
      optional (field "finalizer" (c .finallyClause))]
  | .withStatement =>
    seq [t .kwWith, field "object" (c .parenthesizedExpression), field "body" (c .statement)]
  | .breakStatement =>
    seq [
      t .kwBreak, field "label" (optional (called "statement_identifier" (t .identifier))),
      c .statementEnd]
  | .continueStatement =>
    seq [
      t .kwContinue, field "label" (optional (called "statement_identifier" (t .identifier))),
      c .statementEnd]
  | .debuggerStatement => seq [t .kwDebugger, c .statementEnd]
  | .returnStatement => seq [t .kwReturn, optional (c .expressions), c .statementEnd]
  | .throwStatement => seq [t .kwThrow, c .expressions, c .statementEnd]
  | .emptyStatement => t .semicolon
  | .labeledStatement =>
    .weight (-1) (seq [
      field "label" (called "statement_identifier" (choice [t .identifier, c .softKeyword])),
      t .colon, field "body" (c .statement)])
  | .switchBody => seq [t .lbrace, many .switchClauses, t .rbrace]
  | .switchCase =>
    seq [t .kwCase, field "value" (c .expressions), t .colon, field "body" (many .statements)]
  | .switchDefault => seq [t .kwDefault, t .colon, field "body" (many .statements)]
  | .catchClause =>
    seq [
      t .kwCatch,
      optional (seq [
        t .lparen, field "parameter" (choice [t .identifier, c .destructuringPattern]), t .rparen]),
      field "body" (c .statementBlock)]
  | .finallyClause => seq [t .kwFinally, field "body" (c .statementBlock)]
  | .parenthesizedExpression => seq [t .lparen, c .expressions, t .rparen]
  | .expressions => choice [c .expression, c .sequenceExpression]
  | .expression =>
    choice [
      c .primaryExpression, c .anyJsxElement, c .assignmentExpression,
      c .augmentedAssignmentExpression, c .awaitExpression, c .unaryExpression,
      c .binaryExpression, c .ternaryExpression, c .updateExpression, c .newExpression,
      c .yieldExpression]
  | .primaryExpression =>
    choice [
      c .subscriptExpression, c .memberExpression, c .parenthesizedExpression, c .plainIdentifier,
      called "identifier" (c .softKeyword), t .kwThis, t .kwSuper, t .number, c .string,
      c .templateString, c .regex, t .kwTrue, t .kwFalse, t .kwNull, c .object, c .array,
      c .functionExpression, c .arrowFunction, c .generatorFunction, c .classExpression,
      c .metaProperty, c .callExpression]
  | .yieldExpression =>
    rightAssoc (seq [t .kwYield, optional (choice [seq [t .star, c .expression], c .expression])])
  | .object =>
    tier .objectTier (seq [
      t .lbrace,
      optional (seq [
        optional (choice [
          c .pair, c .spreadElement, c .methodDefinition,
          called "shorthand_property_identifier" (choice [t .identifier, c .softKeyword])]),
        many .members]),
      t .rbrace])
  | .objectPattern =>
    tier .objectTier (seq [
      t .lbrace,
      optional (seq [
        optional (choice [
          c .pairPattern, c .restPattern, c .objectAssignmentPattern,
          called "shorthand_property_identifier_pattern" (choice [t .identifier, c .softKeyword])]),
        many .patternMembers]),
      t .rbrace])
  | .assignmentPattern =>
    seq [field "left" (c .pattern), t .assign, field "right" (c .expression)]
  | .objectAssignmentPattern =>
    seq [
      field "left" (choice [
        called "shorthand_property_identifier_pattern" (choice [c .softKeyword, t .identifier]),
        c .destructuringPattern]),
      t .assign, field "right" (c .expression)]
  | .array =>
    seq [
      t .lbracket,
      optional (seq [optional (choice [c .expression, c .spreadElement]), many .elements]),
      t .rbracket]
  | .arrayPattern =>
    seq [
      t .lbracket,
      optional (seq [optional (choice [c .pattern, c .assignmentPattern]), many .patternElements]),
      t .rbracket]
  | .anyJsxElement => choice [c .jsxElement, c .jsxSelfClosingElement]
  | .jsxElement =>
    seq [
      field "open_tag" (c .jsxOpeningElement), many .jsxChildren,
      field "close_tag" (c .jsxClosingElement)]
  | .jsxExpression =>
    seq [
      t .lbrace, optional (choice [c .expression, c .sequenceExpression, c .spreadElement]),
      t .rbrace]
  | .jsxChild => choice [t .jsxText, t .characterReference, c .anyJsxElement, c .jsxExpression]
  | .jsxOpeningElement =>
    .weight (-1) (seq [
      t .lt, optional (seq [field "name" (c .jsxElementName), many .jsxAttributes]), t .gt])
  | .jsxName => choice [called "identifier" (t .jsxIdentifier), t .identifier]
  | .nestedIdentifier =>
    tier .member (seq [
      field "object" (choice [t .identifier, called "member_expression" (c .nestedIdentifier)]),
      t .dot, field "property" (called "property_identifier" (t .identifier))])
  | .jsxNamespaceName => seq [c .jsxName, t .colon, c .jsxName]
  | .jsxElementName =>
    choice [c .jsxName, called "member_expression" (c .nestedIdentifier), c .jsxNamespaceName]
  | .jsxClosingElement => seq [t .ltSlash, optional (field "name" (c .jsxElementName)), t .gt]
  | .jsxSelfClosingElement =>
    seq [t .lt, field "name" (c .jsxElementName), many .jsxAttributes, t .slashGt]
  | .anyJsxAttribute => choice [c .jsxAttribute, c .jsxExpression]
  | .jsxAttributeName => choice [called "property_identifier" (c .jsxName), c .jsxNamespaceName]
  | .jsxAttribute => seq [c .jsxAttributeName, optional (seq [t .assign, c .jsxAttributeValue])]
  | .jsxString =>
    choice [
      seq [t .dquote, many .jsxDoubleParts, t .dquote],
      seq [t .quote, many .jsxSingleParts, t .quote]]
  | .jsxAttributeValue =>
    choice [called "string" (c .jsxString), c .jsxExpression, c .anyJsxElement]
  | .classExpression =>
    tier .literal (seq [
      many .decorators, t .kwClass, field "name" (optional (t .identifier)),
      optional (c .classHeritage), field "body" (c .classBody)])
  | .classDeclaration =>
    tier .declaration (seq [
      many .decorators, t .kwClass, field "name" (t .identifier), optional (c .classHeritage),
      field "body" (c .classBody), optional (t .automaticSemicolon)])
  | .classHeritage => seq [t .kwExtends, c .expression]
  | .functionExpression =>
    tier .literal (seq [
      optional (t .kwAsync), t .kwFunction, field "name" (optional (t .identifier)),
      c .callSignature, field "body" (c .statementBlock)])
  | .functionDeclaration =>
    tier .declaration (rightAssoc (seq [
      optional (t .kwAsync), t .kwFunction, field "name" (t .identifier), c .callSignature,
      field "body" (c .statementBlock), optional (t .automaticSemicolon)]))
  | .generatorFunction =>
    tier .literal (seq [
      optional (t .kwAsync), t .kwFunction, t .star, field "name" (optional (t .identifier)),
      c .callSignature, field "body" (c .statementBlock)])
  | .generatorFunctionDeclaration =>
    tier .declaration (rightAssoc (seq [
      optional (t .kwAsync), t .kwFunction, t .star, field "name" (t .identifier),
      c .callSignature, field "body" (c .statementBlock), optional (t .automaticSemicolon)]))
  | .arrowFunction =>
    seq [
      optional (t .kwAsync),
      choice [
        field "parameter" (choice [called "identifier" (c .softKeyword), t .identifier]),
        c .callSignature],
      t .arrow, field "body" (choice [c .expression, c .statementBlock])]
  | .callSignature => field "parameters" (c .formalParameters)
  | .formalParameter => choice [c .pattern, c .assignmentPattern]
  | .callExpression =>
    choice [
      tier .call (seq [
        field "function" (choice [c .expression, c .importWord]), field "arguments" (c .arguments)]),
      tier .templateCall (seq [
        field "function" (choice [c .primaryExpression, c .newExpression]),
        field "arguments" (c .templateString)]),
      tier .member (seq [
        field "function" (c .primaryExpression), field "optional_chain" (t .optionalChain),
        field "arguments" (c .arguments)])]
  | .newExpression =>
    tier .newTier (rightAssoc (seq [
      t .kwNew, field "constructor" (choice [c .primaryExpression, c .newExpression]),
      field "arguments" (optional (.weight (1) (c .arguments)))]))
  | .awaitExpression => tier .unaryVoid (seq [t .kwAwait, c .expression])
  | .memberExpression =>
    tier .member (seq [
      field "object" (choice [c .expression, c .primaryExpression, c .importWord]),
      choice [t .dot, field "optional_chain" (t .optionalChain)],
      field "property" (choice [
        t .privateName, .free (called "property_identifier" (t .identifier))])])
  | .subscriptExpression =>
    tier .member (rightAssoc (seq [
      field "object" (choice [c .expression, c .primaryExpression]),
      optional (field "optional_chain" (t .optionalChain)), t .lbracket,
      field "index" (c .expressions), t .rbracket]))
  | .assignable =>
    choice [
      c .memberExpression, c .subscriptExpression, c .plainIdentifier,
      called "identifier" (c .softKeyword), c .destructuringPattern]
  | .assignmentExpression =>
    tier .assign (rightAssoc (seq [
      field "left" (choice [c .parenthesizedExpression, c .assignable]), t .assign,
      field "right" (c .expression)]))
  | .updatable =>
    choice [
      c .memberExpression, c .subscriptExpression, called "identifier" (c .softKeyword),
      t .identifier, c .parenthesizedExpression]
  | .augmentedAssignmentExpression =>
    tier .assign (rightAssoc (seq [
      field "left" (c .updatable),
      field "operator" (choice [
        t .plusEq, t .minusEq, t .starEq, t .slashEq, t .percentEq, t .caretEq, t .ampEq,
        t .barEq, t .shrEq, t .ushrEq, t .shlEq, t .powEq, t .andEq, t .orEq, t .nullishEq]),
      field "right" (c .expression)]))
  | .initializer => seq [t .assign, field "value" (c .expression)]
  | .destructuringPattern => choice [c .objectPattern, c .arrayPattern]
  | .spreadElement => seq [t .ellipsis, c .expression]
  | .ternaryExpression =>
    tier .ternary (rightAssoc (seq [
      field "condition" (c .expression), spelt "?" (t .ternaryMark),
      field "consequence" (c .expression), t .colon, field "alternative" (c .expression)]))
  | .binaryExpression =>
    choice (binaryOperators.map fun (operator, grouping, level) =>
      let left := c .expression
      tier level (.assoc grouping (seq [
        field "left" (if operator = .kwIn then choice [left, t .privateName] else left),
        field "operator" (t operator), field "right" (c .expression)])))
  | .unaryExpression =>
    tier .unaryVoid (leftAssoc (seq [
      field "operator" (choice [
        t .bang, t .tilde, t .minus, t .plus, t .kwTypeof, t .kwVoid, t .kwDelete]),
      field "argument" (c .expression)]))
  | .updateExpression =>
    leftAssoc (choice [
      seq [
        field "argument" (c .expression), field "operator" (choice [t .plusPlus, t .minusMinus])],
      seq [
        field "operator" (choice [t .plusPlus, t .minusMinus]), field "argument" (c .expression)]])
  | .sequenceExpression => rightAssoc (seq [c .expression, many .moreExpressions])
  | .string =>
    choice [
      seq [t .dquote, many .doubleParts, t .dquote], seq [t .quote, many .singleParts, t .quote]]
  | .templateString => seq [t .backquote, many .templateParts, t .backquote]
  | .templateSubstitution => seq [t .interpolation, c .expressions, t .rbrace]
  | .regex =>
    seq [
      t .slash, field "pattern" (t .regexPattern), t .regexEnd,
      optional (field "flags" (t .regexFlags))]
  | .plainIdentifier => choice [t .kwUndefined, t .identifier]
  | .metaProperty =>
    choice [seq [t .kwNew, t .dot, t .kwTarget], seq [t .kwImport, t .dot, t .kwMeta]]
  | .arguments =>
    seq [
      t .lparen,
      optional (seq [optional (choice [c .expression, c .spreadElement]), many .elements]),
      t .rparen]
  | .decorator =>
    seq [
      t .at,
      choice [
        t .identifier, called "member_expression" (c .decoratorMemberExpression),
        called "call_expression" (c .decoratorCallExpression)]]
  | .decoratorMemberExpression =>
    tier .member (seq [
      field "object" (choice [
        t .identifier, called "member_expression" (c .decoratorMemberExpression)]),
      t .dot, field "property" (called "property_identifier" (t .identifier))])
  | .decoratorCallExpression =>
    tier .call (seq [
      field "function" (choice [
        t .identifier, called "member_expression" (c .decoratorMemberExpression)]),
      field "arguments" (c .arguments)])
  | .classBody => seq [t .lbrace, many .classMembers, t .rbrace]
  | .fieldDefinition =>
    seq [
      many .decorators, optional (t .kwStatic), field "property" (c .propertyName),
      optional (c .initializer)]
  | .formalParameters =>
    seq [
      t .lparen,
      optional (seq [seq [c .formalParameter, many .moreParameters], optional (t .comma)]),
      t .rparen]
  | .classStaticBlock =>
    seq [t .kwStatic, optional (t .automaticSemicolon), field "body" (c .statementBlock)]
  | .pattern => .weight (-1) (choice [c .assignable, c .restPattern])
  | .restPattern => rightAssoc (seq [t .ellipsis, c .assignable])
  | .methodDefinition =>
    seq [
      many .decorators, optional (choice [t .kwStatic, spelt "static get" (t .staticGet)]),
      optional (t .kwAsync), optional (choice [t .kwGet, t .kwSet, t .star]),
      field "name" (c .propertyName), field "parameters" (c .formalParameters),
      field "body" (c .statementBlock)]
  | .pair => seq [field "key" (c .propertyName), t .colon, field "value" (c .expression)]
  | .pairPattern =>
    seq [
      field "key" (c .propertyName), t .colon,
      field "value" (choice [c .pattern, c .assignmentPattern])]
  | .propertyName =>
    .free (choice [
      called "property_identifier" (choice [t .identifier, c .softKeyword]), t .privateName,
      c .string, t .number, c .computedPropertyName])
  | .computedPropertyName => seq [t .lbracket, c .expression, t .rbracket]
  | .softKeyword =>
    choice [t .kwGet, t .kwSet, t .kwAsync, t .kwAwait, t .kwStatic, t .kwExport, t .kwLet]
  | .statementEnd => choice [t .automaticSemicolon, t .semicolon]

/-- What a repetition repeats. -/
def Repetition.element : Repetition → Rule
  | .statements => c .statement
  | .decorators => field "decorator" (c .decorator)
  | .exportSpecifiers => seq [t .comma, c .exportSpecifier]
  | .importSpecifiers => seq [t .comma, c .importSpecifier]
  | .declarators => seq [t .comma, c .variableDeclarator]
  | .switchClauses => choice [c .switchCase, c .switchDefault]
  | .members =>
    seq [
      t .comma,
      optional (choice [
        c .pair, c .spreadElement, c .methodDefinition,
        called "shorthand_property_identifier" (choice [t .identifier, c .softKeyword])])]
  | .patternMembers =>
    seq [
      t .comma,
      optional (choice [
        c .pairPattern, c .restPattern, c .objectAssignmentPattern,
        called "shorthand_property_identifier_pattern" (choice [t .identifier, c .softKeyword])])]
  | .elements => seq [t .comma, optional (choice [c .expression, c .spreadElement])]
  | .patternElements => seq [t .comma, optional (choice [c .pattern, c .assignmentPattern])]
  | .jsxChildren => c .jsxChild
  | .jsxAttributes => field "attribute" (c .anyJsxAttribute)
  | .jsxDoubleParts =>
    choice [called "string_fragment" (t .jsxDoubleFragment), t .characterReference]
  | .jsxSingleParts =>
    choice [called "string_fragment" (t .jsxSingleFragment), t .characterReference]
  | .moreExpressions => seq [t .comma, c .expression]
  | .doubleParts => choice [called "string_fragment" (t .doubleFragment), t .escapeSequence]
  | .singleParts => choice [called "string_fragment" (t .singleFragment), t .escapeSequence]
  | .templateParts =>
    choice [
      called "string_fragment" (t .templateChars), t .escapeSequence, c .templateSubstitution]
  | .classMembers =>
    choice [
      seq [field "member" (c .methodDefinition), optional (t .semicolon)],
      seq [field "member" (c .fieldDefinition), c .statementEnd],
      field "member" (c .classStaticBlock), t .semicolon]
  | .moreParameters => seq [t .comma, c .formalParameter]

/-- The right-hand side of a repetition: two of its kind, or one element. -/
def Repetition.rule (r : Repetition) : Rule := choice [seq [rep r, rep r], r.element]

/-! ## Precedence -/

/-- The categories that stand for their phrases wherever they occur. -/
def inlined : List Category :=
  [.callSignature, .formalParameter, .expressions, .statementEnd, .plainIdentifier, .softKeyword,
   .anyJsxAttribute, .jsxElementName, .jsxChild, .anyJsxElement, .jsxAttributeName,
   .jsxAttributeValue, .jsxName, .assignable]

/-- An entry of an order of precedence. -/
inductive Rank where
  | tier (tier : Tier)
  | of (category : Category)

def Rank.code : Rank → Grammar.Rank
  | .tier x => .tier x.ctorIdx
  | .of x => .nonterminal x.ctorIdx

/-- The orders of precedence, the strongest entry first. -/
def orders : List (List Rank) :=
  [[.tier .member, .tier .templateCall, .tier .call, .of .updateExpression, .tier .unaryVoid,
    .tier .binaryExp, .tier .binaryTimes, .tier .binaryPlus, .tier .binaryShift,
    .tier .binaryCompare, .tier .binaryRelation, .tier .binaryEquality, .tier .bitwiseAnd,
    .tier .bitwiseXor, .tier .bitwiseOr, .tier .logicalAnd, .tier .logicalOr, .tier .ternary,
    .of .sequenceExpression, .of .arrowFunction],
   [.tier .assign, .of .primaryExpression],
   [.tier .member, .tier .templateCall, .tier .newTier, .tier .call, .of .expression],
   [.tier .declaration, .tier .literal],
   [.of .primaryExpression, .of .statementBlock, .tier .objectTier],
   [.of .metaProperty, .of .importWord],
   [.of .importStatement, .of .importWord],
   [.of .exportStatement, .of .primaryExpression],
   [.of .lexicalDeclaration, .of .primaryExpression]]

/-- The grammar of scripts. -/
def grammar : Grammar :=
  { rules := Category.all.map Category.rule ++ Repetition.all.map Repetition.rule
    terminals := Terminal.count
    inlined := inlined.map (·.ctorIdx)
    repetitions := Category.count
    orders := orders.map (·.map Rank.code)
    word := Terminal.identifier.index
    endToken := Terminal.endOfText.index
    extras := [Terminal.comment.index, Terminal.htmlComment.index] }

end EmbeddedScripts.Script
