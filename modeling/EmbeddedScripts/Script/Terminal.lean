import EmbeddedScripts.Tree

/-!
# Terminals of the script language

The tokens that scripts are made of: keywords and punctuators, which have one spelling each, tokens
that are described by a pattern, and tokens that only the text around them brings about (the last
ones, read by `Script.Scanner`).
-/

namespace EmbeddedScripts.Script

/-- A terminal of the script grammar. -/
inductive Terminal where
  | endOfText | identifier | hashBang | kwExport | star | kwDefault | kwAs | lbrace | comma
  | rbrace | kwImport | kwFrom | kwWith | kwVar | kwLet | kwConst | kwUsing | kwAwait | kwOf
  | kwElse | kwIf | kwSwitch | kwFor | lparen | semicolon | rparen | kwIn | kwWhile | kwDo
  | kwTry | kwBreak | kwContinue | kwDebugger | kwReturn | kwThrow | colon | kwCase | kwCatch
  | kwFinally | kwYield | assign | lbracket | rbracket | characterReference | lt | gt
  | jsxIdentifier | dot | ltSlash | slashGt | dquote | quote | jsxDoubleFragment
  | jsxSingleFragment | kwClass | kwExtends | kwAsync | kwFunction | arrow | optionalChain
  | kwNew | plusEq | minusEq | starEq | slashEq | percentEq | caretEq | ampEq | barEq | shrEq
  | ushrEq | shlEq | powEq | andEq | orEq | nullishEq | ellipsis | andAnd | orOr | shr | ushr
  | shl | amp | caret | bar | plus | minus | slash | percent | pow | le | eqEq | eqEqEq | notEq
  | notEqEq | ge | nullish | kwInstanceof | bang | tilde | kwTypeof | kwVoid | kwDelete
  | plusPlus | minusMinus | doubleFragment | singleFragment | escapeSequence | comment
  | backquote | interpolation | regexEnd | regexPattern | regexFlags | number | privateName
  | kwTarget | kwMeta | kwThis | kwSuper | kwTrue | kwFalse | kwNull | kwUndefined | at
  | kwStatic | staticGet | kwGet | kwSet | automaticSemicolon | templateChars | ternaryMark
  | htmlComment | jsxText
deriving DecidableEq, Repr, Inhabited

namespace Terminal

/-- How many terminals there are. -/
def count : Nat := 134

/-- All terminals, in the order of their indices. -/
def all : List Terminal := (List.range count).map ofNat

/-- The index of a terminal. -/
def index (t : Terminal) : Nat := t.ctorIdx

/-- The spelling of a terminal that has only one. -/
def spelling? : Terminal → Option String
  | .star => some "*"
  | .lbrace => some "\x7b"
  | .comma => some ","
  | .rbrace => some "\x7d"
  | .lparen => some "("
  | .semicolon => some ";"
  | .rparen => some ")"
  | .colon => some ":"
  | .assign => some "="
  | .lbracket => some "["
  | .rbracket => some "]"
  | .lt => some "<"
  | .gt => some ">"
  | .dot => some "."
  | .ltSlash => some "</"
  | .slashGt => some "/>"
  | .dquote => some "\""
  | .quote => some "'"
  | .arrow => some "=>"
  | .optionalChain => some "?."
  | .plusEq => some "+="
  | .minusEq => some "-="
  | .starEq => some "*="
  | .slashEq => some "/="
  | .percentEq => some "%="
  | .caretEq => some "^="
  | .ampEq => some "&="
  | .barEq => some "|="
  | .shrEq => some ">>="
  | .ushrEq => some ">>>="
  | .shlEq => some "<<="
  | .powEq => some "**="
  | .andEq => some "&&="
  | .orEq => some "||="
  | .nullishEq => some "??="
  | .ellipsis => some "..."
  | .andAnd => some "&&"
  | .orOr => some "||"
  | .shr => some ">>"
  | .ushr => some ">>>"
  | .shl => some "<<"
  | .amp => some "&"
  | .caret => some "^"
  | .bar => some "|"
  | .plus => some "+"
  | .minus => some "-"
  | .slash => some "/"
  | .percent => some "%"
  | .pow => some "**"
  | .le => some "<="
  | .eqEq => some "=="
  | .eqEqEq => some "==="
  | .notEq => some "!="
  | .notEqEq => some "!=="
  | .ge => some ">="
  | .nullish => some "??"
  | .bang => some "!"
  | .tilde => some "~"
  | .plusPlus => some "++"
  | .minusMinus => some "--"
  | .backquote => some "`"
  | .interpolation => some "$\x7b"
  | .at => some "@"
  | .kwExport => some "export"
  | .kwDefault => some "default"
  | .kwAs => some "as"
  | .kwImport => some "import"
  | .kwFrom => some "from"
  | .kwWith => some "with"
  | .kwVar => some "var"
  | .kwLet => some "let"
  | .kwConst => some "const"
  | .kwUsing => some "using"
  | .kwAwait => some "await"
  | .kwOf => some "of"
  | .kwElse => some "else"
  | .kwIf => some "if"
  | .kwSwitch => some "switch"
  | .kwFor => some "for"
  | .kwIn => some "in"
  | .kwWhile => some "while"
  | .kwDo => some "do"
  | .kwTry => some "try"
  | .kwBreak => some "break"
  | .kwContinue => some "continue"
  | .kwDebugger => some "debugger"
  | .kwReturn => some "return"
  | .kwThrow => some "throw"
  | .kwCase => some "case"
  | .kwCatch => some "catch"
  | .kwFinally => some "finally"
  | .kwYield => some "yield"
  | .kwClass => some "class"
  | .kwExtends => some "extends"
  | .kwAsync => some "async"
  | .kwFunction => some "function"
  | .kwNew => some "new"
  | .kwInstanceof => some "instanceof"
  | .kwTypeof => some "typeof"
  | .kwVoid => some "void"
  | .kwDelete => some "delete"
  | .kwTarget => some "target"
  | .kwMeta => some "meta"
  | .kwThis => some "this"
  | .kwSuper => some "super"
  | .kwTrue => some "true"
  | .kwFalse => some "false"
  | .kwNull => some "null"
  | .kwUndefined => some "undefined"
  | .kwStatic => some "static"
  | .kwGet => some "get"
  | .kwSet => some "set"
  | _ => none

/-- Whether the terminal is a word. -/
def isWord (t : Terminal) : Bool :=
  match t.spelling? with
  | some s => s.toList.all Char.isAlpha
  | none => false

/-- The words that are operators after an operand. A regular expression may end there too, and its
flags are letters, so these are read like punctuators. -/
def isWordOperator (t : Terminal) : Bool := t = .kwIn || t = .kwInstanceof

/-- Whether the terminal is read as an identifier first. -/
def isKeyword (t : Terminal) : Bool := t.isWord && !t.isWordOperator

/-- The words that are no identifiers, except where a property is named. -/
def reserved : List Terminal :=
  [.kwBreak, .kwCase, .kwCatch, .kwClass, .kwConst, .kwContinue, .kwDebugger, .kwDefault,
   .kwDelete, .kwDo, .kwElse, .kwExport, .kwExtends, .kwFalse, .kwFinally, .kwFor, .kwFunction,
   .kwIf, .kwImport, .kwIn, .kwInstanceof, .kwNew, .kwNull, .kwReturn, .kwSuper, .kwSwitch,
   .kwThis, .kwThrow, .kwTrue, .kwTry, .kwTypeof, .kwVar, .kwVoid, .kwWhile, .kwWith]

/-- Whether the terminal's trees stand for a rule, though it may have only one spelling. -/
def kind? : Terminal → Option String
  | .identifier => some "identifier"
  | .hashBang => some "hash_bang_line"
  | .characterReference => some "html_character_reference"
  | .jsxIdentifier => some "jsx_identifier"
  | .jsxDoubleFragment => some "unescaped_double_jsx_string_fragment"
  | .jsxSingleFragment => some "unescaped_single_jsx_string_fragment"
  | .doubleFragment => some "unescaped_double_string_fragment"
  | .singleFragment => some "unescaped_single_string_fragment"
  | .escapeSequence => some "escape_sequence"
  | .comment => some "comment"
  | .regexPattern => some "regex_pattern"
  | .regexFlags => some "regex_flags"
  | .number => some "number"
  | .privateName => some "private_property_identifier"
  | .optionalChain => some "optional_chain"
  | .kwThis => some "this"
  | .kwSuper => some "super"
  | .kwTrue => some "true"
  | .kwFalse => some "false"
  | .kwNull => some "null"
  | .kwUndefined => some "undefined"
  | .htmlComment => some "html_comment"
  | .jsxText => some "jsx_text"
  | _ => none

/-- The label of the trees for a terminal; a terminal that only the text around it brings about has
none. -/
def label (t : Terminal) : Option Label :=
  match t.kind?, t.spelling? with
  | some kind, _ => some { kind }
  | none, some spelling => some { kind := spelling, named := false }
  | none, none => if t = .regexEnd then some { kind := "/", named := false } else none

end Terminal

end EmbeddedScripts.Script
