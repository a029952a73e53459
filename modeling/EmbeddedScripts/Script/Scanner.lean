import EmbeddedScripts.Script.Lexicon

/-!
# Tokens that depend on the text around them

Some tokens are not read by a pattern: the semicolon that a line break stands for, the text of a
template, the question mark of a conditional expression (as opposed to `?.` and `??`), comments in the
style of markup, and text between tags. `scan` reads one of them, if any of those that are of use is
there. Reaching the end of the text and reaching a character U+0000 count alike.
-/

namespace EmbeddedScripts.Script.Scanner

/-- What is left of a text, and how many characters of it were passed. -/
structure Place where
  passed : Nat
  rest : List Char
deriving Inhabited

/-- The next character; U+0000 at the end. -/
def Place.peek (p : Place) : Char := p.rest.headD '\x00'

/-- One character further on. -/
def Place.next (p : Place) : Place :=
  match p.rest with
  | [] => p
  | _ :: rest => ⟨p.passed + 1, rest⟩

/-- Past all characters for which `f` holds. -/
def Place.skipWhile (f : Char → Bool) (p : Place) : Place :=
  go p.passed p.rest
where
  go (passed : Nat) : List Char → Place
    | [] => ⟨passed, []⟩
    | c :: rest => if f c then go (passed + 1) rest else ⟨passed, c :: rest⟩

/-- Whether `c` ends a line for the rules on inserted semicolons. -/
def isLineEnd (c : Char) : Bool := c == '\n' || isUnicodeLineBreak c

/-! ## Inserted semicolons -/

/-- The answer to whether a semicolon is inserted, where the search for it ended, and whether it
passed a comment. -/
structure Insertion where
  inserted : Bool
  place : Place
  sawComment : Bool
deriving Inhabited

/-- Where between two tokens a reader is. -/
inductive GapMode where
  /-- Still on the line of the token before. -/
  | sameLine
  /-- Past a comment that runs to the end of its line. -/
  | between
  /-- After a slash. -/
  | slash
  | lineComment
  | blockComment
  /-- After a star in a block comment. -/
  | star

/-- The end of a gap between tokens. -/
structure Gap where
  place : Place
  /-- Whether a slash in it begins no comment. -/
  refused : Bool
  sawComment : Bool

/-- Passes over separators and comments. -/
def gap : GapMode → (sawComment : Bool) → (passed : Nat) → List Char → Gap
  | mode, saw, n, [] =>
    match mode with
    | .slash => ⟨⟨n, []⟩, true, saw⟩
    | .lineComment => ⟨⟨n, []⟩, false, true⟩
    | _ => ⟨⟨n, []⟩, false, saw⟩
  | mode, saw, n, c :: cs =>
    match mode with
    | .sameLine | .between =>
      if isPlainSpace c then gap .between saw (n + 1) cs
      else if c == '/' then gap .slash saw (n + 1) cs
      else ⟨⟨n, c :: cs⟩, false, saw⟩
    | .slash =>
      if c == '/' then gap .lineComment saw (n + 1) cs
      else if c == '*' then gap .blockComment saw (n + 1) cs
      else ⟨⟨n, c :: cs⟩, true, saw⟩
    | .lineComment =>
      if c == '\n' then gap .between true (n + 1) cs
      else if isUnicodeLineBreak c || c == '\x00' then ⟨⟨n, c :: cs⟩, false, true⟩
      else gap .lineComment saw (n + 1) cs
    | .blockComment =>
      if c == '\x00' then ⟨⟨n, c :: cs⟩, false, saw⟩
      else if c == '*' then gap .star saw (n + 1) cs
      else gap .blockComment saw (n + 1) cs
    | .star =>
      if c == '/' then gap .between true (n + 1) cs
      else if c == '\x00' then ⟨⟨n, c :: cs⟩, false, saw⟩
      else if c == '*' then gap .star saw (n + 1) cs
      else gap .blockComment saw (n + 1) cs

/-- After `in`, whether a word goes on that is not `instanceof`. -/
def notWordOperator (saw : Bool) : List Char → Place → Insertion
  | [], p => ⟨p.peek.isAlpha, p, saw⟩
  | c :: cs, p => if p.peek != c then ⟨true, p, saw⟩ else notWordOperator saw cs p.next

/-- Whether a line break before `p` ends a statement: it does, unless what comes goes on with an
expression. -/
def endsBefore (saw : Bool) (p : Place) : Insertion :=
  let c := p.peek
  if "`,:;*%><=[(?^|&/".toList.contains c then ⟨false, p, saw⟩
  else if c == '.' then ⟨p.next.peek.isDigit, p.next, saw⟩
  else if c == '+' then ⟨p.next.peek == '+', p.next, saw⟩
  else if c == '-' then ⟨p.next.peek == '-', p.next, saw⟩
  else if c == '!' then ⟨p.next.peek != '=', p.next, saw⟩
  else if c == 'i' then
    let p := p.next
    if p.peek != 'n' then ⟨true, p, saw⟩
    else if !p.next.peek.isAlpha then ⟨false, p.next, saw⟩
    else notWordOperator saw "stanceof".toList p.next
  else ⟨true, p, saw⟩

/-- After a line break: passes the rest of the gap, and decides by what comes then. -/
def afterLineEnd (saw : Bool) (n : Nat) (cs : List Char) : Insertion :=
  let g := gap .between saw n cs
  if g.refused then ⟨false, g.place, g.sawComment⟩ else endsBefore g.sawComment g.place

/-- Whether a semicolon is inserted before the text. It is before the end of the text, before a
closing brace, and after a line break that ends a statement. `commentEnds` says that a comment with a
line break, or up to one, ends a statement by itself; `broken` says that the present gap has a block
comment with a line break in it. -/
def insertion (commentEnds : Bool) : GapMode → (broken sawComment : Bool) → (passed : Nat) →
    List Char → Insertion
  | mode, _, saw, n, [] =>
    match mode with
    | .sameLine => ⟨true, ⟨n, []⟩, saw⟩
    | .slash => ⟨false, ⟨n, []⟩, saw⟩
    | .lineComment => ⟨commentEnds, ⟨n, []⟩, true⟩
    | _ => ⟨commentEnds, ⟨n, []⟩, saw⟩
  | mode, broken, saw, n, c :: cs =>
    let here : Place := ⟨n, c :: cs⟩
    /- At the end of a gap, before something that separates no tokens. -/
    let atEnd (saw : Bool) : Insertion :=
      if commentEnds && c != ',' && c != '=' then ⟨true, here, saw⟩
      else if c == '}' then ⟨true, here, saw⟩
      else if isLineEnd c then afterLineEnd saw (n + 1) cs
      else ⟨false, here, saw⟩
    match mode with
    | .sameLine =>
      if c == '\x00' || c == '}' then ⟨true, here, saw⟩
      else if c == '/' then insertion commentEnds .slash false saw (n + 1) cs
      else if isLineEnd c then afterLineEnd saw (n + 1) cs
      else if !isPlainSpace c then ⟨false, here, saw⟩
      else insertion commentEnds .sameLine false saw (n + 1) cs
    | .between =>
      if isPlainSpace c then insertion commentEnds .between broken saw (n + 1) cs
      else if c == '/' then insertion commentEnds .slash broken saw (n + 1) cs
      else atEnd saw
    | .slash =>
      if c == '/' then insertion commentEnds .lineComment broken saw (n + 1) cs
      else if c == '*' then insertion commentEnds .blockComment broken saw (n + 1) cs
      else ⟨false, here, saw⟩
    | .lineComment =>
      if c == '\n' then insertion commentEnds .between broken true (n + 1) cs
      else if isUnicodeLineBreak c || c == '\x00' then atEnd true
      else insertion commentEnds .lineComment broken saw (n + 1) cs
    | .blockComment =>
      if c == '\x00' then atEnd saw
      else if c == '*' then insertion commentEnds .star broken saw (n + 1) cs
      else insertion commentEnds .blockComment (broken || isLineEnd c) saw (n + 1) cs
    | .star =>
      if c == '\x00' then atEnd saw
      else if c == '*' then insertion commentEnds .star broken saw (n + 1) cs
      else if c != '/' then
        insertion commentEnds .blockComment (broken || isLineEnd c) saw (n + 1) cs
      else
        match cs with
        | [] => ⟨broken && commentEnds, ⟨n + 1, []⟩, true⟩
        | d :: ds =>
          let after : Place := ⟨n + 1, d :: ds⟩
          if d == '/' then insertion commentEnds .between broken true (n + 1) (d :: ds)
          else if broken && commentEnds && d != ',' && d != '=' then ⟨true, after, true⟩
          else if d == '}' then ⟨true, after, true⟩
          else if isLineEnd d then afterLineEnd true (n + 2) ds
          else if !isPlainSpace d then ⟨false, after, true⟩
          else insertion commentEnds .sameLine false true (n + 2) ds

/-! ## The other tokens -/

/-- A token: how many characters come before it, and how many up to its end. -/
structure Scanned where
  token : Terminal
  start : Nat
  stop : Nat
deriving DecidableEq, Repr, Inhabited

/-- The question mark of a conditional expression; `?.` counts only before a digit. -/
def ternaryMark (p : Place) : Option Scanned :=
  let p := p.skipWhile isPlainSpace
  let after := p.next
  if p.peek != '?' || after.peek == '?' then none
  else if after.peek == '.' && !after.next.peek.isDigit then none
  else some ⟨.ternaryMark, p.passed, after.passed⟩

/-- A comment that begins with `<!--` or `-->` and ends with its line. -/
def htmlComment (start : Nat) (p : Place) : Option Scanned :=
  let q := p.skipWhile fun c => isPlainSpace c || isUnicodeLineBreak c
  let start := if q.passed = p.passed then start else q.passed
  let opener := if q.peek == '<' then "<!--".toList else "-->".toList
  if opener.isPrefixOf q.rest then
    let body : Place := ⟨q.passed + opener.length, q.rest.drop opener.length⟩
    some ⟨.htmlComment, start, (body.skipWhile fun c => c != '\x00' && !isLineEnd c).passed⟩
  else none

/-- The end of the text of a template: before its closing quote, an escape or a substitution. -/
def templateEnd (passed : Nat) : List Char → Option Nat
  | [] => none
  | c :: cs =>
    if c == '`' || c == '\\' || (c == '$' && cs.headD '\x00' == '\x7b') then some passed
    else if c == '\x00' then none
    else templateEnd (passed + 1) cs

/-- Passes the text between tags. `seen` says that it has something in it besides line breaks with
the separators after them; `atBreak` that only separators came since the last line break. -/
def jsxText (seen atBreak : Bool) (passed : Nat) : List Char → Bool × Place
  | [] => (seen, ⟨passed, []⟩)
  | c :: cs =>
    if c == '\x00' || "<>\x7b\x7d&".toList.contains c then (seen, ⟨passed, c :: cs⟩)
    else if c == '\n' then jsxText seen true (passed + 1) cs
    else
      let atBreak := atBreak && isPlainSpace c
      jsxText (seen || !atBreak) atBreak (passed + 1) cs

/-- Reads a token that depends on its surroundings, out of those that are of use. -/
def scan (useful : Terminal → Bool) (rest : List Char) : Option Scanned :=
  if useful .templateChars then
    if useful .automaticSemicolon then none
    else
      match templateEnd 0 rest with
      | some n => if n = 0 then none else some ⟨.templateChars, 0, n⟩
      | none => none
  else
    let (isText, p) := if useful .jsxText then jsxText false false 0 rest else (false, ⟨0, rest⟩)
    if isText then some ⟨.jsxText, 0, p.passed⟩
    else if useful .automaticSemicolon then
      let i := insertion (!useful .orOr) .sameLine false false p.passed p.rest
      if i.inserted then some ⟨.automaticSemicolon, 0, 0⟩
      else if !i.sawComment && useful .ternaryMark && i.place.peek == '?' then ternaryMark i.place
      else none
    else if useful .ternaryMark then ternaryMark p
    else if useful .htmlComment && !useful .orOr && !useful .escapeSequence &&
        !useful .regexPattern then
      htmlComment 0 p
    else none

end EmbeddedScripts.Script.Scanner
