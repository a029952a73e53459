import EmbeddedScripts.Grammar.Lexing
import EmbeddedScripts.Script.Terminal

/-!
# The lexicon of scripts

How each terminal is spelt (`Terminal.rule?`), and which characters separate tokens (`isSeparator`).
-/

namespace EmbeddedScripts.Script

open Grammar (Pattern TokenRule)
open Grammar.Pattern

/-! ## Classes of characters -/

/-- Space, tab, line feed, vertical tab, form feed, carriage return. -/
def isPlainSpace (c : Char) : Bool := c == ' ' || ('\t' ≤ c && c ≤ '\r')

/-- The characters of the Unicode category of space separators. -/
def isSpaceSeparator (c : Char) : Bool :=
  c == ' ' || c == '\u00a0' || c == '\u1680' || ('\u2000' ≤ c && c ≤ '\u200a') ||
    c == '\u202f' || c == '\u205f' || c == '\u3000'

/-- U+2028 or U+2029. -/
def isUnicodeLineBreak (c : Char) : Bool := c == '\u2028' || c == '\u2029'

/-- The characters that may stand between tokens. -/
def isSeparator (c : Char) : Bool :=
  isPlainSpace c || isSpaceSeparator c || isUnicodeLineBreak c ||
    c == '\ufeff' || c == '\u2060' || c == '\u200b'

/-- The characters of punctuation that end a name. -/
def isDelimiter (c : Char) : Bool :=
  ":;`\"'@#.,|^&<=>+-*/\\%?!~()[]\x7b\x7d".toList.contains c

/-- The characters that a name may contain. -/
def isNamePart (c : Char) : Bool := !(c < ' ' || isSeparator c || isDelimiter c)

/-- The characters that a name may begin with. -/
def isNameStart (c : Char) : Bool := isNamePart c && !c.isDigit

/-! ## Patterns -/

/-- A character written as an escape in a name. -/
def nameEscape : Pattern :=
  any [
    all [text "\\u", times 4 hexDigit],
    all [text "\\u\x7b", many1 hexDigit, text "\x7d"]]

/-- A name. -/
def name : Pattern :=
  seq (alt (one isNameStart) nameEscape) (star (alt (one isNamePart) nameEscape))

/-- Digits, with single low lines between them. -/
def digits (digit : Pattern) : Pattern :=
  seq digit (star (seq (optional (text "_")) digit))

def radixLiteral (low high : String) (digit : Pattern) : Pattern :=
  seq (alt (text low) (text high)) (digits digit)

def exponent : Pattern :=
  all [oneOf "eE", optional (oneOf "-+"), digits digit]

def decimalInteger : Pattern :=
  any [
    text "0",
    all [
      optional (text "0"), one (fun c => '1' ≤ c && c ≤ '9'),
      optional (seq (optional (text "_")) (digits digit))]]

def decimalLiteral : Pattern :=
  any [
    all [decimalInteger, text ".", optional (digits digit), optional exponent],
    all [text ".", digits digit, optional exponent],
    all [decimalInteger, exponent],
    digits digit]

def hexLiteral : Pattern := radixLiteral "0x" "0X" hexDigit

def binaryLiteral : Pattern := radixLiteral "0b" "0B" (oneOf "01")

def octalLiteral : Pattern := radixLiteral "0o" "0O" octalDigit

/-- A numeric literal. -/
def number : Pattern :=
  any [
    hexLiteral, decimalLiteral, binaryLiteral, octalLiteral,
    all [any [hexLiteral, binaryLiteral, octalLiteral, digits digit], text "n"]]

/-- An escape in a string. -/
def escapeSequence : Pattern :=
  seq (text "\\") (any [
    noneOf "xu01234567",
    upTo octalDigit 2,
    all [text "x", times 2 hexDigit],
    all [text "u", times 4 hexDigit],
    all [text "u\x7b", many1 hexDigit, text "\x7d"],
    all [oneOf "\r?", oneOf "\n\u2028\u2029"]])

/-- A comment up to the end of the line, or between its delimiters. -/
def comment : Pattern :=
  any [
    all [text "//", star (noneOf "\r\n\u2028\u2029")],
    all [
      text "/*", star (noneOf "*"), many1 (text "*"),
      star (all [noneOf "/*", star (noneOf "*"), many1 (text "*")]), text "/"]]

/-- The body of a regular expression. A slash may stand in brackets. -/
def regexPattern : Pattern :=
  let escaped := seq (text "\\") (noneOf "\n")
  many1 (any [
    all [text "[", star (alt escaped (noneOf "]\n\\")), text "]"],
    escaped,
    noneOf "/\\[\n"])

/-- A reference to a character by its name or number. -/
def characterReference : Pattern :=
  all [
    text "&",
    any [
      all [text "#", any [all [oneOf "xX", upTo hexDigit 5], upTo digit 4]],
      upTo (one Char.isAlpha) 29],
    text ";"]

/-- A name with a hyphen in it. -/
def jsxIdentifier : Pattern :=
  let start := one fun c => c.isAlpha || c == '_' || c == '$'
  let part := one fun c => c.isAlphanum || c == '_' || c == '$'
  all [start, star part, text "-", star (alt part (text "-"))]

/-- Text of an attribute up to its quote or a character reference. -/
def jsxFragment (quote : String) : Pattern :=
  many1 (alt (noneOf ("&" ++ quote))
    (seq (text "&") (one fun c => c != '\x00' && c != '#' && !c.isAlpha)))

/-- The words `static get` with a line break after them. -/
def staticGet : Pattern :=
  all [
    text "static", many1 (one isPlainSpace), text "get", star (one isPlainSpace), text "\n"]

/-- A line for the program that is to run the script. -/
def hashBang : Pattern := seq (text "#!") (star (noneOf "\n"))

/-- Text of a string up to its quote, an escape or a line break. -/
def stringFragment (quote : String) : Pattern := many1 (noneOf (quote ++ "\\\r\n"))

/-- Letters after a regular expression. -/
def regexFlags : Pattern := many1 (one fun c => 'a' ≤ c && c ≤ 'z')

/-- A private name. -/
def privateName : Pattern := seq (text "#") name

/-- How a terminal is spelt; `none` if only the text around it brings it about. -/
def Terminal.rule? (t : Terminal) : Option TokenRule :=
  match t.spelling? with
  | some s => some { pattern := text s, rank := 2 }
  | none =>
    match t with
    | .identifier => some { pattern := Script.name }
    | .hashBang => some { pattern := Script.hashBang }
    | .characterReference => some { pattern := Script.characterReference }
    | .jsxIdentifier => some { pattern := Script.jsxIdentifier }
    | .jsxDoubleFragment =>
      some { pattern := jsxFragment "\"", immediate := true, precedence := 1, rank := 1 }
    | .jsxSingleFragment =>
      some { pattern := jsxFragment "'", immediate := true, precedence := 1, rank := 1 }
    | .doubleFragment =>
      some { pattern := stringFragment "\"", immediate := true, precedence := 1, rank := 1 }
    | .singleFragment =>
      some { pattern := stringFragment "'", immediate := true, precedence := 1, rank := 1 }
    | .escapeSequence => some { pattern := Script.escapeSequence, immediate := true, rank := 1 }
    | .comment => some { pattern := Script.comment }
    | .regexEnd => some { pattern := text "/", immediate := true, precedence := 1, rank := 3 }
    | .regexPattern =>
      some { pattern := Script.regexPattern, immediate := true, precedence := -1, rank := 1 }
    | .regexFlags => some { pattern := Script.regexFlags, immediate := true, rank := 1 }
    | .number => some { pattern := Script.number }
    | .privateName => some { pattern := Script.privateName }
    | .staticGet => some { pattern := Script.staticGet }
    | _ => none

end EmbeddedScripts.Script
