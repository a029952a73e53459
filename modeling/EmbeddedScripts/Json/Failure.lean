import EmbeddedScripts.Decimal.Shortest
import EmbeddedScripts.Text.Mark
import EmbeddedScripts.Text.Quoted

/-!
# Failures of reading JSON

A reader that fails tells the `Fault` and how far it had got: the text that was left, and how many
bytes of that it had looked at. `Failure.place` turns this into a place in the whole text.
-/

namespace EmbeddedScripts.Json

/-- A value that stands where another kind of value is expected. -/
inductive Found where
  | null
  | boolean (value : Bool)
  | integer (value : Int)
  | decimal (negative : Bool) (value : Decimal.Binary64)
  | text (value : String)
  | list
  | map
deriving DecidableEq, Repr, Inhabited

def Found.message : Found → String
  | null => "null"
  | boolean true => "boolean `true`"
  | boolean false => "boolean `false`"
  | integer value => "integer `" ++ toString value ++ "`"
  | decimal negative value =>
    "floating point `" ++ (if negative then "-" else "") ++ value.text ++ "`"
  | text value => "string " ++ Text.quoted value
  | list => "sequence"
  | map => "map"

/-- What can be wrong with a text. -/
inductive Fault where
  | endInValue
  | endInObject
  | endInList
  | endInString
  | expectedColon
  | expectedListCommaOrEnd
  | expectedObjectCommaOrEnd
  | expectedIdent
  | expectedValue
  | invalidEscape
  | invalidNumber
  | numberOutOfRange
  | controlCharacter
  | keyNotString
  | loneSurrogate
  | unexpectedEndOfEscape
  | trailingComma
  | trailingCharacters
  /-- A value of one kind stands where `expected` is. -/
  | wrongType (found : Found) (expected : String)
  /-- The name is none of the `expected` ones. -/
  | unknownVariant (name : String) (expected : String)
  /-- The member is given twice. -/
  | duplicateField (name : String)
deriving DecidableEq, Repr, Inhabited

def Fault.message : Fault → String
  | endInValue => "EOF while parsing a value"
  | endInObject => "EOF while parsing an object"
  | endInList => "EOF while parsing a list"
  | endInString => "EOF while parsing a string"
  | expectedColon => "expected `:`"
  | expectedListCommaOrEnd => "expected `,` or `]`"
  | expectedObjectCommaOrEnd => "expected `,` or `\x7d`"
  | expectedIdent => "expected ident"
  | expectedValue => "expected value"
  | invalidEscape => "invalid escape"
  | invalidNumber => "invalid number"
  | numberOutOfRange => "number out of range"
  | controlCharacter => "control character (\\u0000-\\u001F) found while parsing a string"
  | keyNotString => "key must be a string"
  | loneSurrogate => "lone leading surrogate in hex escape"
  | unexpectedEndOfEscape => "unexpected end of hex escape"
  | trailingComma => "trailing comma"
  | trailingCharacters => "trailing characters"
  | wrongType found expected => "invalid type: " ++ found.message ++ ", expected " ++ expected
  | unknownVariant name expected => "unknown variant `" ++ name ++ "`, expected " ++ expected
  | duplicateField name => "duplicate field `" ++ name ++ "`"

/-- Why and where a reader gave up. -/
structure Failure where
  fault : Fault
  /-- The text that was left. -/
  rest : List Char
  /-- How many bytes of the rest count as read. -/
  seen : Nat := 0
deriving DecidableEq, Repr, Inhabited

namespace Failure

/-- The place `n` bytes further on, or at the end of the text. -/
def passBytes (m : Mark) : Nat → List Char → Mark
  | _, [] => m
  | n, c :: cs =>
    if c.utf8Size ≤ n then passBytes (m.advance c) (n - c.utf8Size) cs
    else ⟨m.offset + n, m.row, m.column + n⟩

/-- The place of the failure in the text that was read. -/
def place (f : Failure) (text : List Char) : Mark :=
  let read := text.take (text.length - f.rest.length)
  passBytes (Mark.zero.advanceAll read) f.seen f.rest

/-- The wording of a failure to read `text`. -/
def message (f : Failure) (text : List Char) : String :=
  let m := f.place text
  f.fault.message ++ " at line " ++ toString (m.row + 1) ++ " column " ++ toString m.column

end Failure

/-- Reads something from the beginning of a text, and gives what is left. -/
abbrev Reader (α : Type) := List Char → Except Failure (α × List Char)

/-- Fails in front of the text. -/
def fail {α : Type} (fault : Fault) (rest : List Char) : Except Failure α := .error ⟨fault, rest, 0⟩

/-- Fails at the first character of the text, which counts as read. -/
def failAt {α : Type} (fault : Fault) (rest : List Char) : Except Failure α :=
  .error ⟨fault, rest, 1⟩

/-- The blanks between the parts of a JSON text. -/
def isSpace (c : Char) : Bool := c == ' ' || c == '\n' || c == '\t' || c == '\r'

def skipSpace (text : List Char) : List Char := text.dropWhile isSpace

theorem length_skipSpace (text : List Char) : (skipSpace text).length ≤ text.length :=
  (List.dropWhile_sublist (p := isSpace)).length_le

/-- Reads the rest of a word of which the first letter is read. -/
def letters : (word : List Char) → List Char → Except Failure (List Char)
  | [], cs => .ok cs
  | _ :: _, [] => fail .endInValue []
  | w :: ws, c :: cs => if c = w then letters ws cs else failAt .expectedIdent (c :: cs)

theorem length_letters {word text rest : List Char} (h : letters word text = .ok rest) :
    rest.length ≤ text.length := by
  fun_induction letters word text with
  | case1 => simp_all
  | case2 => simp [fail] at h
  | case3 _ _ _ ih =>
    have := ih h
    simp
    omega
  | case4 => simp [failAt] at h

end EmbeddedScripts.Json
