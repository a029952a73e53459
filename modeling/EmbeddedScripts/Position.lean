import EmbeddedScripts.Text.Bytes

/-!
# Positions in a document

Lines and columns are counted from one, and columns count characters. A line ends with any of the
line separators; a carriage return and the line feed right after it are one. `lineColumn` finds the
position of a byte offset afresh; a `Tracker` resumes from the offset it was asked for last.
-/

namespace EmbeddedScripts

/-- A line and a column, both counted from one. -/
structure LineColumn where
  line : Nat
  column : Nat
deriving DecidableEq, Repr, Inhabited

/-- A range of a text: its byte offsets, and the positions of both ends. -/
structure Span where
  start : Nat
  stop : Nat
  startPos : LineColumn
  stopPos : LineColumn
deriving DecidableEq, Repr, Inhabited

namespace Position

/-- The characters that end a line. -/
def isLineSeparator (c : Char) : Bool :=
  c == '\n' || c == '\r' || c == '\x0b' || c == '\x0c' || c == '\u0085' || c == '\u2028' ||
    c == '\u2029'

/-- A position that is being counted. -/
structure Count where
  line : Nat := 1
  column : Nat := 1
  /-- Whether the last character was a carriage return. -/
  afterReturn : Bool := false
deriving DecidableEq, Repr, Inhabited

/-- The count after one more character. -/
def Count.step (n : Count) (c : Char) : Count :=
  if c == '\n' && n.afterReturn then { n with afterReturn := false }
  else if isLineSeparator c then ⟨n.line + 1, 1, c == '\r'⟩
  else ⟨n.line, n.column + 1, false⟩

def Count.position (n : Count) : LineColumn := ⟨n.line, n.column⟩

/-- Finds positions in a document, from the last offset on as long as offsets increase. -/
structure Tracker where
  document : List Char
  /-- The offset reached, always between two characters. -/
  offset : Nat
  /-- The document from that offset on. -/
  rest : List Char
  count : Count
deriving Inhabited

namespace Tracker

/-- A tracker at the beginning of a document. -/
def ofList (document : List Char) : Tracker := ⟨document, 0, document, {}⟩

/-- Reads on up to the byte offset `target`, or to the last character that ends before it. -/
def read (document : List Char) (target : Nat) : (offset : Nat) → Count → List Char → Tracker
  | offset, n, [] => ⟨document, offset, [], n⟩
  | offset, n, c :: cs =>
    if offset + c.utf8Size ≤ target then read document target (offset + c.utf8Size) (n.step c) cs
    else ⟨document, offset, c :: cs, n⟩

/-- The tracker at the byte offset `target`. It starts over if that is behind it. -/
def advanceTo (t : Tracker) (target : Nat) : Tracker :=
  let t := if target < t.offset then ofList t.document else t
  read t.document target t.offset t.count t.rest

def position (t : Tracker) : LineColumn := t.count.position

end Tracker

end Position

/-- The position of a byte offset in a document. An offset past the end counts as the end, and one
inside a character as its beginning. -/
def lineColumn (document : List Char) (offset : Nat) : LineColumn :=
  ((Position.Tracker.ofList document).advanceTo offset).position

/-- The positions of several offsets, found by one tracker. -/
def Position.Tracker.positions (t : Position.Tracker) : List Nat → List LineColumn
  | [] => []
  | offset :: offsets =>
    let t := t.advanceTo offset
    t.position :: t.positions offsets

end EmbeddedScripts
