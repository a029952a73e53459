import EmbeddedScripts.Position
import EmbeddedScripts.Text.Mark

/-!
# Columns in characters

A mark counts columns in bytes. A `ColumnIndex` of a text lists its characters of several bytes once,
each with the bytes beyond one per character seen up to its end, so that a column in characters is
found by two binary searches.
-/

namespace EmbeddedScripts

/-- The end of each character of several bytes, with the surplus bytes up to there. -/
structure ColumnIndex where
  wide : Array (Nat × Nat)
deriving Inhabited

namespace ColumnIndex

/-- The entries for the text `cs` that begins at `offset`, after `surplus` surplus bytes. -/
def entries (offset surplus : Nat) : List Char → List (Nat × Nat)
  | [] => []
  | c :: cs =>
    let next := offset + c.utf8Size
    if 1 < c.utf8Size then
      (next, surplus + (c.utf8Size - 1)) :: entries next (surplus + (c.utf8Size - 1)) cs
    else entries next surplus cs

def ofList (text : List Char) : ColumnIndex := ⟨(entries 0 0 text).toArray⟩

/-- How many of the entries from `lo` to `hi` end at or before `offset`, plus `lo`. -/
def search (wide : Array (Nat × Nat)) (offset lo hi : Nat) : Nat :=
  if lo < hi then
    let mid := (lo + hi) / 2
    if (wide.getD mid (0, 0)).1 ≤ offset then search wide offset (mid + 1) hi
    else search wide offset lo mid
  else lo
termination_by hi - lo

/-- The surplus bytes of the characters that end at or before `offset`. -/
def surplusBefore (x : ColumnIndex) (offset : Nat) : Nat :=
  match search x.wide offset 0 x.wide.size with
  | 0 => 0
  | n + 1 => (x.wide.getD n (0, 0)).2

/-- The position of a mark, its first row being `startLine`. -/
def lineColumn (x : ColumnIndex) (m : Mark) (startLine : Nat) : LineColumn :=
  let lineStart := m.offset - m.column
  let surplus := x.surplusBefore m.offset - x.surplusBefore lineStart
  ⟨startLine + m.row, m.column - surplus + 1⟩

/-- The span between two marks. -/
def span (x : ColumnIndex) (start stop : Mark) (startLine : Nat) : Span :=
  ⟨start.offset, stop.offset, x.lineColumn start startLine, x.lineColumn stop startLine⟩

end ColumnIndex

end EmbeddedScripts
