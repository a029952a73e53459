/-!
# Marks

A `Mark` is a place in a text, counted the three ways a concrete syntax tree reports it: bytes of
UTF-8 before it, line feeds before it, and bytes since the last line feed. `Mark.advanceAll` moves a
mark over a piece of text, and splits over concatenation (`advanceAll_append`). A `Cursor` is a mark
together with the text that is still to be read there.
-/

namespace EmbeddedScripts

/-- A place in a text: the bytes before it, the line feeds before it, the bytes since the last of
those. -/
structure Mark where
  offset : Nat
  row : Nat
  column : Nat
deriving DecidableEq, Repr, Inhabited

namespace Mark

/-- The beginning of a text. -/
def zero : Mark := ⟨0, 0, 0⟩

/-- The place after `c`. Only a line feed ends a row. -/
def advance (m : Mark) (c : Char) : Mark :=
  if c = '\n' then ⟨m.offset + 1, m.row + 1, 0⟩
  else ⟨m.offset + c.utf8Size, m.row, m.column + c.utf8Size⟩

/-- The place after all of `cs`. -/
def advanceAll (m : Mark) (cs : List Char) : Mark := cs.foldl advance m

@[simp] theorem advanceAll_nil (m : Mark) : m.advanceAll [] = m := rfl

@[simp] theorem advanceAll_cons (m : Mark) (c : Char) (cs : List Char) :
    m.advanceAll (c :: cs) = (m.advance c).advanceAll cs := rfl

theorem advanceAll_append (m : Mark) (cs ds : List Char) :
    m.advanceAll (cs ++ ds) = (m.advanceAll cs).advanceAll ds := by
  simp [advanceAll]

end Mark

/-- A mark and the text that follows it. -/
structure Cursor where
  mark : Mark
  rest : List Char
deriving Repr, Inhabited

namespace Cursor

/-- The cursor at the beginning of `text`. -/
def ofText (text : List Char) : Cursor := ⟨.zero, text⟩

/-- The cursor `n` characters further on, or at the end of the text if it is shorter. -/
def skip : Nat → Cursor → Cursor
  | 0, c => c
  | _ + 1, ⟨m, []⟩ => ⟨m, []⟩
  | n + 1, ⟨m, ch :: cs⟩ => skip n ⟨m.advance ch, cs⟩

/-- The text from the cursor up to the byte offset `stop`. -/
def textTo (stop : Nat) (c : Cursor) : List Char :=
  go c.mark.offset c.rest
where
  go (offset : Nat) : List Char → List Char
    | [] => []
    | ch :: cs => if offset < stop then ch :: go (offset + ch.utf8Size) cs else []

end Cursor

end EmbeddedScripts
