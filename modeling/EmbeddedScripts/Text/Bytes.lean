/-!
# Texts in bytes

Offsets and lengths of texts count the bytes of their UTF-8 form. `slice` cuts a text between two
byte offsets; `byteLength` is the length of a list of characters.
-/

namespace EmbeddedScripts.Text

/-- The number of bytes of a list of characters. -/
def byteLength : List Char → Nat
  | [] => 0
  | c :: cs => c.utf8Size + byteLength cs

@[simp] theorem byteLength_nil : byteLength [] = 0 := rfl

@[simp] theorem byteLength_cons (c : Char) (cs : List Char) :
    byteLength (c :: cs) = c.utf8Size + byteLength cs := rfl

@[simp] theorem byteLength_append (cs ds : List Char) :
    byteLength (cs ++ ds) = byteLength cs + byteLength ds := by
  induction cs with
  | nil => simp
  | cons c cs ih => simp [ih, Nat.add_assoc]

/-- The text between two byte offsets. -/
def slice (s : String) (start stop : Nat) : String := String.Pos.Raw.extract s ⟨start⟩ ⟨stop⟩

/-- The characters from a byte offset on; `none` if the offset is inside a character or past the
end. -/
def dropBytes? : Nat → List Char → Option (List Char)
  | 0, cs => some cs
  | _ + 1, [] => none
  | n + 1, c :: cs => if n + 1 < c.utf8Size then none else dropBytes? (n + 1 - c.utf8Size) cs

/-- A text of `n` spaces. -/
def spaces (n : Nat) : String := String.ofList (List.replicate n ' ')

end EmbeddedScripts.Text
