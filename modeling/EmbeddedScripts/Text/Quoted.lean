import EmbeddedScripts.Text.PrintableData

/-!
# Quoted texts

`quoted` writes a text between quotes so that it can be read off a line of print: quotes, backslashes
and line breaks are written as escapes, and unprintable characters by their code points.
-/

namespace EmbeddedScripts.Text

/-- Whether a character is written by its code point. -/
def isUnprintable (c : Char) : Bool :=
  if c.toNat < 128 then c < ' ' || c == '\x7f' else inRanges unprintableRanges c

/-- A character inside quotes. -/
def quotedChar (c : Char) : List Char :=
  if c = '"' then ['\\', '"']
  else if c = '\\' then ['\\', '\\']
  else if c = '\n' then ['\\', 'n']
  else if c = '\r' then ['\\', 'r']
  else if c = '\t' then ['\\', 't']
  else if c = '\x00' then ['\\', '0']
  else if isUnprintable c then ['\\', 'u', '\x7b'] ++ Nat.toDigits 16 c.toNat ++ ['\x7d']
  else [c]

/-- A text between quotes. -/
def quoted (s : String) : String :=
  "\"" ++ String.ofList (s.toList.flatMap quotedChar) ++ "\""

end EmbeddedScripts.Text
