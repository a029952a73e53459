import EmbeddedScripts.Text.CaseData

/-!
# Lower case

`lowercase` is the full lower-casing of Unicode: a character may have a lower case of two, and a
capital sigma at the end of a word becomes a final one.
-/

namespace EmbeddedScripts.Text

/-- The lower case of a character that has a single one. -/
def CaseRun.lower? (r : CaseRun) (c : Char) : Option Char :=
  if r.first ≤ c.toNat && c.toNat ≤ r.last && (c.toNat - r.first) % r.stride == 0 then
    some (Char.ofNat (r.target + (c.toNat - r.first)))
  else none

/-- The lower case of a character on its own. -/
def lowerChar (c : Char) : List Char :=
  if c.toNat < 128 then [c.toLower]
  else if c = 'İ' then ['i', '\u0307']
  else [(lowerRuns.findSome? (·.lower? c)).getD c]

/-- Whether the characters begin with a cased one, after any that are ignored. -/
def meetsCased (cs : List Char) : Bool :=
  match cs.dropWhile (inRanges caseIgnorableRanges) with
  | [] => false
  | c :: _ => inRanges casedRanges c

/-- The lower case of a text; `before` is what precedes it, last character first. -/
def lowerChars (before : List Char) : List Char → List Char
  | [] => []
  | c :: cs =>
    let lower :=
      if c = 'Σ' then [if meetsCased before && !meetsCased cs then 'ς' else 'σ'] else lowerChar c
    lower ++ lowerChars (c :: before) cs

/-- The lower case of a text. -/
def lowercase (s : String) : String := String.ofList (lowerChars [] s.toList)

end EmbeddedScripts.Text
