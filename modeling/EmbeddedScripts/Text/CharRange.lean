/-!
# Ranges of characters

A property of characters is given by the ranges of code points that have it.
-/

namespace EmbeddedScripts.Text

/-- The code points from `first` to `last`. -/
structure CharRange where
  first : Nat
  last : Nat
deriving DecidableEq, Repr, Inhabited

/-- Whether a character lies in the range. -/
def CharRange.has (r : CharRange) (c : Char) : Bool := r.first ≤ c.toNat && c.toNat ≤ r.last

/-- Whether a character lies in one of the ranges. -/
def inRanges (ranges : List CharRange) (c : Char) : Bool := ranges.any (·.has c)

end EmbeddedScripts.Text
