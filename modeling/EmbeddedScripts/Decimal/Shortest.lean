import EmbeddedScripts.Decimal.Binary64

/-!
# The shortest decimal

`shortest` gives the fewest decimal digits that are read back as a given binary number, and of those
the nearest to it. `Binary64.text` writes them positionally for numbers of moderate size, and with a
power of ten for the others.
-/

namespace EmbeddedScripts.Decimal

/-- The number `digits * 10 ^ power`. -/
structure Digits where
  digits : Nat
  power : Int
deriving DecidableEq, Repr, Inhabited

/-- Whether `a / b < c / d` or, if `closed`, the two are equal. -/
def isBelow (closed : Bool) (a b c d : Nat) : Bool := a * d < c * b || (closed && a * d == c * b)

/-- Whether a decimal is read back as `x`: it lies between the midpoints to the neighbours of `x`, or
on one of them if `x` is even. -/
def readsBack (x : Binary64) (d : Digits) : Bool :=
  let closed := x.mantissa % 2 == 0
  let low : Binary64 :=
    if x.mantissa = Nat.pow 2 52 && Binary64.minExponent < x.exponent then
      ⟨4 * x.mantissa - 1, x.exponent - 2⟩
    else ⟨2 * x.mantissa - 1, x.exponent - 1⟩
  let high : Binary64 := ⟨2 * x.mantissa + 1, x.exponent - 1⟩
  let (num, den) := (d.digits * Nat.pow 10 d.power.toNat, Nat.pow 10 (-d.power).toNat)
  isBelow closed low.ratio.1 low.ratio.2 num den && isBelow closed num den high.ratio.1 high.ratio.2

/-- The two decimals with the power of ten `power` around `x`, the nearer one first. -/
def neighbours (x : Binary64) (power : Int) : List Digits :=
  let num := x.ratio.1 * Nat.pow 10 (-power).toNat
  let den := x.ratio.2 * Nat.pow 10 power.toNat
  let low := num / den
  let below : Digits := ⟨low, power⟩
  let above : Digits := ⟨low + 1, power⟩
  if roundDiv num den = low then [below, above] else [above, below]

/-- The least `n` from `n` on for which `10 ^ n` is above `x`, with `steps` tries. -/
def magnitude (x : Binary64) : (steps : Nat) → (n : Int) → Int
  | 0, n => n
  | steps + 1, n =>
    if isBelow false x.ratio.1 x.ratio.2 (Nat.pow 10 n.toNat) (Nat.pow 10 (-n).toNat) then n
    else magnitude x steps (n + 1)

/-- The shortest decimal of `count` digits or more that is read back as `x`, which is below
`10 ^ size`. It has no zero at its end. -/
def shortestFrom (x : Binary64) (size : Int) : (steps count : Nat) → Digits
  | 0, _ => default
  | steps + 1, count =>
    match (neighbours x (size - count)).find? (readsBack x) with
    | some d => if d.digits % 10 = 0 then ⟨d.digits / 10, d.power + 1⟩ else d
    | none => shortestFrom x size steps (count + 1)

/-- The shortest decimal that is read back as `x`, which is not zero. -/
def shortest (x : Binary64) : Digits := shortestFrom x (magnitude x 640 (-324)) 17 1

/-- The text of a number: positional from a hundred thousandth up to ten to the sixteenth. -/
def Binary64.text (x : Binary64) : String :=
  if x.mantissa = 0 then "0.0"
  else
    let d := shortest x
    let digits := Nat.toDigits 10 d.digits
    let size := digits.length + d.power
    let zeros (n : Int) := List.replicate n.toNat '0'
    String.ofList <|
      if 0 ≤ d.power && size ≤ 16 then digits ++ zeros d.power ++ ['.', '0']
      else if 0 < size && size ≤ 16 then
        digits.take size.toNat ++ ['.'] ++ digits.drop size.toNat
      else if -5 < size && size ≤ 0 then ['0', '.'] ++ zeros (-size) ++ digits
      else
        let mantissa := match digits with
          | first :: more => if more.isEmpty then [first] else first :: '.' :: more
          | [] => []
        mantissa ++ ['e'] ++ (toString (size - 1)).toList

end EmbeddedScripts.Decimal
