/-!
# Binary floating point numbers of 64 bits

A `Binary64` is a nonnegative number of 53 binary digits at most. `ofRatio?` is the nearest one to a
fraction, a tie going to the even one; `ofDecimal?` reads a decimal number with one rounding for its
digits and one for its power of ten.
-/

namespace EmbeddedScripts.Decimal

/-- The number `mantissa * 2 ^ exponent`. -/
structure Binary64 where
  mantissa : Nat
  exponent : Int
deriving DecidableEq, Repr, Inhabited

/-- The quotient rounded to the nearest integer, a tie to the even one. -/
def roundDiv (num den : Nat) : Nat :=
  let q := num / den
  let r := num % den
  if 2 * r < den then q else if den < 2 * r then q + 1 else q + q % 2

namespace Binary64

/-- The least exponent. -/
def minExponent : Int := -1074

/-- The greatest exponent. -/
def maxExponent : Int := 971

def zero : Binary64 := ⟨0, minExponent⟩

/-- The number as a fraction. -/
def ratio (x : Binary64) : Nat × Nat :=
  (x.mantissa * Nat.pow 2 x.exponent.toNat, Nat.pow 2 (-x.exponent).toNat)

/-- The number nearest to a fraction; `none` if the fraction is too great. -/
def ofRatio? (num den : Nat) : Option Binary64 :=
  if num = 0 then some zero
  else
    let scaled (e : Int) := (num * Nat.pow 2 (-e).toNat, den * Nat.pow 2 e.toNat)
    let e : Int := num.log2 - den.log2 - 52
    let e := if (scaled e).1 < Nat.pow 2 52 * (scaled e).2 then e - 1 else e
    let e := max minExponent e
    let m := roundDiv (scaled e).1 (scaled e).2
    let x : Binary64 := if m = Nat.pow 2 53 then ⟨Nat.pow 2 52, e + 1⟩ else ⟨m, e⟩
    if maxExponent < x.exponent then none else some x

def mul? (x y : Binary64) : Option Binary64 :=
  ofRatio? (x.ratio.1 * y.ratio.1) (x.ratio.2 * y.ratio.2)

def div? (x y : Binary64) : Option Binary64 :=
  ofRatio? (x.ratio.1 * y.ratio.2) (x.ratio.2 * y.ratio.1)

/-- The greatest power of ten that is taken in one step. -/
def maxPower : Nat := 308

def powerOfTen? (n : Nat) : Option Binary64 := ofRatio? (Nat.pow 10 n) 1

/-- The number divided by a power of ten, in `steps` steps of `maxPower` at most before the last. -/
def divPower? : (steps : Nat) → Binary64 → (n : Nat) → Option Binary64
  | steps, x, n =>
    if x.mantissa = 0 then some zero
    else if n ≤ maxPower then do x.div? (← powerOfTen? n)
    else
      match steps with
      | 0 => some zero
      | steps + 1 => do divPower? steps (← x.div? (← powerOfTen? maxPower)) (n - maxPower)

/-- The number `digits * 10 ^ power`; `none` if it is too great. -/
def ofDecimal? (digits : Nat) (power : Int) : Option Binary64 := do
  let x ← ofRatio? digits 1
  if x.mantissa = 0 then return zero
  else if power < 0 then divPower? 3 x (-power).toNat
  else if power ≤ maxPower then x.mul? (← powerOfTen? power.toNat)
  else none

end Binary64

end EmbeddedScripts.Decimal
