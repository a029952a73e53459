import EmbeddedScripts.Json.Failure

/-!
# Numbers of JSON

`number` reads a number: an integer if it is written as one and fits into 64 bits, else a binary
number. Digits beyond those of 64 bits only count for the power of ten. `skipNumber` passes over a
number of any size.
-/

namespace EmbeddedScripts.Json

/-- Splits the digits off the beginning of a text. -/
def digits (cs : List Char) : List Char × List Char :=
  (cs.takeWhile Char.isDigit, cs.dropWhile Char.isDigit)

theorem length_digits (cs : List Char) : (digits cs).2.length ≤ cs.length :=
  (List.dropWhile_sublist (p := Char.isDigit)).length_le

def digitValue (c : Char) : Nat := c.toNat - '0'.toNat

/-- The greatest number that digits are gathered to. -/
def maxGathered : Nat := Nat.pow 2 64 - 1

/-- Digits gathered into a number times a power of ten. -/
structure Gathered where
  value : Nat := 0
  power : Int := 0
  /-- Whether a digit did not fit any more. -/
  full : Bool := false
deriving Inhabited

/-- Gathers a digit in front of the point. One that does not fit counts for the power. -/
def Gathered.addWhole (g : Gathered) (c : Char) : Gathered :=
  let value := g.value * 10 + digitValue c
  if g.full || maxGathered < value then { g with power := g.power + 1, full := true }
  else { g with value }

/-- Gathers a digit behind the point. One that does not fit is dropped. -/
def Gathered.addFraction (g : Gathered) (c : Char) : Gathered :=
  let value := g.value * 10 + digitValue c
  if g.full || maxGathered < value then { g with full := true }
  else { g with value, power := g.power - 1 }

/-- A number as it is written. -/
structure Written where
  whole : List Char
  fraction : Option (List Char) := none
  /-- Whether the exponent is negative, and its digits. -/
  exponent : Option (Bool × List Char) := none
deriving Inhabited

/-- The digits in front of the point: one zero, or digits that do not begin with a zero. `atEnd` is
the fault of a text that ends here. -/
def wholePart (atEnd : Fault) : Reader (List Char)
  | [] => fail atEnd []
  | c :: cs =>
    if c = '0' then
      match cs with
      | d :: _ => if d.isDigit then failAt .invalidNumber cs else .ok ([c], cs)
      | [] => .ok ([c], cs)
    else if c.isDigit then .ok (c :: (digits cs).1, (digits cs).2)
    else failAt .invalidNumber (c :: cs)

/-- The digits behind the point, if there is one. -/
def fractionPart (atEnd : Fault) : Reader (Option (List Char))
  | '.' :: cs =>
    match digits cs with
    | ([], []) => fail atEnd []
    | ([], rest) => failAt .invalidNumber rest
    | (fraction, rest) => .ok (some fraction, rest)
  | cs => .ok (none, cs)

/-- Splits the sign off an exponent. -/
def exponentSign : List Char → Bool × List Char
  | '+' :: cs => (false, cs)
  | '-' :: cs => (true, cs)
  | cs => (false, cs)

/-- The sign and the digits of the exponent, if there is one. -/
def exponentPart (atEnd : Fault) : Reader (Option (Bool × List Char))
  | [] => .ok (none, [])
  | c :: cs =>
    if c = 'e' ∨ c = 'E' then
      let (negative, cs) := exponentSign cs
      match cs with
      | [] => fail atEnd []
      | d :: ds =>
        if d.isDigit then .ok (some (negative, d :: (digits ds).1), (digits ds).2)
        else failAt .invalidNumber cs
    else .ok (none, c :: cs)

/-- Reads a number without its sign. -/
def written (atEnd : Fault) : Reader Written := fun cs => do
  let (whole, cs) ← wholePart atEnd cs
  let (fraction, cs) ← fractionPart atEnd cs
  let (exponent, cs) ← exponentPart atEnd cs
  return (⟨whole, fraction, exponent⟩, cs)

/-! ## Values -/

/-- The greatest exponent that is told from greater ones. -/
def maxWrittenExponent : Nat := Nat.pow 2 31 - 1

/-- The digits of an exponent up to the first one that does not fit. -/
def exponentValue (n : Nat) : List Char → Except (List Char) Nat
  | [] => .ok n
  | c :: cs =>
    let n := n * 10 + digitValue c
    if maxWrittenExponent < n then .error cs else exponentValue n cs

/-- The value of a written number; `rest` is the text after it. -/
def valueOf (negative : Bool) (w : Written) (rest : List Char) : Except Failure Found :=
  let whole := w.whole.foldl Gathered.addWhole {}
  match w.fraction, w.exponent with
  | none, none =>
    if !whole.full && !negative then .ok (.integer whole.value)
    else if !whole.full && 0 < whole.value && whole.value ≤ Nat.pow 2 63 then
      .ok (.integer (-whole.value))
    else decimal whole.value whole.power
  | fraction, exponent =>
    let all := (fraction.getD []).foldl Gathered.addFraction { whole with full := false }
    match exponent with
    | none => decimal all.value all.power
    | some (down, ds) =>
      match exponentValue 0 ds with
      | .ok n => decimal all.value (if down then all.power - n else all.power + n)
      | .error left =>
        if all.value ≠ 0 ∧ !down then fail .numberOutOfRange (left ++ rest)
        else .ok (.decimal negative .zero)
where
  /-- The binary number nearest to a decimal one. -/
  decimal (value : Nat) (power : Int) : Except Failure Found :=
    match Decimal.Binary64.ofDecimal? value power with
    | some x => .ok (.decimal negative x)
    | none => fail .numberOutOfRange rest

/-- Reads a number after its sign. -/
def number (negative : Bool) : Reader Found := fun cs => do
  let (w, rest) ← written .endInValue cs
  let value ← valueOf negative w rest
  return (value, rest)

/-- Passes over a number after its sign. -/
def skipNumber (cs : List Char) : Except Failure (List Char) :=
  (written .invalidNumber cs).map (·.2)

/-! ## What the readers leave -/

theorem length_wholePart {atEnd : Fault} {cs whole rest : List Char}
    (h : wholePart atEnd cs = .ok (whole, rest)) : rest.length < cs.length := by
  unfold wholePart at h
  split at h
  · simp [fail] at h
  · next c cs =>
    split at h
    · split at h
      · split at h
        · simp [failAt] at h
        · simp only [Except.ok.injEq, Prod.mk.injEq] at h
          simp [← h.2]
      · simp only [Except.ok.injEq, Prod.mk.injEq] at h
        simp [← h.2]
    · split at h
      · simp only [Except.ok.injEq, Prod.mk.injEq] at h
        have := length_digits cs
        simp [← h.2]
        omega
      · simp [failAt] at h

theorem length_fractionPart {atEnd : Fault} {cs rest : List Char} {fraction : Option (List Char)}
    (h : fractionPart atEnd cs = .ok (fraction, rest)) : rest.length ≤ cs.length := by
  unfold fractionPart at h
  split at h
  · next cs =>
    have hl := length_digits cs
    split at h
    · simp [fail] at h
    · simp [failAt] at h
    · next hd =>
      simp only [Except.ok.injEq, Prod.mk.injEq] at h
      simp only [hd, h.2] at hl
      simp
      omega
  · simp only [Except.ok.injEq, Prod.mk.injEq] at h
    simp [h.2]

theorem length_exponentSign (cs : List Char) : (exponentSign cs).2.length ≤ cs.length := by
  unfold exponentSign
  split <;> simp

theorem length_exponentPart {atEnd : Fault} {cs rest : List Char}
    {exponent : Option (Bool × List Char)} (h : exponentPart atEnd cs = .ok (exponent, rest)) :
    rest.length ≤ cs.length := by
  unfold exponentPart at h
  split at h
  · simp_all
  · next c cs =>
    split at h
    · have hs := length_exponentSign cs
      simp only at h
      split at h
      · simp [fail] at h
      · next d ds hd =>
        split at h
        · simp only [Except.ok.injEq, Prod.mk.injEq] at h
          have := length_digits ds
          simp only [hd, List.length_cons] at hs
          simp [← h.2]
          omega
        · simp [failAt] at h
    · simp only [Except.ok.injEq, Prod.mk.injEq] at h
      simp [← h.2]

theorem length_skipNumber {cs rest : List Char} (h : skipNumber cs = .ok rest) :
    rest.length < cs.length := by
  simp only [skipNumber, written] at h
  cases h1 : wholePart .invalidNumber cs with
  | error => simp [h1, bind, Except.bind, Except.map] at h
  | ok a =>
    obtain ⟨whole, r1⟩ := a
    simp only [h1, bind, Except.bind] at h
    cases h2 : fractionPart .invalidNumber r1 with
    | error => simp [h2, Except.map] at h
    | ok b =>
      obtain ⟨fraction, r2⟩ := b
      simp only [h2] at h
      cases h3 : exponentPart .invalidNumber r2 with
      | error => simp [h3, Except.map] at h
      | ok c =>
        obtain ⟨exponent, r3⟩ := c
        simp only [h3, pure, Except.pure, Except.map, Except.ok.injEq] at h
        subst h
        have := length_wholePart h1
        have := length_fractionPart h2
        have := length_exponentPart h3
        omega

end EmbeddedScripts.Json
