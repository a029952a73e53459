import EmbeddedScripts.Json.Failure
import EmbeddedScripts.Text.Bytes

/-!
# Strings of JSON

`text` reads a string after its opening quote and decodes its escapes. `skipText` passes over one;
it does not care whether its surrogates are paired.
-/

namespace EmbeddedScripts.Json

/-! ## Escapes -/

/-- The value of a hexadecimal digit. -/
def hexDigit? (c : Char) : Option Nat :=
  if '0' ≤ c ∧ c ≤ '9' then some (c.toNat - '0'.toNat)
  else if 'a' ≤ c ∧ c ≤ 'f' then some (c.toNat - 'a'.toNat + 10)
  else if 'A' ≤ c ∧ c ≤ 'F' then some (c.toNat - 'A'.toNat + 10)
  else none

/-- The number written by four hexadecimal digits, and the text after them. -/
def hexDigits? : List Char → Option (Nat × List Char)
  | a :: b :: c :: d :: rest => do
    let a ← hexDigit? a
    let b ← hexDigit? b
    let c ← hexDigit? c
    let d ← hexDigit? d
    return (((a * 16 + b) * 16 + c) * 16 + d, rest)
  | _ => none

/-- Reads four hexadecimal digits. -/
def hexEscape : Reader Nat := fun cs =>
  match hexDigits? cs with
  | some found => .ok found
  | none =>
    if Text.byteLength cs < 4 then fail .endInString [] else .error ⟨.invalidEscape, cs, 4⟩

/-- Reads the second half of a surrogate pair whose first half is `high`. -/
def lowSurrogate (high : Nat) : Reader Char
  | '\\' :: 'u' :: cs => do
    let (low, rest) ← hexEscape cs
    if 0xDC00 ≤ low ∧ low ≤ 0xDFFF then
      return (Char.ofNat ((high - 0xD800) * 0x400 + (low - 0xDC00) + 0x10000), rest)
    else fail .loneSurrogate rest
  | '\\' :: c :: cs => failAt .unexpectedEndOfEscape (c :: cs)
  | ['\\'] => fail .endInString []
  | [] => fail .endInString []
  | c :: cs => failAt .unexpectedEndOfEscape (c :: cs)

/-- Reads the digits of an escaped code unit, and those of its partner if it is half of a pair. -/
def unicodeEscape : Reader Char := fun cs => do
  let (unit, rest) ← hexEscape cs
  if 0xDC00 ≤ unit ∧ unit ≤ 0xDFFF then fail .loneSurrogate rest
  else if 0xD800 ≤ unit ∧ unit ≤ 0xDBFF then lowSurrogate unit rest
  else return (Char.ofNat unit, rest)

/-- The character that a letter after a backslash stands for. -/
def simpleEscape? (c : Char) : Option Char :=
  if c = '"' ∨ c = '\\' ∨ c = '/' then some c
  else if c = 'b' then some '\x08'
  else if c = 'f' then some '\x0c'
  else if c = 'n' then some '\n'
  else if c = 'r' then some '\r'
  else if c = 't' then some '\t'
  else none

/-- Reads an escape after its backslash. -/
def escape : Reader Char
  | [] => fail .endInString []
  | c :: cs =>
    match simpleEscape? c with
    | some e => .ok (e, cs)
    | none => if c = 'u' then unicodeEscape cs else failAt .invalidEscape (c :: cs)

/-- Passes over an escape after its backslash. -/
def skipEscape : List Char → Except Failure (List Char)
  | [] => fail .endInString []
  | c :: cs =>
    match simpleEscape? c with
    | some _ => .ok cs
    | none =>
      if c = 'u' then (hexEscape cs).map (·.2) else failAt .invalidEscape (c :: cs)

/-! ## What the readers leave -/

theorem length_hexEscape {cs rest : List Char} {n : Nat} (h : hexEscape cs = .ok (n, rest)) :
    rest.length < cs.length := by
  simp only [hexEscape] at h
  split at h
  · next found hf =>
    simp only [Except.ok.injEq] at h
    subst h
    unfold hexDigits? at hf
    split at hf
    · simp only [Option.bind_eq_bind, Option.bind_eq_some_iff, Option.pure_def, Option.some.injEq,
        Prod.mk.injEq] at hf
      obtain ⟨_, _, _, _, _, _, _, _, _, rfl⟩ := hf
      simp
      omega
    · simp at hf
  · split at h <;> simp [fail] at h

theorem length_lowSurrogate {high : Nat} {cs rest : List Char} {e : Char}
    (h : lowSurrogate high cs = .ok (e, rest)) : rest.length < cs.length := by
  unfold lowSurrogate at h
  split at h
  · next cs =>
    cases hx : hexEscape cs with
    | error => simp [hx, bind, Except.bind] at h
    | ok found =>
      obtain ⟨low, r⟩ := found
      have := length_hexEscape hx
      simp only [hx, bind, Except.bind] at h
      split at h
      · simp only [pure, Except.pure, Except.ok.injEq, Prod.mk.injEq] at h
        obtain ⟨-, rfl⟩ := h
        simp
        omega
      · simp [fail] at h
  all_goals simp [fail, failAt] at h

theorem length_escape {cs rest : List Char} {e : Char} (h : escape cs = .ok (e, rest)) :
    rest.length < cs.length := by
  unfold escape at h
  split at h
  · simp [fail] at h
  · next c cs =>
    split at h
    · simp only [Except.ok.injEq, Prod.mk.injEq] at h
      obtain ⟨-, rfl⟩ := h
      simp
    · split at h
      · simp only [unicodeEscape] at h
        cases hx : hexEscape cs with
        | error => simp [hx, bind, Except.bind] at h
        | ok found =>
          obtain ⟨unit, r⟩ := found
          have hl := length_hexEscape hx
          simp only [hx, bind, Except.bind] at h
          split at h
          · simp [fail] at h
          · split at h
            · have := length_lowSurrogate h
              simp
              omega
            · simp only [pure, Except.pure, Except.ok.injEq, Prod.mk.injEq] at h
              obtain ⟨-, rfl⟩ := h
              simp
              omega
      · simp [failAt] at h

theorem length_skipEscape {cs rest : List Char} (h : skipEscape cs = .ok rest) :
    rest.length < cs.length := by
  unfold skipEscape at h
  split at h
  · simp [fail] at h
  · next c cs =>
    split at h
    · simp only [Except.ok.injEq] at h
      simp [h]
    · split at h
      · cases hx : hexEscape cs with
        | error => simp [hx, Except.map] at h
        | ok found =>
          have := length_hexEscape hx
          simp only [hx, Except.map, Except.ok.injEq] at h
          subst h
          simp
          omega
      · simp [failAt] at h

/-! ## Strings -/

/-- Reads a string up to its closing quote, and that too. -/
def text (cs : List Char) : Except Failure (List Char × List Char) :=
  match cs with
  | [] => fail .endInString []
  | c :: cs =>
    if c = '"' then .ok ([], cs)
    else if c = '\\' then
      match _h : escape cs with
      | .error e => .error e
      | .ok (e, rest) => (text rest).map fun (read, rest) => (e :: read, rest)
    else if c < ' ' then failAt .controlCharacter (c :: cs)
    else (text cs).map fun (read, rest) => (c :: read, rest)
termination_by cs.length
decreasing_by
  · have := length_escape _h
    simp
    omega
  · simp

/-- Passes over a string up to its closing quote, and that too. -/
def skipText (cs : List Char) : Except Failure (List Char) :=
  match cs with
  | [] => fail .endInString []
  | c :: cs =>
    if c = '"' then .ok cs
    else if c = '\\' then
      match _h : skipEscape cs with
      | .error e => .error e
      | .ok rest => skipText rest
    else if c < ' ' then fail .controlCharacter (c :: cs)
    else skipText cs
termination_by cs.length
decreasing_by
  · have := length_skipEscape _h
    simp
    omega
  · simp

theorem length_text {cs read rest : List Char} (h : text cs = .ok (read, rest)) :
    rest.length < cs.length := by
  fun_induction text cs generalizing read with
  | case1 => simp [fail] at h
  | case2 => simp_all
  | case3 => simp at h
  | case4 cs e r he _ ih =>
    cases hx : text r with
    | error => simp [hx, Except.map] at h
    | ok found =>
      simp only [hx, Except.map, Except.ok.injEq, Prod.mk.injEq] at h
      obtain ⟨-, rfl⟩ := h
      have := length_escape he
      have := ih hx
      simp
      omega
  | case5 => simp [failAt] at h
  | case6 c cs _ _ _ ih =>
    cases hx : text cs with
    | error => simp [hx, Except.map] at h
    | ok found =>
      simp only [hx, Except.map, Except.ok.injEq, Prod.mk.injEq] at h
      obtain ⟨-, rfl⟩ := h
      have := ih hx
      simp
      omega

theorem length_skipText {cs rest : List Char} (h : skipText cs = .ok rest) :
    rest.length < cs.length := by
  fun_induction skipText cs with
  | case1 => simp [fail] at h
  | case2 => simp_all
  | case3 => simp at h
  | case4 cs r he _ ih =>
    have := length_skipEscape he
    have := ih h
    simp
    omega
  | case5 => simp [fail] at h
  | case6 c cs _ _ _ ih =>
    have := ih h
    simp
    omega

end EmbeddedScripts.Json
