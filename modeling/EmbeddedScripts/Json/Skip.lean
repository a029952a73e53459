import EmbeddedScripts.Json.Number
import EmbeddedScripts.Json.Text

/-!
# Passing over values

`skipValue` passes over a value of any nesting. The lists and objects that are open are kept in a
list, so that nesting never reaches the call stack.
-/

namespace EmbeddedScripts.Json

/-- A list or an object that is open. -/
inductive Frame where
  | list
  | object
deriving DecidableEq, Repr, Inhabited

namespace Frame

def close : Frame → Char
  | list => ']'
  | object => '\x7d'

/-- The fault of a text that ends inside. -/
def atEnd : Frame → Fault
  | list => .endInList
  | object => .endInObject

/-- The fault of an item that neither a comma nor the end follows. -/
def afterItem : Frame → Fault
  | list => .expectedListCommaOrEnd
  | object => .expectedObjectCommaOrEnd

end Frame

/-- Passes over a value that is neither a list nor an object. -/
def skipScalar : List Char → Except Failure (List Char)
  | [] => fail .endInValue []
  | c :: cs =>
    if c = 'n' then letters ['u', 'l', 'l'] cs
    else if c = 't' then letters ['r', 'u', 'e'] cs
    else if c = 'f' then letters ['a', 'l', 's', 'e'] cs
    else if c = '-' then skipNumber cs
    else if c.isDigit then skipNumber (c :: cs)
    else if c = '"' then skipText cs
    else failAt .expectedValue (c :: cs)

/-- Passes over the colon after the name of a member. -/
def skipColon (text : List Char) : Except Failure (List Char) :=
  match skipSpace text with
  | [] => fail .endInObject []
  | c :: cs => if c = ':' then .ok cs else failAt .expectedColon (c :: cs)

/-- Passes over what comes before the value of an item: the name of a member with its colon. -/
def skipItemStart (f : Frame) (text : List Char) : Except Failure (List Char) :=
  match f with
  | .list => .ok text
  | .object =>
    match skipSpace text with
    | [] => fail .endInObject []
    | c :: cs =>
      if c = '"' then
        match skipText cs with
        | .error e => .error e
        | .ok rest => skipColon rest
      else failAt .keyNotString (c :: cs)

theorem length_skipScalar {text rest : List Char} (h : skipScalar text = .ok rest) :
    rest.length < text.length := by
  unfold skipScalar at h
  split at h
  · simp [fail] at h
  · next c cs =>
    repeat' split at h
    · have := length_letters h
      simp
      omega
    · have := length_letters h
      simp
      omega
    · have := length_letters h
      simp
      omega
    · have := length_skipNumber h
      simp
      omega
    · exact length_skipNumber h
    · have := length_skipText h
      simp
      omega
    · simp [failAt] at h

theorem length_skipColon {text rest : List Char} (h : skipColon text = .ok rest) :
    rest.length < text.length := by
  have hl := length_skipSpace text
  simp only [skipColon] at h
  split at h
  · simp [fail] at h
  · next c cs hs =>
    split at h
    · simp only [hs, List.length_cons] at hl
      simp only [Except.ok.injEq] at h
      subst h
      omega
    · simp [failAt] at h

theorem length_skipItemStart {f : Frame} {text rest : List Char}
    (h : skipItemStart f text = .ok rest) : rest.length ≤ text.length := by
  unfold skipItemStart at h
  split at h
  · simp_all
  · have hl := length_skipSpace text
    split at h
    · simp [fail] at h
    · next c cs hs =>
      simp only [hs, List.length_cons] at hl
      split at h
      · split at h
        · simp at h
        · next r hr =>
          have := length_skipText hr
          have := length_skipColon h
          omega
      · simp [failAt] at h

mutual

/-- Passes over a value, and over what is left of the open frames after it. -/
def skipInside (frames : List Frame) (text : List Char) : Except Failure (List Char) :=
  match _h : skipSpace text with
  | [] => fail .endInValue []
  | c :: cs =>
    if c = '[' then skipRest (.list :: frames) false cs
    else if c = '\x7b' then skipRest (.object :: frames) false cs
    else
      match _hs : skipScalar (c :: cs) with
      | .error e => .error e
      | .ok rest => skipRest frames true rest
termination_by (text.length, 0)
decreasing_by
  all_goals
    have := length_skipSpace text
    simp only [_h, List.length_cons] at this
    apply Prod.Lex.left
  · omega
  · omega
  · have := length_skipScalar _hs
    simp only [List.length_cons] at this
    omega

/-- Passes over what is left of the open frames; `after` tells whether an item of the innermost one
has just ended. -/
def skipRest (frames : List Frame) (after : Bool) (text : List Char) : Except Failure (List Char) :=
  match frames with
  | [] => .ok text
  | f :: outer =>
    match _h : skipSpace text with
    | [] => fail f.atEnd []
    | c :: cs =>
      if c = f.close then skipRest outer true cs
      else if after then
        if c = ',' then
          match _hi : skipItemStart f cs with
          | .error e => .error e
          | .ok rest => skipInside (f :: outer) rest
        else failAt f.afterItem (c :: cs)
      else
        match _hi : skipItemStart f (c :: cs) with
        | .error e => .error e
        | .ok rest => skipInside (f :: outer) rest
termination_by (text.length, 1)
decreasing_by
  all_goals
    have := length_skipSpace text
    simp only [_h, List.length_cons] at this
  · apply Prod.Lex.left
    omega
  · have := length_skipItemStart _hi
    apply Prod.Lex.left
    omega
  · have := length_skipItemStart _hi
    simp only [List.length_cons] at this
    by_cases he : rest.length = text.length
    · rw [he]
      apply Prod.Lex.right
      omega
    · apply Prod.Lex.left
      omega

end

/-- A value takes at least one character, provided that the rest of open frames takes none back. -/
theorem length_skipInside_of {frames : List Frame} {text rest : List Char}
    (hr : ∀ frames after cs rest, cs.length < text.length → skipRest frames after cs = .ok rest →
      rest.length ≤ cs.length)
    (h : skipInside frames text = .ok rest) : rest.length < text.length := by
  have hl := length_skipSpace text
  rw [skipInside] at h
  split at h
  · simp [fail] at h
  · next c cs hs =>
    simp only [hs, List.length_cons] at hl
    split at h
    · have := hr _ _ _ _ (by omega) h
      omega
    · split at h
      · have := hr _ _ _ _ (by omega) h
        omega
      · split at h
        · simp at h
        · next r hs =>
          have h1 := length_skipScalar hs
          simp only [List.length_cons] at h1
          have := hr _ _ _ _ (by omega) h
          omega

theorem length_skipRest {frames : List Frame} {after : Bool} {text rest : List Char}
    (h : skipRest frames after text = .ok rest) : rest.length ≤ text.length := by
  induction hn : text.length using Nat.strongRecOn generalizing frames after text rest with
  | ind n ih =>
    have inside : ∀ {frames : List Frame} {cs rest : List Char}, cs.length ≤ n →
        skipInside frames cs = .ok rest → rest.length < cs.length := fun hc h =>
      length_skipInside_of (fun _ _ ds _ hd h => ih ds.length (by omega) h rfl) h
    have hl := length_skipSpace text
    rw [skipRest.eq_def] at h
    split at h
    · simp only [Except.ok.injEq] at h
      simp [← h, hn]
    · split at h
      · simp [fail] at h
      · next c cs hs =>
        simp only [hs, List.length_cons] at hl
        split at h
        · have := ih cs.length (by omega) h rfl
          omega
        · split at h
          · split at h
            · split at h
              · simp at h
              · next r hr =>
                have h1 := length_skipItemStart hr
                have := inside (by omega) h
                omega
            · simp [failAt] at h
          · split at h
            · simp at h
            · next r hr =>
              have h1 := length_skipItemStart hr
              simp only [List.length_cons] at h1
              have := inside (by omega) h
              omega

theorem length_skipInside {frames : List Frame} {text rest : List Char}
    (h : skipInside frames text = .ok rest) : rest.length < text.length :=
  length_skipInside_of (fun _ _ _ _ _ h => length_skipRest h) h

/-- Passes over a value. -/
def skipValue (text : List Char) : Except Failure (List Char) := skipInside [] text

theorem length_skipValue {text rest : List Char} (h : skipValue text = .ok rest) :
    rest.length < text.length := length_skipInside h

end EmbeddedScripts.Json
