import EmbeddedScripts.Json.Skip
import EmbeddedScripts.Proofs.Slices

/-!
# Texts of JSON

The grammar of JSON beside its readers.

* `Spells s t`: between quotes `t` stands for the string `s`, by any escapes; `text_of_spells`: it
  is read as `s`. `IsString t` also allows halves of surrogate pairs, which stand for nothing;
  `skipText_of_isString`: it is passed over all the same.
* `IsUnsigned`: the texts of numbers without a sign; `skipNumber_append`: one is passed over up to
  the first character that cannot belong to it.
* `WellFormed`: the values, and what stands between the brackets of lists and objects;
  `WellFormed.passed`, by induction on the grammar: whatever lists and objects are open, the text is
  passed over as a whole, so `skipValue` passes over a value (`skipValue_append`).
-/

namespace EmbeddedScripts.Json

/-! ## Gaps -/

/-- Blanks between the parts of a text. -/
def IsGap (gap : List Char) : Prop := ∀ c ∈ gap, isSpace c = true

instance (gap : List Char) : Decidable (IsGap gap) :=
  decidable_of_iff (gap.all isSpace = true) List.all_eq_true

theorem skipSpace_append {gap : List Char} (h : IsGap gap) (text : List Char) :
    skipSpace (gap ++ text) = skipSpace text :=
  List.dropWhile_append_of_pos h

theorem skipSpace_cons {c : Char} (h : isSpace c = false) (cs : List Char) :
    skipSpace (c :: cs) = c :: cs :=
  List.dropWhile_cons_of_neg (by simp [h])

/-- What follows a gap, if it is no blank. -/
theorem skipSpace_gap {gap : List Char} (h : IsGap gap) {c : Char} (hc : isSpace c = false)
    (cs : List Char) : skipSpace (gap ++ c :: cs) = c :: cs := by
  rw [skipSpace_append h, skipSpace_cons hc]

/-! ## Strings -/

/-- The four hexadecimal digits write the number. -/
inductive WritesUnit : List Char → Nat → Prop where
  | mk {a b c d : Char} {i j k l : Nat} (ha : hexDigit? a = some i) (hb : hexDigit? b = some j)
      (hc : hexDigit? c = some k) (hd : hexDigit? d = some l) :
    WritesUnit [a, b, c, d] (((i * 16 + j) * 16 + k) * 16 + l)

/-- The letters that may follow a backslash, with the characters that they stand for there. -/
def shortEscapes : List (Char × Char) :=
  [('"', '"'), ('\\', '\\'), ('/', '/'), ('b', '\x08'), ('f', '\x0c'), ('n', '\n'), ('r', '\r'),
    ('t', '\t')]

/-- Whether a character of a string may be written as it is. -/
def isPlain (c : Char) : Bool := c != '"' && c != '\\' && !decide (c < ' ')

/-- The ways to write a character of a string: as it is, by a letter, by its code, or by the two
halves of a surrogate pair. -/
inductive SpellsChar (c : Char) : List Char → Prop where
  | plain (h : isPlain c = true) : SpellsChar c [c]
  | short {e : Char} (he : (e, c) ∈ shortEscapes) : SpellsChar c ['\\', e]
  | code {unit : List Char} (h : WritesUnit unit c.toNat) : SpellsChar c ('\\' :: 'u' :: unit)
  | pair {high low : List Char} {n : Nat} (hn : c.toNat = 0x10000 + n)
      (hhigh : WritesUnit high (0xD800 + n / 0x400)) (hlow : WritesUnit low (0xDC00 + n % 0x400)) :
    SpellsChar c ('\\' :: 'u' :: (high ++ '\\' :: 'u' :: low))

/-- The ways to write a string between quotes. -/
inductive Spells : List Char → List Char → Prop where
  | nil : Spells [] []
  | cons {c : Char} {s t u : List Char} (hc : SpellsChar c t) (hs : Spells s u) :
    Spells (c :: s) (t ++ u)

/-- What may stand between quotes, whether it stands for a string or not. -/
inductive IsString : List Char → Prop where
  | nil : IsString []
  | plain {c : Char} {t : List Char} (h : isPlain c = true) (ht : IsString t) : IsString (c :: t)
  | short {e c : Char} {t : List Char} (he : (e, c) ∈ shortEscapes) (ht : IsString t) :
    IsString ('\\' :: e :: t)
  | code {unit t : List Char} {n : Nat} (h : WritesUnit unit n) (ht : IsString t) :
    IsString ('\\' :: 'u' :: (unit ++ t))

theorem isPlain_iff {c : Char} : isPlain c = true ↔ c ≠ '"' ∧ c ≠ '\\' ∧ ¬ c < ' ' := by
  simp [isPlain, and_assoc]

/-- A string of plain characters may be written as it is. -/
theorem spells_self {s : List Char} (h : s.all isPlain = true) : Spells s s := by
  induction s with
  | nil => exact .nil
  | cons c s ih =>
    rw [List.all_cons, Bool.and_eq_true] at h
    exact .cons (.plain h.1) (ih h.2)

theorem Spells.isString {s t : List Char} (h : Spells s t) : IsString t := by
  induction h with
  | nil => exact .nil
  | cons hc _ ih =>
    cases hc with
    | plain hc => exact .plain hc ih
    | short he => exact .short he ih
    | code hunit => exact .code hunit ih
    | pair _ hhigh hlow =>
      simp only [List.cons_append, List.append_assoc]
      exact .code hhigh (.code hlow ih)

theorem simpleEscape?_of_mem {e c : Char} (h : (e, c) ∈ shortEscapes) :
    simpleEscape? e = some c := by
  have hall : ∀ p ∈ shortEscapes, simpleEscape? p.1 = some p.2 := by decide
  exact hall (e, c) h

theorem hexEscape_append {unit : List Char} {n : Nat} (h : WritesUnit unit n) (rest : List Char) :
    hexEscape (unit ++ rest) = .ok (n, rest) := by
  cases h with
  | mk ha hb hc hd => simp [hexEscape, hexDigits?, ha, hb, hc, hd]

/-- No character has the code of half a surrogate pair. -/
theorem toNat_scalar (c : Char) :
    c.toNat < 0xD800 ∨ (0xDFFF < c.toNat ∧ c.toNat < 0x110000) :=
  c.valid

/-- The two halves of a surrogate pair are read as its character. -/
theorem unicodeEscape_pair {c : Char} {high low : List Char} {n : Nat} (hn : c.toNat = 0x10000 + n)
    (hhigh : WritesUnit high (0xD800 + n / 0x400)) (hlow : WritesUnit low (0xDC00 + n % 0x400))
    (rest : List Char) :
    unicodeEscape (high ++ '\\' :: 'u' :: (low ++ rest)) = .ok (c, rest) := by
  have hmax := toNat_scalar c
  have hread : Char.ofNat ((0xD800 + n / 0x400 - 0xD800) * 0x400 + (0xDC00 + n % 0x400 - 0xDC00) +
      0x10000) = c := by
    rw [show (0xD800 + n / 0x400 - 0xD800) * 0x400 + (0xDC00 + n % 0x400 - 0xDC00) + 0x10000 =
      c.toNat by omega, Char.ofNat_toNat]
  have h1 : ¬ (0xDC00 ≤ 0xD800 + n / 0x400 ∧ 0xD800 + n / 0x400 ≤ 0xDFFF) := by omega
  have h2 : 0xD800 ≤ 0xD800 + n / 0x400 ∧ 0xD800 + n / 0x400 ≤ 0xDBFF := by omega
  have h3 : 0xDC00 ≤ 0xDC00 + n % 0x400 ∧ 0xDC00 + n % 0x400 ≤ 0xDFFF := by omega
  unfold unicodeEscape
  rw [hexEscape_append hhigh]
  simp only [bind, Except.bind]
  rw [if_neg h1, if_pos h2, lowSurrogate, hexEscape_append hlow]
  simp only [bind, Except.bind]
  rw [if_pos h3, hread]
  rfl

/-- A character that is no half of a pair is read by its code. -/
theorem unicodeEscape_code {c : Char} {unit : List Char} (h : WritesUnit unit c.toNat)
    (rest : List Char) : unicodeEscape (unit ++ rest) = .ok (c, rest) := by
  have hscalar := toNat_scalar c
  have h1 : ¬ (0xDC00 ≤ c.toNat ∧ c.toNat ≤ 0xDFFF) := by omega
  have h2 : ¬ (0xD800 ≤ c.toNat ∧ c.toNat ≤ 0xDBFF) := by omega
  unfold unicodeEscape
  rw [hexEscape_append h]
  simp only [bind, Except.bind]
  rw [if_neg h1, if_neg h2, Char.ofNat_toNat]
  rfl

/-- **A string is read as what it stands for.** -/
theorem text_of_spells {s t : List Char} (h : Spells s t) (rest : List Char) :
    text (t ++ '"' :: rest) = .ok (s, rest) := by
  induction h with
  | nil => rw [List.nil_append, text, if_pos rfl]
  | @cons c s t u hc _ ih =>
    -- each way to write the character leaves the others to be read
    have hescape : ∀ {e : List Char}, escape (e ++ (u ++ '"' :: rest)) = .ok (c, u ++ '"' :: rest) →
        text ('\\' :: (e ++ (u ++ '"' :: rest))) = .ok (c :: s, rest) := by
      intro e he
      rw [text, if_neg (by decide), if_pos rfl]
      split
      · rename_i heq
        rw [he] at heq
        cases heq
      · rename_i heq
        rw [he] at heq
        cases heq
        rw [ih]
        rfl
    cases hc with
    | plain hc =>
      obtain ⟨hquote, hback, hcontrol⟩ := isPlain_iff.1 hc
      rw [List.singleton_append, List.cons_append, text, if_neg hquote, if_neg hback,
        if_neg hcontrol, ih]
      rfl
    | @short e he =>
      refine hescape (e := [e]) ?_
      simp [escape, simpleEscape?_of_mem he]
    | @code unit hunit =>
      rw [List.append_assoc]
      refine hescape (e := 'u' :: unit) ?_
      rw [List.cons_append, escape, show simpleEscape? 'u' = none by decide]
      simp [unicodeEscape_code hunit]
    | @pair high low n hn hhigh hlow =>
      rw [List.append_assoc]
      refine hescape (e := 'u' :: (high ++ '\\' :: 'u' :: low)) ?_
      rw [List.cons_append, escape, show simpleEscape? 'u' = none by decide]
      simp [unicodeEscape_pair hn hhigh hlow]

/-- **A string is passed over**, whether it stands for something or not. -/
theorem skipText_of_isString {t : List Char} (h : IsString t) (rest : List Char) :
    skipText (t ++ '"' :: rest) = .ok rest := by
  have hescape : ∀ {e u : List Char},
      skipEscape (e ++ (u ++ '"' :: rest)) = .ok (u ++ '"' :: rest) →
      skipText ('\\' :: (e ++ (u ++ '"' :: rest))) = skipText (u ++ '"' :: rest) := by
    intro e u he
    rw [skipText, if_neg (by decide), if_pos rfl]
    split
    · rename_i heq
      rw [he] at heq
      cases heq
    · rename_i heq
      rw [he] at heq
      cases heq
      rfl
  induction h with
  | nil => rw [List.nil_append, skipText, if_pos rfl]
  | plain hc _ ih =>
    obtain ⟨hquote, hback, hcontrol⟩ := isPlain_iff.1 hc
    rw [List.cons_append, skipText, if_neg hquote, if_neg hback, if_neg hcontrol, ih]
  | @short e c t he _ ih =>
    refine (hescape (e := [e]) ?_).trans ih
    simp [skipEscape, simpleEscape?_of_mem he]
  | @code unit t n hunit _ ih =>
    rw [List.cons_append, List.cons_append, List.append_assoc]
    refine (hescape (e := 'u' :: unit) ?_).trans ih
    rw [List.cons_append, skipEscape, show simpleEscape? 'u' = none by decide]
    simp [hexEscape_append hunit, Except.map]

/-! ## Numbers -/

/-- At least one digit. -/
def IsDigits (cs : List Char) : Prop := cs ≠ [] ∧ ∀ c ∈ cs, c.isDigit = true

instance (cs : List Char) : Decidable (IsDigits cs) :=
  decidable_of_iff (cs ≠ [] ∧ cs.all Char.isDigit = true) (by simp [IsDigits])

/-- The part of a number in front of the point: a zero, or digits that begin with another one. -/
inductive IsWhole : List Char → Prop where
  | zero : IsWhole ['0']
  | digits {c : Char} {cs : List Char} (hzero : c ≠ '0') (h : IsDigits (c :: cs)) :
    IsWhole (c :: cs)

/-- The part behind the point, with it. -/
inductive IsFraction : List Char → Prop where
  | absent : IsFraction []
  | digits {cs : List Char} (h : IsDigits cs) : IsFraction ('.' :: cs)

/-- The power of ten. -/
inductive IsExponent : List Char → Prop where
  | absent : IsExponent []
  | digits {mark : Char} {sign cs : List Char} (hmark : mark = 'e' ∨ mark = 'E')
      (hsign : sign = [] ∨ sign = ['+'] ∨ sign = ['-']) (h : IsDigits cs) :
    IsExponent (mark :: (sign ++ cs))

/-- A number without its sign. -/
inductive IsUnsigned : List Char → Prop where
  | mk {whole fraction exponent : List Char} (hwhole : IsWhole whole)
      (hfraction : IsFraction fraction) (hexponent : IsExponent exponent) :
    IsUnsigned (whole ++ (fraction ++ exponent))

/-- What may come after a value: a blank, a comma or the end of a list or an object. -/
def Delimited (rest : List Char) : Prop :=
  ∀ c ∈ rest.head?, isSpace c = true ∨ c = ',' ∨ c = ']' ∨ c = '\x7d'

theorem delimited_append {gap : List Char} (h : IsGap gap) {c : Char}
    (hc : c = ',' ∨ c = ']' ∨ c = '\x7d') (rest : List Char) : Delimited (gap ++ c :: rest) := by
  cases gap with
  | nil =>
    rintro d ⟨⟩
    exact .inr hc
  | cons b gap =>
    rintro d ⟨⟩
    exact .inl (h b List.mem_cons_self)

/-- Nothing that may come after a value goes on with a number. -/
theorem Delimited.not_number {rest : List Char} (h : Delimited rest) {c : Char}
    (hc : c ∈ rest.head?) : c.isDigit = false ∧ c ≠ '.' ∧ c ≠ 'e' ∧ c ≠ 'E' := by
  rcases h c hc with hspace | rfl | rfl | rfl
  · simp only [isSpace, Bool.or_eq_true, beq_iff_eq] at hspace
    rcases hspace with ((rfl | rfl) | rfl) | rfl <;> decide
  all_goals decide

theorem digits_append {cs rest : List Char} (h : ∀ c ∈ cs, c.isDigit = true)
    (hrest : ∀ c ∈ rest.head?, c.isDigit = false) : digits (cs ++ rest) = (cs, rest) := by
  obtain ⟨htake, hdrop⟩ := Text.span_exact h hrest
  rw [digits, htake, hdrop]

theorem wholePart_append {whole rest : List Char} (h : IsWhole whole)
    (hrest : ∀ c ∈ rest.head?, c.isDigit = false) (atEnd : Fault) :
    wholePart atEnd (whole ++ rest) = .ok (whole, rest) := by
  cases h with
  | zero =>
    cases rest with
    | nil => rfl
    | cons d rest => simp [wholePart, hrest d rfl]
  | @digits c cs hzero h =>
    have hcs : ∀ d ∈ cs, d.isDigit = true := fun d hd => h.2 d (List.mem_cons_of_mem _ hd)
    rw [List.cons_append, wholePart.eq_def]
    dsimp only
    rw [if_neg hzero, if_pos (h.2 c List.mem_cons_self), digits_append hcs hrest]

theorem fractionPart_append {fraction rest : List Char} (h : IsFraction fraction)
    (hrest : ∀ c ∈ rest.head?, c.isDigit = false ∧ c ≠ '.') (atEnd : Fault) :
    ∃ read, fractionPart atEnd (fraction ++ rest) = .ok (read, rest) := by
  cases h with
  | absent =>
    refine ⟨none, ?_⟩
    unfold fractionPart
    split
    · rename_i heq
      exact absurd rfl (hrest '.' (by rw [← List.nil_append rest, heq]; rfl)).2
    · rfl
  | @digits cs h =>
    obtain ⟨c, cs, rfl⟩ := List.exists_cons_of_ne_nil h.1
    refine ⟨some (c :: cs), ?_⟩
    rw [List.cons_append, fractionPart, digits_append h.2 fun d hd => (hrest d hd).1]

theorem exponentSign_append {sign : List Char} (h : sign = [] ∨ sign = ['+'] ∨ sign = ['-'])
    {c : Char} (hc : c.isDigit = true) (cs : List Char) :
    ∃ negative, exponentSign (sign ++ c :: cs) = (negative, c :: cs) := by
  rcases h with rfl | rfl | rfl
  · refine ⟨false, ?_⟩
    rw [List.nil_append]
    unfold exponentSign
    split
    · rename_i heq
      cases heq
      cases hc
    · rename_i heq
      cases heq
      cases hc
    · rfl
  · exact ⟨false, rfl⟩
  · exact ⟨true, rfl⟩

theorem exponentPart_append {exponent rest : List Char} (h : IsExponent exponent)
    (hrest : ∀ c ∈ rest.head?, c.isDigit = false ∧ c ≠ 'e' ∧ c ≠ 'E') (atEnd : Fault) :
    ∃ read, exponentPart atEnd (exponent ++ rest) = .ok (read, rest) := by
  cases h with
  | absent =>
    refine ⟨none, ?_⟩
    cases rest with
    | nil => rfl
    | cons c rest =>
      obtain ⟨-, he, hE⟩ := hrest c rfl
      rw [List.nil_append, exponentPart, if_neg (by simp [he, hE])]
  | @digits mark sign cs hmark hsign h =>
    obtain ⟨c, cs, rfl⟩ := List.exists_cons_of_ne_nil h.1
    have hc := h.2 c List.mem_cons_self
    have hcs : ∀ d ∈ cs, d.isDigit = true := fun d hd => h.2 d (List.mem_cons_of_mem _ hd)
    obtain ⟨negative, hread⟩ := exponentSign_append hsign hc (cs ++ rest)
    refine ⟨some (negative, c :: cs), ?_⟩
    rw [List.cons_append, List.append_assoc, List.cons_append, exponentPart, if_pos hmark, hread]
    dsimp only
    rw [if_pos hc, digits_append hcs fun d hd => (hrest d hd).1]

/-- **A number is passed over** up to the first character that cannot belong to it. -/
theorem skipNumber_append {number rest : List Char} (h : IsUnsigned number)
    (hrest : Delimited rest) : skipNumber (number ++ rest) = .ok rest := by
  cases h with
  | @mk whole fraction exponent hwhole hfraction hexponent =>
    have hafter : ∀ c ∈ (exponent ++ rest).head?, c.isDigit = false ∧ c ≠ '.' := by
      cases hexponent with
      | absent => exact fun c hc => ⟨(hrest.not_number hc).1, (hrest.not_number hc).2.1⟩
      | digits hmark =>
        rintro c ⟨⟩
        rcases hmark with rfl | rfl <;> decide
    have hbehind : ∀ c ∈ (fraction ++ (exponent ++ rest)).head?, c.isDigit = false := by
      cases hfraction with
      | absent => exact fun c hc => (hafter c hc).1
      | digits =>
        rintro c ⟨⟩
        decide
    have hend : ∀ c ∈ rest.head?, c.isDigit = false ∧ c ≠ 'e' ∧ c ≠ 'E' := fun c hc =>
      ⟨(hrest.not_number hc).1, (hrest.not_number hc).2.2⟩
    obtain ⟨f, hf⟩ := fractionPart_append hfraction hafter .invalidNumber
    obtain ⟨e, he⟩ := exponentPart_append hexponent hend .invalidNumber
    rw [skipNumber, written, List.append_assoc, List.append_assoc,
      wholePart_append hwhole hbehind]
    simp only [bind, Except.bind, hf, he]
    rfl

/-! ## Values -/

/-- A value that is neither a list nor an object. -/
inductive IsScalar : List Char → Prop where
  | word {w : String} (h : w = "null" ∨ w = "true" ∨ w = "false") : IsScalar w.toList
  | number {t : List Char} (h : IsUnsigned t) : IsScalar t
  | negative {t : List Char} (h : IsUnsigned t) : IsScalar ('-' :: t)
  | string {t : List Char} (h : IsString t) : IsScalar ('"' :: (t ++ ['"']))

/-- The character that opens a list or an object. -/
def Frame.opening : Frame → Char
  | list => '['
  | object => '\x7b'

/-- What stands before the value of an item: a gap, and the name of a member with its colon. -/
inductive IsItemStart : Frame → List Char → Prop where
  | item {gap : List Char} (h : IsGap gap) : IsItemStart .list gap
  | member {before name middle after : List Char} (hbefore : IsGap before) (hname : IsString name)
      (hmiddle : IsGap middle) (hafter : IsGap after) :
    IsItemStart .object (before ++ '"' :: (name ++ '"' :: (middle ++ ':' :: after)))

/-- The kinds of texts in the grammar. -/
inductive Part where
  | value
  /-- What a list or an object has between its brackets, if it is not empty. -/
  | items (f : Frame)

/-- The grammar of JSON. -/
inductive WellFormed : Part → List Char → Prop where
  | scalar {v : List Char} (h : IsScalar v) : WellFormed .value v
  | empty (f : Frame) {gap : List Char} (h : IsGap gap) :
    WellFormed .value (f.opening :: (gap ++ [f.close]))
  | filled (f : Frame) {items : List Char} (h : WellFormed (.items f) items) :
    WellFormed .value (f.opening :: (items ++ [f.close]))
  | last {f : Frame} {start value after : List Char} (hstart : IsItemStart f start)
      (hvalue : WellFormed .value value) (hafter : IsGap after) :
    WellFormed (.items f) (start ++ (value ++ after))
  | cons {f : Frame} {start value after items : List Char} (hstart : IsItemStart f start)
      (hvalue : WellFormed .value value) (hafter : IsGap after)
      (hitems : WellFormed (.items f) items) :
    WellFormed (.items f) (start ++ (value ++ (after ++ ',' :: items)))

theorem IsUnsigned.exists_cons {t : List Char} (h : IsUnsigned t) :
    ∃ c cs, t = c :: cs ∧ c.isDigit = true := by
  cases h with
  | mk hwhole =>
    cases hwhole with
    | zero => exact ⟨'0', _, rfl, by decide⟩
    | @digits c cs _ h => exact ⟨c, _, rfl, h.2 c List.mem_cons_self⟩

/-- A digit is none of the other characters that tell the values apart. -/
theorem isDigit_ne {c d : Char} (h : c.isDigit = true) (hd : d.isDigit = false) : c ≠ d := by
  rintro rfl
  rw [h] at hd
  cases hd

/-- The first character of a value. -/
structure Opens (c : Char) : Prop where
  not_space : isSpace c = false
  not_close : c ≠ ']'

theorem opens_of_isDigit {c : Char} (h : c.isDigit = true) : Opens c := by
  refine ⟨?_, isDigit_ne h (by decide)⟩
  simp only [isSpace, Bool.or_eq_false_iff, beq_eq_false_iff_ne]
  exact ⟨⟨⟨isDigit_ne h (by decide), isDigit_ne h (by decide)⟩, isDigit_ne h (by decide)⟩,
    isDigit_ne h (by decide)⟩

theorem IsScalar.exists_cons {v : List Char} (h : IsScalar v) :
    ∃ c cs, v = c :: cs ∧ Opens c ∧ ∀ f : Frame, c ≠ f.opening := by
  cases h with
  | word h =>
    rcases h with rfl | rfl | rfl
    · exact ⟨'n', "ull".toList, by decide, ⟨by decide, by decide⟩, by rintro (_ | _) <;> decide⟩
    · exact ⟨'t', "rue".toList, by decide, ⟨by decide, by decide⟩, by rintro (_ | _) <;> decide⟩
    · exact ⟨'f', "alse".toList, by decide, ⟨by decide, by decide⟩, by rintro (_ | _) <;> decide⟩
  | number h =>
    obtain ⟨c, cs, rfl, hc⟩ := h.exists_cons
    refine ⟨c, cs, rfl, opens_of_isDigit hc, ?_⟩
    rintro (_ | _) <;> exact isDigit_ne hc (by decide)
  | negative => exact ⟨'-', _, rfl, ⟨by decide, by decide⟩, by rintro (_ | _) <;> decide⟩
  | string => exact ⟨'"', _, rfl, ⟨by decide, by decide⟩, by rintro (_ | _) <;> decide⟩

theorem skipScalar_append {v rest : List Char} (h : IsScalar v) (hrest : Delimited rest) :
    skipScalar (v ++ rest) = .ok rest := by
  cases h with
  | word h =>
    rcases h with rfl | rfl | rfl
    all_goals rfl
  | number h =>
    have hskip := skipNumber_append h hrest
    obtain ⟨c, cs, rfl, hc⟩ := h.exists_cons
    rw [List.cons_append] at hskip ⊢
    rw [skipScalar, if_neg (isDigit_ne hc (by decide)), if_neg (isDigit_ne hc (by decide)),
      if_neg (isDigit_ne hc (by decide)), if_neg (isDigit_ne hc (by decide)), if_pos hc, hskip]
  | negative h => exact skipNumber_append h hrest
  | @string t h =>
    have hskip := skipText_of_isString h rest
    rw [List.cons_append, List.append_assoc, List.singleton_append]
    exact hskip

/-! ## Open lists and objects -/

/-- Passes over an item, and over what is left of the open lists and objects after it. -/
def skipItem (f : Frame) (outer : List Frame) (text : List Char) : Except Failure (List Char) :=
  (skipItemStart f text).bind (skipInside (f :: outer))

section Start

variable {text cs : List Char} {c : Char} (h : skipSpace text = c :: cs)

include h

theorem skipInside_of_skipSpace (frames : List Frame) :
    skipInside frames text =
      if c = '[' then skipRest (.list :: frames) false cs
      else if c = '\x7b' then skipRest (.object :: frames) false cs
      else (skipScalar (c :: cs)).bind (skipRest frames true) := by
  rw [skipInside.eq_def]
  split
  · rename_i hnil
    rw [h] at hnil
    cases hnil
  · rename_i d ds hd
    rw [h] at hd
    cases hd
    congr 2
    cases skipScalar (c :: cs) <;> rfl

theorem skipRest_of_skipSpace (f : Frame) (outer : List Frame) (after : Bool) :
    skipRest (f :: outer) after text =
      if c = f.close then skipRest outer true cs
      else if after then
        if c = ',' then skipItem f outer cs else failAt f.afterItem (c :: cs)
      else skipItem f outer (c :: cs) := by
  rw [skipRest.eq_def]
  dsimp only
  split
  · rename_i hnil
    rw [h] at hnil
    cases hnil
  · rename_i d ds hd
    rw [h] at hd
    cases hd
    congr 2
    · rw [skipItem]
      cases skipItemStart f cs <;> rfl
    · rw [skipItem]
      cases skipItemStart f (c :: cs) <;> rfl

end Start

/-- Blanks before a value do not matter. -/
theorem skipInside_congr {text text' : List Char} (h : skipSpace text = skipSpace text')
    (frames : List Frame) : skipInside frames text = skipInside frames text' := by
  rw [skipInside.eq_def, skipInside.eq_def frames text', h]

theorem skipItem_congr {text text' : List Char} (h : skipSpace text = skipSpace text') (f : Frame)
    (outer : List Frame) : skipItem f outer text = skipItem f outer text' := by
  cases f with
  | list => exact skipInside_congr h _
  | object => rw [skipItem, skipItem, skipItemStart, skipItemStart, h]

theorem skipInside_scalar {v rest : List Char} (h : IsScalar v) (hrest : Delimited rest)
    (frames : List Frame) : skipInside frames (v ++ rest) = skipRest frames true rest := by
  have hskip := skipScalar_append h hrest
  obtain ⟨c, cs, rfl, hopens, hframe⟩ := h.exists_cons
  have hlist : c ≠ '[' := hframe .list
  have hobject : c ≠ '\x7b' := hframe .object
  rw [List.cons_append] at hskip ⊢
  rw [skipInside_of_skipSpace (skipSpace_cons hopens.not_space _), if_neg hlist, if_neg hobject,
    hskip]
  rfl

theorem skipInside_opening (f : Frame) (frames : List Frame) (text : List Char) :
    skipInside frames (f.opening :: text) = skipRest (f :: frames) false text := by
  rw [skipInside_of_skipSpace (skipSpace_cons (by cases f <;> decide) text)]
  cases f <;> rfl

theorem skipRest_close (f : Frame) (outer : List Frame) (after : Bool) {gap : List Char}
    (h : IsGap gap) (rest : List Char) :
    skipRest (f :: outer) after (gap ++ f.close :: rest) = skipRest outer true rest := by
  rw [skipRest_of_skipSpace (skipSpace_gap h (by cases f <;> decide) rest), if_pos rfl]

theorem skipRest_comma (f : Frame) (outer : List Frame) {gap : List Char} (h : IsGap gap)
    (text : List Char) :
    skipRest (f :: outer) true (gap ++ ',' :: text) = skipItem f outer text := by
  rw [skipRest_of_skipSpace (skipSpace_gap h (by decide) text), if_neg (by cases f <;> decide),
    if_pos rfl, if_pos rfl]

theorem skipColon_append {gap : List Char} (h : IsGap gap) (rest : List Char) :
    skipColon (gap ++ ':' :: rest) = .ok rest := by
  rw [skipColon, skipSpace_gap h (by decide)]
  rfl

theorem skipItem_start {f : Frame} {start : List Char} (h : IsItemStart f start)
    (outer : List Frame) (text : List Char) :
    skipItem f outer (start ++ text) = skipInside (f :: outer) text := by
  cases h with
  | item h => exact skipInside_congr (skipSpace_append h text) _
  | @member before name middle after hbefore hname hmiddle hafter =>
    have hstart : skipItemStart .object
        (before ++ '"' :: (name ++ '"' :: (middle ++ ':' :: (after ++ text)))) =
          .ok (after ++ text) := by
      rw [skipItemStart, skipSpace_gap hbefore (by decide)]
      dsimp only
      rw [if_pos rfl, skipText_of_isString hname]
      exact skipColon_append hmiddle (after ++ text)
    simp only [List.append_assoc, List.cons_append]
    rw [skipItem, hstart]
    exact skipInside_congr (skipSpace_append hafter text) _

/-! ## Nesting -/

theorem WellFormed.opens {v : List Char} (h : WellFormed .value v) :
    ∃ c cs, v = c :: cs ∧ Opens c := by
  cases h with
  | scalar h =>
    obtain ⟨c, cs, rfl, hc, -⟩ := h.exists_cons
    exact ⟨c, cs, rfl, hc⟩
  | empty f => exact ⟨f.opening, _, rfl, by cases f <;> exact ⟨by decide, by decide⟩⟩
  | filled f => exact ⟨f.opening, _, rfl, by cases f <;> exact ⟨by decide, by decide⟩⟩

theorem IsItemStart.skipSpace_append {f : Frame} {start : List Char} (h : IsItemStart f start)
    {c : Char} (hc : Opens c) (cs : List Char) :
    ∃ d ds, skipSpace (start ++ c :: cs) = d :: ds ∧ isSpace d = false ∧ d ≠ f.close := by
  cases h with
  | item h => exact ⟨c, cs, skipSpace_gap h hc.not_space cs, hc.not_space, hc.not_close⟩
  | member hbefore =>
    rw [List.append_assoc, List.cons_append]
    exact ⟨'"', _, skipSpace_gap hbefore (by decide) _, by decide, by decide⟩

/-- Between the brackets of a list or an object the first character does not close it. -/
theorem WellFormed.skipSpace_items {f : Frame} {items : List Char}
    (h : WellFormed (.items f) items) (rest : List Char) :
    ∃ c cs, skipSpace (items ++ rest) = c :: cs ∧ isSpace c = false ∧ c ≠ f.close := by
  cases h with
  | last hstart hvalue =>
    obtain ⟨c, cs, rfl, hc⟩ := hvalue.opens
    simp only [List.append_assoc, List.cons_append]
    exact hstart.skipSpace_append hc _
  | cons hstart hvalue =>
    obtain ⟨c, cs, rfl, hc⟩ := hvalue.opens
    simp only [List.append_assoc, List.cons_append]
    exact hstart.skipSpace_append hc _

theorem skipRest_items {f : Frame} {items : List Char} (h : WellFormed (.items f) items)
    (outer : List Frame) (rest : List Char) :
    skipRest (f :: outer) false (items ++ rest) = skipItem f outer (items ++ rest) := by
  obtain ⟨c, cs, hspace, hc, hclose⟩ := h.skipSpace_items rest
  rw [skipRest_of_skipSpace hspace, if_neg hclose, if_neg (by decide)]
  refine skipItem_congr ?_ f outer
  rw [hspace, skipSpace_cons hc]

/-- The text is passed over whatever lists and objects are open: a value up to what follows it, and
what stands between brackets up to the end of the list or object. -/
def Passed : Part → List Char → Prop
  | .value, v => ∀ frames rest, Delimited rest →
      skipInside frames (v ++ rest) = skipRest frames true rest
  | .items f, t => ∀ outer rest, skipItem f outer (t ++ f.close :: rest) = skipRest outer true rest

theorem WellFormed.passed {part : Part} {t : List Char} (h : WellFormed part t) :
    Passed part t := by
  -- the open lists and objects stay general, since a value inside is passed over with one more
  induction h with
  | scalar h => exact fun frames rest hrest => skipInside_scalar h hrest frames
  | empty f hgap =>
    intro frames rest _
    rw [List.cons_append, List.append_assoc, List.singleton_append, skipInside_opening,
      skipRest_close f frames false hgap]
  | filled f hitems ih =>
    intro frames rest _
    rw [List.cons_append, List.append_assoc, List.singleton_append, skipInside_opening,
      skipRest_items hitems, ih]
  | @last f start value after hstart _ hafter ih =>
    intro outer rest
    have hend : Delimited (after ++ f.close :: rest) :=
      delimited_append hafter (by cases f <;> decide) rest
    rw [List.append_assoc, List.append_assoc, skipItem_start hstart, ih _ _ hend,
      skipRest_close f outer true hafter]
  | @cons f start value after items hstart _ hafter _ ih ihitems =>
    intro outer rest
    have hend : Delimited (after ++ ',' :: (items ++ f.close :: rest)) :=
      delimited_append hafter (.inl rfl) _
    rw [List.append_assoc, List.append_assoc, List.append_assoc, List.cons_append,
      skipItem_start hstart, ih _ _ hend, skipRest_comma f outer hafter, ihitems]

/-- **A value is passed over as a whole**, with all that is nested in it. -/
theorem skipValue_append {gap v rest : List Char} (hgap : IsGap gap) (h : WellFormed .value v)
    (hrest : Delimited rest) : skipValue (gap ++ (v ++ rest)) = .ok rest := by
  rw [skipValue, skipInside_congr (skipSpace_append hgap _), h.passed [] rest hrest, skipRest]

end EmbeddedScripts.Json
