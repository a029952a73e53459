import EmbeddedScripts.Markup.ScriptTag
import Mathlib.Data.List.Forall2
import Mathlib.Data.List.Infix

/-!
# Which elements a document has

`IsOpening` and `IsClosing` say which texts are script tags, and `Element.WellFormed` which texts
follow each other in a script element: filler without the beginning of an opening tag, an opening
tag, content without a closing tag, a closing tag.

* `openingTag?_eq_some_iff`, `closingTag?_eq_some_iff`: the readers read exactly the tags.
* `cutAt?_opening`, `cutAt?_closing`: a cut is made at the first tag. No tag begins in the text before
  it and ends in the tag, since `<` is the first character of every tag and occurs neither in the rest
  of the name of one nor in the rest of a closing tag.
* `firstElement?_eq_some_iff`, `elements_append`: a text that begins with a well-formed element has
  that as its first element; `elements_wellFormed`: there are no others.
-/

namespace EmbeddedScripts.Markup

/-- The characters spell the word, in letters of either case. -/
def Spells (word cs : List Char) : Prop := List.Forall₂ (fun w c => isLetter w c = true) word cs

/-- How an opening tag begins. -/
def openingName : List Char := ['<', 's', 'c', 'r', 'i', 'p', 't']

/-- How a closing tag begins. -/
def closingName : List Char := ['<', '/', 's', 'c', 'r', 'i', 'p', 't']

/-- An opening script tag: its name, anything but `>`, and `>`. -/
def IsOpening (tag : List Char) : Prop :=
  ∃ name attributes, tag = name ++ attributes ++ ['>'] ∧ Spells openingName name ∧
    '>' ∉ attributes

/-- A closing script tag: its name, blanks, and `>`. -/
def IsClosing (tag : List Char) : Prop :=
  ∃ name blanks, tag = name ++ blanks ++ ['>'] ∧ Spells closingName name ∧
    ∀ c ∈ blanks, Text.isBlank c = true

/-- An opening tag begins somewhere in the text. -/
def HasOpener (text : List Char) : Prop := ∃ name, name <:+: text ∧ Spells openingName name

/-- A closing tag stands somewhere in the text. -/
def HasClosing (text : List Char) : Prop := ∃ tag, tag <:+: text ∧ IsClosing tag

/-- The parts of a script element are what they are called. -/
structure Element.WellFormed (e : Element) : Prop where
  before : ¬ HasOpener e.before
  opening : IsOpening e.opening
  content : ¬ HasClosing e.content
  closing : IsClosing e.closing

/-! ## Reading a tag -/

theorem spelled?_eq_some_iff {word text read rest : List Char} :
    spelled? word text = some (read, rest) ↔ text = read ++ rest ∧ Spells word read := by
  induction word generalizing text read with
  | nil =>
    simp only [spelled?, Option.some.injEq, Prod.mk.injEq, Spells, List.forall₂_nil_left_iff]
    constructor
    · rintro ⟨rfl, rfl⟩
      exact ⟨rfl, rfl⟩
    · rintro ⟨rfl, rfl⟩
      exact ⟨rfl, rfl⟩
  | cons w ws ih =>
    constructor
    · intro h
      refine ⟨(spelled?_append h).1, ?_⟩
      cases text with
      | nil => simp [spelled?] at h
      | cons c cs =>
        simp only [spelled?] at h
        split at h
        · rename_i hc
          obtain ⟨⟨r, t⟩, hr, he⟩ := Option.map_eq_some_iff.1 h
          simp only [Prod.mk.injEq] at he
          obtain ⟨rfl, rfl⟩ := he
          exact .cons hc (ih.1 hr).2
        · simp at h
    · rintro ⟨rfl, hs⟩
      obtain ⟨c, cs, hc, hcs, rfl⟩ := List.forall₂_cons_left_iff.1 hs
      rw [List.cons_append, spelled?, if_pos hc, ih.2 ⟨rfl, hcs⟩]
      rfl

theorem throughEnd?_eq_some_iff {allowed : Char → Bool} {text read rest : List Char} :
    throughEnd? allowed text = some (read, rest) ↔ text = read ++ rest ∧
      ∃ inner, read = inner ++ ['>'] ∧ ∀ c ∈ inner, c ≠ '>' ∧ allowed c = true := by
  induction text generalizing read with
  | nil =>
    simp only [throughEnd?, reduceCtorEq, false_iff]
    rintro ⟨h, inner, rfl, -⟩
    simp at h
  | cons c cs ih =>
    rw [throughEnd?]
    constructor
    · intro h
      split at h
      · rename_i hc
        simp only [Option.some.injEq, Prod.mk.injEq] at h
        obtain ⟨rfl, rfl⟩ := h
        exact ⟨rfl, [], by simp [hc], by simp⟩
      · split at h
        · rename_i hc ha
          obtain ⟨⟨r, t⟩, hr, he⟩ := Option.map_eq_some_iff.1 h
          simp only [Prod.mk.injEq] at he
          obtain ⟨rfl, rfl⟩ := he
          obtain ⟨rfl, inner, rfl, hi⟩ := ih.1 hr
          exact ⟨rfl, c :: inner, rfl, List.forall_mem_cons.2 ⟨⟨hc, ha⟩, hi⟩⟩
        · simp at h
    · rintro ⟨h, inner, rfl, hi⟩
      cases inner with
      | nil =>
        simp only [List.nil_append, List.cons_append, List.cons.injEq] at h
        rw [if_pos h.1, h.1, h.2]
        rfl
      | cons d inner =>
        simp only [List.cons_append, List.cons.injEq] at h
        obtain ⟨rfl, rfl⟩ := h
        obtain ⟨⟨hc, ha⟩, hi⟩ := List.forall_mem_cons.1 hi
        rw [if_neg hc, if_pos ha, ih.2 ⟨rfl, inner, rfl, hi⟩]
        rfl

/-- **An opening tag is read where one stands**, and nothing else is. -/
theorem openingTag?_eq_some_iff {text tag rest : List Char} :
    openingTag? text = some (tag, rest) ↔ text = tag ++ rest ∧ IsOpening tag := by
  simp only [openingTag?, Option.bind_eq_bind, Option.bind_eq_some_iff, Prod.exists,
    Option.pure_def, Option.some.injEq, Prod.mk.injEq, spelled?_eq_some_iff,
    throughEnd?_eq_some_iff]
  constructor
  · rintro ⟨name, r, ⟨rfl, hn⟩, tail, r', ⟨rfl, attributes, rfl, ha⟩, rfl, rfl⟩
    exact ⟨by simp, name, attributes, by simp, hn, fun hm => (ha _ hm).1 rfl⟩
  · rintro ⟨rfl, name, attributes, rfl, hn, ha⟩
    refine ⟨name, attributes ++ ['>'] ++ rest, ⟨by simp, hn⟩, attributes ++ ['>'], rest,
      ⟨rfl, attributes, rfl, fun c hc => ⟨?_, trivial⟩⟩, by simp⟩
    rintro rfl
    exact ha hc

/-- **A closing tag is read where one stands**, and nothing else is. -/
theorem closingTag?_eq_some_iff {text tag rest : List Char} :
    closingTag? text = some (tag, rest) ↔ text = tag ++ rest ∧ IsClosing tag := by
  simp only [closingTag?, Option.bind_eq_bind, Option.bind_eq_some_iff, Prod.exists,
    Option.pure_def, Option.some.injEq, Prod.mk.injEq, spelled?_eq_some_iff,
    throughEnd?_eq_some_iff]
  constructor
  · rintro ⟨name, r, ⟨rfl, hn⟩, tail, r', ⟨rfl, blanks, rfl, hb⟩, rfl, rfl⟩
    exact ⟨by simp, name, blanks, by simp, hn, fun c hc => (hb c hc).2⟩
  · rintro ⟨rfl, name, blanks, rfl, hn, hb⟩
    refine ⟨name, blanks ++ ['>'] ++ rest, ⟨by simp, hn⟩, blanks ++ ['>'], rest,
      ⟨rfl, blanks, rfl, fun c hc => ⟨?_, hb c hc⟩⟩, by simp⟩
    rintro rfl
    exact absurd (hb _ hc) (by decide)

/-! ## Deciding -/

instance (tag : List Char) : Decidable (IsOpening tag) :=
  decidable_of_iff (openingTag? tag = some (tag, [])) (by simp [openingTag?_eq_some_iff])

instance (tag : List Char) : Decidable (IsClosing tag) :=
  decidable_of_iff (closingTag? tag = some (tag, [])) (by simp [closingTag?_eq_some_iff])

theorem exists_infix_iff_tails {p : List Char → Prop}
    {read : List Char → Option (List Char × List Char)}
    (hread : ∀ {text tag rest}, read text = some (tag, rest) ↔ text = tag ++ rest ∧ p tag)
    (text : List Char) : (∃ tag, tag <:+: text ∧ p tag) ↔ ∃ s ∈ text.tails, (read s).isSome := by
  simp only [List.mem_tails, Option.isSome_iff_exists, Prod.exists, hread]
  constructor
  · rintro ⟨tag, ⟨a, b, rfl⟩, hp⟩
    exact ⟨tag ++ b, ⟨a, by simp⟩, tag, b, rfl, hp⟩
  · rintro ⟨_, ⟨a, rfl⟩, tag, b, rfl, hp⟩
    exact ⟨tag, ⟨a, b, by simp⟩, hp⟩

instance (text : List Char) : Decidable (HasOpener text) :=
  decidable_of_iff _ (exists_infix_iff_tails spelled?_eq_some_iff text).symm

instance (text : List Char) : Decidable (HasClosing text) :=
  decidable_of_iff _ (exists_infix_iff_tails closingTag?_eq_some_iff text).symm

instance (e : Element) : Decidable e.WellFormed :=
  decidable_of_iff (¬ HasOpener e.before ∧ IsOpening e.opening ∧ ¬ HasClosing e.content ∧
    IsClosing e.closing) ⟨fun ⟨hb, ho, hc, he⟩ => ⟨hb, ho, hc, he⟩, fun h => ⟨h.1, h.2, h.3, h.4⟩⟩

/-! ## The first tag -/

section
variable {tag? : List Char → Option (List Char × List Char)}
  (happ : ∀ {text tag rest}, tag? text = some (tag, rest) → text = tag ++ rest)
  (hnil : tag? [] = none)
include happ hnil

/-- **A cut is made at the first tag**: one stands there, and none begins before. -/
theorem cutAt?_eq_some_iff {text before tag rest : List Char} :
    cutAt? tag? text = some (before, tag, rest) ↔
      text = before ++ tag ++ rest ∧ tag? (tag ++ rest) = some (tag, rest) ∧
        ∀ a b, before = a ++ b → b ≠ [] → tag? (b ++ tag ++ rest) = none := by
  induction text generalizing before with
  | nil =>
    simp only [cutAt?, reduceCtorEq, false_iff]
    rintro ⟨h, ht, -⟩
    simp only [List.nil_eq, List.append_eq_nil_iff] at h
    rw [h.1.2, h.2, List.append_nil, hnil] at ht
    simp at ht
  | cons c cs ih =>
    constructor
    · intro h
      refine ⟨(cutAt?_append happ h).1, (cutAt?_append happ h).2, ?_⟩
      rw [cutAt?] at h
      split at h
      · simp only [Option.some.injEq, Prod.mk.injEq] at h
        obtain ⟨rfl, -, -⟩ := h
        intro a b hab hb
        exact absurd (List.append_eq_nil_iff.1 hab.symm).2 hb
      · rename_i hc
        obtain ⟨⟨b', t', r'⟩, hr, he⟩ := Option.map_eq_some_iff.1 h
        simp only [Prod.mk.injEq] at he
        obtain ⟨rfl, rfl, rfl⟩ := he
        obtain ⟨hcs, -, hno⟩ := ih.1 hr
        intro a b hab hb
        cases a with
        | nil =>
          rw [List.nil_append] at hab
          rw [← hab, List.cons_append, List.cons_append, ← hcs, hc]
        | cons d a =>
          rw [List.cons_append, List.cons.injEq] at hab
          exact hno a b hab.2 hb
    · rintro ⟨h, ht, hno⟩
      rw [cutAt?]
      cases before with
      | nil =>
        rw [List.nil_append] at h
        rw [h, ht]
      | cons d before =>
        simp only [List.cons_append, List.cons.injEq] at h
        obtain ⟨rfl, rfl⟩ := h
        have hc := hno [] (c :: before) rfl (by simp)
        simp only [List.cons_append] at hc
        rw [hc, ih.2 ⟨rfl, ht, fun a b hab hb => hno (c :: a) b (by simp [hab]) hb⟩]
        rfl

end

/-! ## No tag begins before another one and ends in it -/

theorem isLetter_lt_right {w : Char} (h : isLetter w '<' = true) : w = '<' := by
  simp only [isLetter, Bool.or_eq_true, beq_iff_eq, Bool.and_eq_true] at h
  rcases h with h | ⟨-, h⟩
  · rw [← h]
    decide
  · exact absurd h (by decide)

theorem isLetter_lt_left {c : Char} (h : isLetter '<' c = true) : c = '<' := by
  simp only [isLetter, Bool.or_eq_true, beq_iff_eq, Bool.and_eq_true] at h
  rcases h with h | ⟨h, -⟩
  · unfold Char.toLower at h
    split at h
    · rename_i hu
      have hv : c.val + 32 = 60 := congrArg Char.val h
      have hl : (65 : UInt32) ≤ c.val := hu.1
      exfalso
      grind
    · exact h
  · exact absurd h (by decide)

theorem Spells.lt_notMem {word cs : List Char} (h : Spells word cs) (hw : '<' ∉ word) :
    '<' ∉ cs := by
  induction h with
  | nil => simp
  | cons hc _ ih =>
    simp only [List.mem_cons, not_or] at hw ⊢
    refine ⟨fun he => ?_, ih hw.2⟩
    subst he
    exact hw.1 (isLetter_lt_right hc).symm

/-- The name of a tag is `<` and something without it. -/
theorem Spells.eq_lt_cons {word cs : List Char} (h : Spells ('<' :: word) cs) (hw : '<' ∉ word) :
    ∃ more, cs = '<' :: more ∧ '<' ∉ more := by
  obtain ⟨c, more, hc, hm, rfl⟩ := List.forall₂_cons_left_iff.1 h
  exact ⟨more, by rw [isLetter_lt_left hc], Spells.lt_notMem hm hw⟩

theorem IsOpening.eq_lt_cons {tag : List Char} (h : IsOpening tag) : ∃ more, tag = '<' :: more := by
  obtain ⟨name, attributes, rfl, hn, -⟩ := h
  obtain ⟨more, rfl, -⟩ := Spells.eq_lt_cons hn (by decide)
  exact ⟨_, rfl⟩

theorem IsClosing.eq_lt_cons {tag : List Char} (h : IsClosing tag) :
    ∃ more, tag = '<' :: more ∧ '<' ∉ more := by
  obtain ⟨name, blanks, rfl, hn, hb⟩ := h
  obtain ⟨more, rfl, hm⟩ := Spells.eq_lt_cons hn (by decide)
  refine ⟨more ++ blanks ++ ['>'], rfl, ?_⟩
  have hlt : '<' ∉ blanks := fun h => absurd (hb _ h) (by decide)
  simp [hm, hlt]

/-- A text without `<` after its first character that begins before a `<` ends before it. -/
theorem prefix_of_append_lt {b t more y : List Char} (hb : b ≠ [])
    (h : b ++ '<' :: t = '<' :: more ++ y) (hm : '<' ∉ more) : '<' :: more <+: b := by
  rcases List.append_eq_append_iff.1 h with ⟨m, hx, hy⟩ | ⟨m, hx, -⟩
  · cases m with
    | nil => exact ⟨[], by simpa using hx⟩
    | cons d m =>
      simp only [List.cons_append, List.cons.injEq] at hy
      obtain ⟨rfl, -⟩ := hy
      cases b with
      | nil => exact absurd rfl hb
      | cons c b =>
        simp only [List.cons_append, List.cons.injEq] at hx
        rw [hx.2] at hm
        simp at hm
  · exact ⟨m, hx.symm⟩

theorem hasOpener_of_straddle {b tag rest tag' rest' : List Char} (hb : b ≠ [])
    (h : b ++ tag ++ rest = tag' ++ rest') (ht : IsOpening tag) (ht' : IsOpening tag') :
    HasOpener b := by
  obtain ⟨t, rfl⟩ := ht.eq_lt_cons
  obtain ⟨name, attributes, rfl, hn, -⟩ := ht'
  obtain ⟨more, rfl, hm⟩ := Spells.eq_lt_cons hn (by decide)
  have hp := prefix_of_append_lt (t := t ++ rest) (y := attributes ++ ['>'] ++ rest') hb
    (by simpa using h) hm
  exact ⟨_, hp.isInfix, hn⟩

theorem hasClosing_of_straddle {b tag rest tag' rest' : List Char} (hb : b ≠ [])
    (h : b ++ tag ++ rest = tag' ++ rest') (ht : IsClosing tag) (ht' : IsClosing tag') :
    HasClosing b := by
  obtain ⟨t, rfl, -⟩ := ht.eq_lt_cons
  obtain ⟨more, rfl, hm⟩ := ht'.eq_lt_cons
  have hp := prefix_of_append_lt (t := t ++ rest) (y := rest') hb (by simpa using h) hm
  exact ⟨_, hp.isInfix, ht'⟩

/-! ## Elements -/

/-- **The first opening tag**: nothing before it is the beginning of one. -/
theorem cutAt?_opening {text before tag rest : List Char} :
    cutAt? openingTag? text = some (before, tag, rest) ↔
      text = before ++ tag ++ rest ∧ IsOpening tag ∧ ¬ HasOpener before := by
  rw [cutAt?_eq_some_iff (fun h => (openingTag?_append h).1) rfl]
  simp only [openingTag?_eq_some_iff, true_and]
  refine and_congr_right fun _ => and_congr_right fun ht => ⟨?_, ?_⟩
  · rintro hno ⟨name, ⟨p, q, rfl⟩, hn⟩
    -- a name before the tag would make an opening tag up to the first `>`, which `tag` has at
    -- the latest
    have hgt : '>' ∈ q ++ tag := by
      obtain ⟨n, attributes, rfl, -, -⟩ := ht
      simp
    obtain ⟨attributes, more, he, ha⟩ := List.eq_append_cons_of_mem hgt
    have hsome : openingTag? (name ++ q ++ tag ++ rest) =
        some (name ++ attributes ++ ['>'], more ++ rest) := by
      refine openingTag?_eq_some_iff.2 ⟨?_, name, attributes, rfl, hn, ha⟩
      rw [List.append_assoc name, he]
      simp
    obtain ⟨m, rfl, -⟩ := Spells.eq_lt_cons hn (by decide)
    rw [hno p ('<' :: m ++ q) (by simp) (by simp)] at hsome
    simp at hsome
  · intro hno a b hab hb
    by_contra hsome
    obtain ⟨⟨tag', rest'⟩, hsome⟩ := Option.ne_none_iff_exists'.1 hsome
    obtain ⟨he, ht'⟩ := openingTag?_eq_some_iff.1 hsome
    obtain ⟨name, hi, hn⟩ := hasOpener_of_straddle hb he ht ht'
    exact hno ⟨name, hi.trans (hab ▸ (List.suffix_append a b).isInfix), hn⟩

/-- **The first closing tag**: none stands in the text before it. -/
theorem cutAt?_closing {text content tag rest : List Char} :
    cutAt? closingTag? text = some (content, tag, rest) ↔
      text = content ++ tag ++ rest ∧ IsClosing tag ∧ ¬ HasClosing content := by
  rw [cutAt?_eq_some_iff closingTag?_append rfl]
  simp only [closingTag?_eq_some_iff, true_and]
  refine and_congr_right fun _ => and_congr_right fun ht => ⟨?_, ?_⟩
  · rintro hno ⟨tag', ⟨p, q, rfl⟩, ht'⟩
    have hsome : closingTag? (tag' ++ q ++ tag ++ rest) = some (tag', q ++ tag ++ rest) :=
      closingTag?_eq_some_iff.2 ⟨by simp, ht'⟩
    obtain ⟨m, rfl, -⟩ := ht'.eq_lt_cons
    rw [hno p ('<' :: m ++ q) (by simp) (by simp)] at hsome
    simp at hsome
  · intro hno a b hab hb
    by_contra hsome
    obtain ⟨⟨tag', rest'⟩, hsome⟩ := Option.ne_none_iff_exists'.1 hsome
    obtain ⟨he, ht'⟩ := closingTag?_eq_some_iff.1 hsome
    obtain ⟨t, hi, htt⟩ := hasClosing_of_straddle hb he ht ht'
    exact hno ⟨t, hi.trans (hab ▸ (List.suffix_append a b).isInfix), htt⟩

/-- **The first element of a text** is the well-formed one it begins with. -/
theorem firstElement?_eq_some_iff {text rest : List Char} {e : Element} :
    firstElement? text = some (e, rest) ↔ text = e.text ++ rest ∧ e.WellFormed := by
  obtain ⟨before, opening, content, closing⟩ := e
  simp only [firstElement?, Option.bind_eq_bind, Option.bind_eq_some_iff, Prod.exists,
    Option.pure_def, Option.some.injEq, Prod.mk.injEq, Element.mk.injEq, cutAt?_opening,
    cutAt?_closing, Element.text]
  constructor
  · rintro ⟨_, _, r, ⟨rfl, ho, hb⟩, _, _, _, ⟨rfl, hc, hn⟩, ⟨rfl, rfl, rfl, rfl⟩, rfl⟩
    exact ⟨by simp, hb, ho, hn, hc⟩
  · rintro ⟨rfl, hb, ho, hn, hc⟩
    exact ⟨before, opening, content ++ closing ++ rest, ⟨by simp, ho, hb⟩, content, closing, rest,
      ⟨rfl, hc, hn⟩, by simp⟩

theorem elements_cons {text rest : List Char} {e : Element}
    (h : firstElement? text = some (e, rest)) : elements text = e :: elements rest := by
  rw [elements]
  split
  · rename_i hn
    rw [h] at hn
    simp at hn
  · rename_i e' rest' hs
    rw [h] at hs
    cases hs
    rfl

theorem elements_nil {text : List Char} (h : firstElement? text = none) : elements text = [] := by
  rw [elements]
  split
  · rfl
  · rename_i hs
    rw [h] at hs
    simp at hs

/-- **A text that begins with well-formed elements** has those, and then the elements of the rest. -/
theorem elements_append {es : List Element} (h : ∀ e ∈ es, e.WellFormed) (rest : List Char) :
    elements (es.flatMap Element.text ++ rest) = es ++ elements rest := by
  induction es with
  | nil => rfl
  | cons e es ih =>
    obtain ⟨he, hes⟩ := List.forall_mem_cons.1 h
    rw [List.flatMap_cons, List.append_assoc,
      elements_cons (firstElement?_eq_some_iff.2 ⟨rfl, he⟩), ih hes]
    rfl

theorem elements_of_not_hasOpener {text : List Char} (h : ¬ HasOpener text) :
    elements text = [] := by
  refine elements_nil (Option.eq_none_iff_forall_ne_some.2 ?_)
  rintro ⟨e, rest⟩ hs
  obtain ⟨rfl, -, ⟨name, attributes, ho, hn, -⟩, -, -⟩ := firstElement?_eq_some_iff.1 hs
  refine h ⟨name, ⟨e.before, attributes ++ ['>'] ++ e.content ++ e.closing ++ rest, ?_⟩, hn⟩
  simp [Element.text, ho]

/-- **The elements of a text are well-formed** and follow each other from its beginning. -/
theorem elements_wellFormed (text : List Char) :
    (∀ e ∈ elements text, e.WellFormed) ∧
      ∃ rest, text = (elements text).flatMap Element.text ++ rest := by
  fun_induction elements text with
  | case1 text h => exact ⟨by simp, text, rfl⟩
  | case2 text e rest h ih =>
    obtain ⟨rfl, he⟩ := firstElement?_eq_some_iff.1 h
    obtain ⟨hes, more, hr⟩ := ih
    refine ⟨List.forall_mem_cons.2 ⟨he, hes⟩, more, ?_⟩
    rw [List.flatMap_cons, List.append_assoc, ← hr]

end EmbeddedScripts.Markup
