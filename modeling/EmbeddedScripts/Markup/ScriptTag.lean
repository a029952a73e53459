import EmbeddedScripts.Text.Blank

/-!
# Script elements of a document

`elements` cuts a document at its script tags: the text before an opening tag, the tag, the content up
to the next closing tag, that tag. An opening tag without a closing tag after it ends the list.
`openingTag?` and `closingTag?` read a tag at the beginning of a text; letters match in either case,
and a long s counts as an s.
-/

namespace EmbeddedScripts.Markup

/-- Whether a character spells the letter `letter`, which is given in lower case. -/
def isLetter (letter c : Char) : Bool := c.toLower == letter || (letter == 's' && c == 'ſ')

/-- Reads the word `word` in letters of either case. -/
def spelled? : (word : List Char) → List Char → Option (List Char × List Char)
  | [], cs => some ([], cs)
  | _ :: _, [] => none
  | w :: ws, c :: cs =>
    if isLetter w c then (spelled? ws cs).map fun (read, rest) => (c :: read, rest) else none

/-- Reads up to the first `>`, and that too. All characters before it have to be allowed. -/
def throughEnd? (allowed : Char → Bool) : List Char → Option (List Char × List Char)
  | [] => none
  | c :: cs =>
    if c = '>' then some ([c], cs)
    else if allowed c then
      (throughEnd? allowed cs).map fun (read, rest) => (c :: read, rest)
    else none

/-- Reads an opening script tag: the tag and the text after it. -/
def openingTag? (text : List Char) : Option (List Char × List Char) := do
  let (name, rest) ← spelled? ['<', 's', 'c', 'r', 'i', 'p', 't'] text
  let (tail, rest) ← throughEnd? (fun _ => true) rest
  return (name ++ tail, rest)

/-- Reads a closing script tag: the tag and the text after it. -/
def closingTag? (text : List Char) : Option (List Char × List Char) := do
  let (name, rest) ← spelled? ['<', '/', 's', 'c', 'r', 'i', 'p', 't'] text
  let (tail, rest) ← throughEnd? Text.isBlank rest
  return (name ++ tail, rest)

/-- Cuts a text at the first place where `tag?` reads a tag: the text before, the tag, the text
after. -/
def cutAt? (tag? : List Char → Option (List Char × List Char)) :
    List Char → Option (List Char × List Char × List Char)
  | [] => none
  | c :: cs =>
    match tag? (c :: cs) with
    | some (tag, rest) => some ([], tag, rest)
    | none => (cutAt? tag? cs).map fun (before, tag, rest) => (c :: before, tag, rest)

/-- A script element with the text between it and the one before it. -/
structure Element where
  before : List Char
  opening : List Char
  content : List Char
  closing : List Char
deriving DecidableEq, Repr, Inhabited

/-- The first script element of a text, and the text after it. -/
def firstElement? (text : List Char) : Option (Element × List Char) := do
  let (before, opening, rest) ← cutAt? openingTag? text
  let (content, closing, rest) ← cutAt? closingTag? rest
  return (⟨before, opening, content, closing⟩, rest)

/-! ## What the readers leave -/

theorem spelled?_append {word text read rest : List Char}
    (h : spelled? word text = some (read, rest)) :
    text = read ++ rest ∧ read.length = word.length := by
  induction word generalizing text read with
  | nil => simp_all [spelled?]
  | cons w ws ih =>
    cases text with
    | nil => simp [spelled?] at h
    | cons c cs =>
      simp only [spelled?] at h
      split at h
      · obtain ⟨⟨r, t⟩, hr, he⟩ := Option.map_eq_some_iff.1 h
        simp only [Prod.mk.injEq] at he
        obtain ⟨rfl, rfl⟩ := he
        obtain ⟨rfl, hl⟩ := ih hr
        simp [hl]
      · simp at h

theorem throughEnd?_append {allowed : Char → Bool} {text read rest : List Char}
    (h : throughEnd? allowed text = some (read, rest)) : text = read ++ rest := by
  induction text generalizing read with
  | nil => simp [throughEnd?] at h
  | cons c cs ih =>
    simp only [throughEnd?] at h
    split at h
    · simp only [Option.some.injEq, Prod.mk.injEq] at h
      obtain ⟨rfl, rfl⟩ := h
      rfl
    · split at h
      · obtain ⟨⟨r, t⟩, hr, he⟩ := Option.map_eq_some_iff.1 h
        simp only [Prod.mk.injEq] at he
        obtain ⟨rfl, rfl⟩ := he
        simp [ih hr]
      · simp at h

theorem openingTag?_append {text tag rest : List Char} (h : openingTag? text = some (tag, rest)) :
    text = tag ++ rest ∧ 7 ≤ tag.length := by
  simp only [openingTag?, Option.bind_eq_bind, Option.bind_eq_some_iff, Prod.exists,
    Option.pure_def, Option.some.injEq, Prod.mk.injEq] at h
  obtain ⟨name, r, hn, tail, r', ht, rfl, rfl⟩ := h
  obtain ⟨rfl, hl⟩ := spelled?_append hn
  simp only [List.length_cons, List.length_nil] at hl
  rw [throughEnd?_append ht]
  simp [hl]

theorem closingTag?_append {text tag rest : List Char} (h : closingTag? text = some (tag, rest)) :
    text = tag ++ rest := by
  simp only [closingTag?, Option.bind_eq_bind, Option.bind_eq_some_iff, Prod.exists,
    Option.pure_def, Option.some.injEq, Prod.mk.injEq] at h
  obtain ⟨name, r, hn, tail, r', ht, rfl, rfl⟩ := h
  obtain ⟨rfl, -⟩ := spelled?_append hn
  rw [throughEnd?_append ht]
  simp

theorem cutAt?_append {tag? : List Char → Option (List Char × List Char)}
    (htag : ∀ {text tag rest}, tag? text = some (tag, rest) → text = tag ++ rest)
    {text before tag rest : List Char} (h : cutAt? tag? text = some (before, tag, rest)) :
    text = before ++ tag ++ rest ∧ tag? (tag ++ rest) = some (tag, rest) := by
  induction text generalizing before with
  | nil => simp [cutAt?] at h
  | cons c cs ih =>
    simp only [cutAt?] at h
    split at h
    · next t r ht =>
      simp only [Option.some.injEq, Prod.mk.injEq] at h
      obtain ⟨rfl, rfl, rfl⟩ := h
      have := htag ht
      exact ⟨by simpa using this, this ▸ ht⟩
    · obtain ⟨⟨b, t, r⟩, hr, he⟩ := Option.map_eq_some_iff.1 h
      simp only [Prod.mk.injEq] at he
      obtain ⟨rfl, rfl, rfl⟩ := he
      obtain ⟨h1, h2⟩ := ih hr
      exact ⟨by simp [h1], h2⟩

/-- The text of an element, with what is before it. -/
def Element.text (e : Element) : List Char := e.before ++ e.opening ++ e.content ++ e.closing

theorem firstElement?_append {text rest : List Char} {e : Element}
    (h : firstElement? text = some (e, rest)) : text = e.text ++ rest ∧ 7 ≤ e.opening.length := by
  simp only [firstElement?, Option.bind_eq_bind, Option.bind_eq_some_iff, Prod.exists,
    Option.pure_def, Option.some.injEq, Prod.mk.injEq] at h
  obtain ⟨before, opening, r, ho, content, closing, r', hc, rfl, rfl⟩ := h
  obtain ⟨h1, h2⟩ := cutAt?_append (fun h => (openingTag?_append h).1) ho
  obtain ⟨h3, -⟩ := cutAt?_append closingTag?_append hc
  exact ⟨by simp [Element.text, h1, h3], (openingTag?_append h2).2⟩

/-- The script elements of a text, in order. -/
def elements (text : List Char) : List Element :=
  match _h : firstElement? text with
  | none => []
  | some (e, rest) => e :: elements rest
termination_by text.length
decreasing_by
  obtain ⟨h1, h2⟩ := firstElement?_append _h
  simp only [h1, Element.text, List.length_append]
  omega

end EmbeddedScripts.Markup
