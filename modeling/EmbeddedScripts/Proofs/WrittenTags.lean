import EmbeddedScripts.Markup.TagTree
import Mathlib.Data.List.Infix

/-!
# Written tags and their nodes

An `Item` is an attribute in an opening tag: blanks, a name, and its value in one of three spellings
or none. `scriptElement` is a script element with such attributes.

`ReadsTags parse` is what is relied on of a parser of markup: the tree of a script element begins with
a node for its opening tag (`Begins`, `TagNode`), which has a node for each attribute in order
(`AttributeNode`), which has one for the name and, if there is a value, the nodes of that
(`ValueNodes`).
-/

namespace EmbeddedScripts.Markup

/-! ## Written attributes -/

/-- How the value of an attribute is written. -/
inductive Spelling where
  /-- The name stands alone. -/
  | absent
  | plain (value : List Char)
  | quoted (quote : Char) (value : List Char)
deriving DecidableEq, Repr

namespace Spelling

/-- The value. That of a name alone is empty. -/
def value : Spelling → List Char
  | absent => []
  | plain value => value
  | quoted _ value => value

/-- What follows the name. -/
def text : Spelling → List Char
  | absent => []
  | plain value => '=' :: value
  | quoted quote value => '=' :: quote :: (value ++ [quote])

/-- The text reads as the value: a value without quotes has none of the characters that end it, and
one in quotes has no such quote and does not begin with a blank or a tag. -/
def WellFormed : Spelling → Prop
  | absent => True
  | plain value => value ≠ [] ∧ ∀ c ∈ value, isValueChar c = true
  | quoted quote value =>
    (quote = '"' ∨ quote = '\x27') ∧ quote ∉ value ∧ '\x00' ∉ value ∧
      ∀ c ∈ value.head?, isTagBlank c = false ∧ c ≠ '<'

instance : (s : Spelling) → Decidable s.WellFormed
  | absent => inferInstanceAs (Decidable True)
  | plain value =>
    decidable_of_iff (value ≠ [] ∧ value.all isValueChar = true) (by simp [WellFormed])
  | quoted quote value =>
    decidable_of_iff ((quote = '"' ∨ quote = '\x27') ∧ quote ∉ value ∧ '\x00' ∉ value ∧
      value.head?.all (fun c => !isTagBlank c && c != '<') = true)
      (by simp [WellFormed, Option.all_eq_true])

end Spelling

/-- An attribute of a tag, with the blanks before it. -/
structure Item where
  gap : List Char
  name : List Char
  spelling : Spelling
deriving DecidableEq, Repr

namespace Item

def text (i : Item) : List Char := i.gap ++ (i.name ++ i.spelling.text)

/-- The name in lower case. -/
def key (i : Item) : String := Text.lowercase (String.ofList i.name)

structure WellFormed (i : Item) : Prop where
  gap_ne : i.gap ≠ []
  gap_blank : ∀ c ∈ i.gap, isTagBlank c = true
  name_ne : i.name ≠ []
  name_chars : ∀ c ∈ i.name, isNameChar c = true
  spelling : i.spelling.WellFormed

instance (i : Item) : Decidable i.WellFormed :=
  decidable_of_iff (i.gap ≠ [] ∧ i.gap.all isTagBlank = true ∧ i.name ≠ [] ∧
      i.name.all isNameChar = true ∧ i.spelling.WellFormed)
    ⟨fun ⟨h1, h2, h3, h4, h5⟩ => ⟨h1, List.all_eq_true.1 h2, h3, List.all_eq_true.1 h4, h5⟩,
      fun ⟨h1, h2, h3, h4, h5⟩ => ⟨h1, List.all_eq_true.2 h2, h3, List.all_eq_true.2 h4, h5⟩⟩

end Item

/-- A tag from after its name on: its attributes, its end and what follows. -/
def tail (items : List Item) (rest : List Char) : List Char :=
  items.flatMap Item.text ++ '>' :: rest

/-- A script element. `word` is the name of its opening tag. -/
def scriptElement (word : List Char) (items : List Item) (content : List Char) : List Char :=
  '<' :: (word ++ tail items (content ++ "</script>".toList))

/-- The content of a script element: nothing in it begins to close the element. -/
structure IsContent (content : List Char) : Prop where
  no_closing : ¬ "</script".toList <:+: content.map Char.toLower
  no_null : '\x00' ∉ content

instance (content : List Char) : Decidable (IsContent content) :=
  decidable_of_iff (¬ "</script".toList <:+: content.map Char.toLower ∧ '\x00' ∉ content)
    ⟨fun ⟨hclosing, hnull⟩ => ⟨hclosing, hnull⟩, fun ⟨hclosing, hnull⟩ => ⟨hclosing, hnull⟩⟩

/-! ## Their nodes -/

/-- A node for a rule of the grammar, which covers the given text of the source. -/
structure RuleNode (source kind : String) (text : List Char) (t : Tree) : Prop where
  kind_eq : t.kind = kind
  named : t.named = true
  text_eq : t.text source = String.ofList text

/-- A value between two quotes. The value has a node unless it is empty. -/
structure QuotedNode (source : String) (value : List Char) (t : Tree) : Prop where
  kind_eq : t.kind = "quoted_attribute_value"
  named : t.named = true
  children : ∃ opening inner closing, t.children = opening :: (inner ++ [closing]) ∧
    opening.named = false ∧ closing.named = false ∧
    (value = [] ∧ inner = [] ∨
      value ≠ [] ∧ ∃ v, inner = [v] ∧ RuleNode source "attribute_value" value v)

/-- The nodes of what follows the name of an attribute: those of an equals sign and of the value, if
there is one. -/
inductive ValueNodes (source : String) : Spelling → List Tree → Prop where
  | absent : ValueNodes source .absent []
  | plain {value : List Char} {sign t : Tree} (hsign : sign.named = false)
      (ht : RuleNode source "attribute_value" value t) :
    ValueNodes source (.plain value) [sign, t]
  | quoted {quote : Char} {value : List Char} {sign t : Tree} (hsign : sign.named = false)
      (ht : QuotedNode source value t) :
    ValueNodes source (.quoted quote value) [sign, t]

/-- The node of an attribute. -/
structure AttributeNode (source : String) (i : Item) (t : Tree) : Prop where
  kind_eq : t.kind = "attribute"
  named : t.named = true
  children : ∃ name value, t.children = name :: value ∧
    RuleNode source "attribute_name" i.name name ∧ ValueNodes source i.spelling value

/-- The node of an opening tag with the given attributes. -/
structure TagNode (source : String) (items : List Item) (t : Tree) : Prop where
  kind_eq : t.kind = "start_tag"
  children : ∃ opening name attributes closing,
    t.children = opening :: name :: (attributes ++ [closing]) ∧ opening.named = false ∧
      name.kind = "tag_name" ∧ closing.named = false ∧
      List.Forall₂ (AttributeNode source) items attributes

/-- The tree begins with the node `tag`, and what is above that is no opening tag. -/
inductive Begins (tag : Tree) : Tree → Prop where
  | self : Begins tag tag
  | inside {l : Label} {start stop : Mark} {t : Tree} {ts : List Tree}
      (hl : isOpening (.node l start stop (t :: ts)) = false) (ht : Begins tag t) :
    Begins tag (.node l start stop (t :: ts))

/-- What is relied on of a parser of markup: the tree of a script element begins with the node of its
opening tag. -/
def ReadsTags (parse : MarkupParser) : Prop :=
  ∀ (word : List Char) (items : List Item) (content : List Char),
    word.map Char.toLower = "script".toList → (∀ i ∈ items, i.WellFormed) → IsContent content →
      let source := String.ofList (scriptElement word items content)
      ∃ root tag, parse source = some root ∧ Begins tag root ∧ TagNode source items tag

end EmbeddedScripts.Markup
