import EmbeddedScripts.Text.Lowercase
import EmbeddedScripts.Tree.Walk

/-!
# Attributes of a tag

`readerOf parse` reads the attributes of the first opening tag of a piece of markup off the tree that
`parse` makes of it. It maps their names, in lower case, to their values. An attribute without a
value has an empty one, and of two attributes of the same name the first counts.
-/

namespace EmbeddedScripts.Markup

/-- A parser of markup. -/
abbrev MarkupParser := String → Option Tree

/-- Names mapped to values. -/
abbrev AttributeMap := List (String × String)

/-- Reads the attributes of the first opening tag of a piece of markup, if there is one. -/
abbrev TagReader := String → Option AttributeMap

/-! ## Tags -/

/-- Whether a node is an opening tag. -/
def isOpening (t : Tree) : Bool := t.kind == "start_tag" || t.kind == "self_closing_tag"

/-- The first opening tag of a tree. -/
def firstOpening? (root : Tree) : Option Tree :=
  root.walk (fun found place =>
    if isOpening place.node then (.stop, some place.node) else (.descend, found)) none

/-! ## Attributes -/

/-- An attribute of which some parts are known. -/
structure AttributeDraft where
  name : Option String := none
  value : String := ""

/-- Notes what a part of an attribute says. A value in quotes has a node of its own, unless it is
empty. -/
def AttributeDraft.note (source : String) (d : AttributeDraft) (part : Tree) : AttributeDraft :=
  match part.kind with
  | "attribute_name" => { d with name := some (Text.lowercase (part.text source)) }
  | "attribute_value" => { d with value := part.text source }
  | "quoted_attribute_value" =>
    match part.namedChildren.find? (·.kind == "attribute_value") with
    | some inner => { d with value := inner.text source }
    | none => { d with value := "" }
  | _ => d

/-- The name and the value of an attribute, if it has a name. -/
def readAttribute? (source : String) (t : Tree) : Option (String × String) :=
  let d := t.namedChildren.foldl (AttributeDraft.note source) {}
  d.name.map (·, d.value)

/-- Adds a name with its value unless the name is there. -/
def AttributeMap.add (m : AttributeMap) (a : String × String) : AttributeMap :=
  if (m.lookup a.1).isSome then m else m ++ [a]

/-- The attributes of a tag. -/
def attributesOf (source : String) (tag : Tree) : AttributeMap :=
  let attributes := tag.namedChildren.filter (·.kind == "attribute")
  (attributes.filterMap (readAttribute? source)).foldl AttributeMap.add []

/-- The reader of attributes that goes by the trees of a parser. -/
def readerOf (parse : MarkupParser) : TagReader := fun source => do
  let root ← parse source
  let tag ← firstOpening? root
  return attributesOf source tag

/-- The type that a tag declares, in lower case. -/
def declaredType? (reader : TagReader) (tag : String) : Option String :=
  ((reader tag).bind (·.lookup "type")).map Text.lowercase

end EmbeddedScripts.Markup
