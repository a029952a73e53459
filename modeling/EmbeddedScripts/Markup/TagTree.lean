import EmbeddedScripts.Markup.Attributes
import EmbeddedScripts.Markup.ScriptTag

/-!
# The tree of the first opening tag

`tagTree` makes a tree of the element that the first opening tag of a piece of markup opens. Where a tag
goes wrong, the rest of it is passed over up to its end; a tag that never ends is none. Comments may
stand between any two parts of a tag. `readAttributes` goes by this tree.
-/

namespace EmbeddedScripts.Markup

/-! ## Characters -/

/-- The blanks between the parts of a tag. -/
def isTagBlank (c : Char) : Bool := ('\t' ≤ c && c ≤ '\r') || c == ' '

def isTagNameChar (c : Char) : Bool := c.isAlphanum || c == '-' || c == ':'

/-- The characters of an unquoted value. -/
def isValueChar (c : Char) : Bool :=
  !(isTagBlank c || c == '<' || c == '>' || c == '"' || c == '\x27' || c == '=' || c == '\x00')

/-- The characters of the name of an attribute. -/
def isNameChar (c : Char) : Bool := isValueChar c && c != '/'

/-! ## Nodes -/

/-- The mark in `source` at which `rest` begins, the end of it. -/
def markBefore (source rest : List Char) : Mark :=
  Mark.zero.advanceAll (source.take (source.length - rest.length))

/-- The node of what `source` has from `text` on up to `rest`. -/
def nodeBetween (source text rest : List Char) (label : Label) (children : List Tree := []) : Tree :=
  .node label (markBefore source text) (markBefore source rest) children

/-! ## Gaps -/

/-- The text after the first `-->`. -/
def afterDashes? : List Char → Option (List Char)
  | '-' :: '-' :: '>' :: rest => some rest
  | c :: cs => if c = '\x00' then none else afterDashes? cs
  | [] => none

/-- The text after a comment at the beginning of a text. -/
def afterComment? : List Char → Option (List Char)
  | '<' :: '!' :: '-' :: '-' :: cs => afterDashes? cs
  | _ => none

theorem length_afterDashes? {cs rest : List Char} (h : afterDashes? cs = some rest) :
    rest.length < cs.length := by
  fun_induction afterDashes? cs with
  | case1 => simp_all; omega
  | case2 => simp at h
  | case3 _ _ _ _ ih =>
    have := ih h
    simp
    omega
  | case4 => simp at h

theorem length_afterComment? {cs rest : List Char} (h : afterComment? cs = some rest) :
    rest.length < cs.length := by
  unfold afterComment? at h
  split at h
  · have := length_afterDashes? h
    simp
    omega
  · simp at h

/-- Passes over blanks and comments. -/
def skipGaps (text : List Char) : List Char :=
  match text with
  | [] => []
  | c :: cs =>
    if isTagBlank c then skipGaps cs
    else
      match _h : afterComment? (c :: cs) with
      | some rest => skipGaps rest
      | none => c :: cs
termination_by text.length
decreasing_by
  · simp
  · exact length_afterComment? _h

theorem length_skipGaps (text : List Char) : (skipGaps text).length ≤ text.length := by
  fun_induction skipGaps text with
  | case1 => simp
  | case2 _ _ _ ih =>
    simp
    omega
  | case3 _ _ _ _ h ih =>
    have := length_afterComment? h
    omega
  | case4 => simp

/-! ## Values -/

/-- Passes over the comments at the beginning of a quoted value, with the blanks before them. -/
def skipComments (text : List Char) : List Char :=
  match _h : afterComment? (text.dropWhile isTagBlank) with
  | some rest => skipComments rest
  | none => text
termination_by text.length
decreasing_by
  have := length_afterComment? _h
  have := (List.dropWhile_sublist (p := isTagBlank) (l := text)).length_le
  omega

theorem length_skipComments (text : List Char) : (skipComments text).length ≤ text.length := by
  fun_induction skipComments text with
  | case1 text rest h ih =>
    have := length_afterComment? h
    have := (List.dropWhile_sublist (p := isTagBlank) (l := text)).length_le
    omega
  | case2 => simp

/-- The node of a value that begins where `text` does, up to `rest`. -/
def valueNode (source text rest : List Char) : Tree :=
  nodeBetween source text rest { kind := "attribute_value" }

/-- Reads a value up to its closing quote, from after the opening one. The value itself ends in front
of a null. -/
def quotedValue? (source : List Char) (quote : Char) (text : List Char) :
    Option (Tree × List Char) :=
  let value := skipComments text
  match value.dropWhile (· != quote) with
  | [] => none
  | _ :: rest =>
    let stop := value.dropWhile fun c => c != quote && c != '\x00'
    let inner := if stop.length < value.length then [valueNode source value stop] else []
    let mark (rest : List Char) : Tree :=
      nodeBetween source (quote :: rest) rest { kind := quote.toString, named := false }
    some (nodeBetween source (quote :: text) rest { kind := "quoted_attribute_value" }
      (mark text :: (inner ++ [mark rest])), rest)

/-- Reads the value after an equals sign; further signs are passed over. The value is empty if none
stands there. -/
def value? (source text : List Char) : Option (Tree × List Char) :=
  match _h : skipGaps text with
  | [] => none
  | c :: cs =>
    if c = '"' ∨ c = '\x27' then quotedValue? source c cs
    else if c = '=' then value? source cs
    else
      let rest := (c :: cs).dropWhile isValueChar
      some (valueNode source (c :: cs) rest, rest)
termination_by text.length
decreasing_by
  have := length_skipGaps text
  simp only [_h, List.length_cons] at this
  omega

theorem length_value? {source text rest : List Char} {t : Tree}
    (h : value? source text = some (t, rest)) : rest.length ≤ text.length := by
  fun_induction value? source text with
  | case1 => simp at h
  | case2 text c cs hg hq =>
    have hl := length_skipGaps text
    simp only [hg, List.length_cons] at hl
    simp only [quotedValue?] at h
    split at h
    · simp at h
    · next d r hd =>
      simp only [Option.some.injEq, Prod.mk.injEq] at h
      obtain ⟨-, rfl⟩ := h
      have h1 := (List.dropWhile_sublist (p := (· != c)) (l := skipComments cs)).length_le
      have h2 := length_skipComments cs
      simp only [hd, List.length_cons] at h1
      omega
  | case3 text cs hg _ ih =>
    have hl := length_skipGaps text
    simp only [hg, List.length_cons] at hl
    have := ih h
    omega
  | case4 text c cs hg _ _ stop =>
    have hl := length_skipGaps text
    simp only [hg] at hl
    simp only [Option.some.injEq, Prod.mk.injEq] at h
    have : stop.length ≤ (c :: cs).length :=
      (List.dropWhile_sublist (p := isValueChar) (l := c :: cs)).length_le
    rw [← h.2]
    omega

/-! ## Attributes -/

/-- The text after a tag that went wrong, if it ends at all. The tag of a raw element does not end with
`/>`. -/
def afterTag? (raw : Bool) : List Char → Option (List Char)
  | [] => none
  | '/' :: '>' :: cs => if raw then afterTag? raw cs else some cs
  | c :: cs => if c = '>' then some cs else afterTag? raw cs

theorem length_afterName {c : Char} (cs : List Char) (hc : isNameChar c = true) :
    (skipGaps ((c :: cs).dropWhile isNameChar)).length ≤ cs.length := by
  have h1 := length_skipGaps ((c :: cs).dropWhile isNameChar)
  have h2 := (List.dropWhile_sublist (p := isNameChar) (l := cs)).length_le
  rw [List.dropWhile_cons_of_pos hc] at h1
  rw [List.dropWhile_cons_of_pos hc]
  omega

/-- The node of an attribute up to `rest`, with its name up to `afterName` and the nodes of its
value. -/
def attributeNode (source text afterName rest : List Char) (value : List Tree) : Tree :=
  nodeBetween source text rest { kind := "attribute" }
    (nodeBetween source text afterName { kind := "attribute_name" } :: value)

/-- The node of an equals sign in front of `rest`. -/
def signNode (source rest : List Char) : Tree :=
  nodeBetween source ('=' :: rest) rest { kind := "=", named := false }

/-- Reads the attributes of a tag up to its end, from after its name; gives the text after the tag,
too. -/
def tagAttributes? (source : List Char) (raw : Bool) (text : List Char) :
    Option (List Tree × List Char) :=
  match _h : skipGaps text with
  | [] => none
  | c :: cs =>
    if c = '>' then some ([], cs)
    else if _hc : isNameChar c then
      let afterName := (c :: cs).dropWhile isNameChar
      match _hr : skipGaps afterName with
      | '=' :: more =>
        match _hv : value? source more with
        | none => none
        | some (value, rest) =>
          let t := attributeNode source (c :: cs) afterName rest [signNode source more, value]
          (tagAttributes? source raw rest).map fun (ts, after) => (t :: ts, after)
      | rest =>
        let t := attributeNode source (c :: cs) afterName afterName []
        (tagAttributes? source raw rest).map fun (ts, after) => (t :: ts, after)
    else (afterTag? raw (c :: cs)).map ([], ·)
termination_by text.length
decreasing_by
  all_goals
    have h1 := length_skipGaps text
    have h2 := length_afterName cs _hc
    rw [_hr] at h2
    simp only [_h, List.length_cons] at h1
  · have h3 := length_value? _hv
    simp only [List.length_cons] at h2
    omega
  · omega

/-! ## Elements -/

/-- The kind of the element that a tag opens, by the name of the tag. -/
def elementKind (name : List Char) : String :=
  let name := name.map Char.toLower
  if name = ['s', 'c', 'r', 'i', 'p', 't'] then "script_element"
  else if name = ['s', 't', 'y', 'l', 'e'] then "style_element"
  else "element"

/-- The content of a script element and its closing tag, if there is one. -/
def scriptContent (source after : List Char) : List Tree :=
  match cutAt? closingTag? after with
  | none => []
  | some (content, closing, rest) =>
    let text := if content.isEmpty then [] else
      [nodeBetween source after (closing ++ rest) { kind := "raw_text" }]
    text ++ [nodeBetween source (closing ++ rest) rest { kind := "end_tag" }]

/-- The node of an element from `text` on, whose tag has its name from `name` up to `afterName`, the
given attributes, and `after` behind it. Nothing is said of the content unless it is a script. -/
def elementNode (source text name afterName : List Char) (attributes : List Tree)
    (after : List Char) : Tree :=
  let kind := elementKind (name.takeWhile isTagNameChar)
  let content := if kind = "script_element" then scriptContent source after else []
  let opening := nodeBetween source text (text.drop 1) { kind := "<", named := false }
  let closing := nodeBetween source ('>' :: after) after { kind := ">", named := false }
  let tag := nodeBetween source text after { kind := "start_tag" }
    (opening :: nodeBetween source name afterName { kind := "tag_name" } ::
      (attributes ++ [closing]))
  nodeBetween source text [] { kind } (tag :: content)

/-- The text after the name of a document type declaration up to its end, given the text after its
`<`. -/
def afterDoctype? : List Char → Option (List Char)
  | '!' :: text => do
    let (_, rest) ← spelled? ['d', 'o', 'c', 't', 'y', 'p', 'e'] (skipGaps text)
    return rest.dropWhile (· != '>')
  | _ => none

theorem length_afterDoctype? {text rest : List Char} (h : afterDoctype? text = some rest) :
    rest.length < text.length := by
  unfold afterDoctype? at h
  split at h
  · next text =>
    simp only [Option.bind_eq_bind, Option.bind_eq_some_iff, Prod.exists, Option.pure_def,
      Option.some.injEq] at h
    obtain ⟨name, r, hn, rfl⟩ := h
    have h1 := length_skipGaps text
    have h2 := (List.dropWhile_sublist (p := (· != '>')) (l := r)).length_le
    rw [(spelled?_append hn).1] at h1
    simp only [List.length_append, List.length_cons] at h1 ⊢
    omega
  · simp at h

/-- The element of the first opening tag. -/
def firstElementNode? (source text : List Char) : Option Tree :=
  match text with
  | [] => none
  | c :: cs =>
    if c = '<' then
      match _h : afterComment? (c :: cs) with
      | some rest => firstElementNode? source rest
      | none =>
        match _hd : afterDoctype? cs with
        | some rest => firstElementNode? source rest
        | none =>
          let name := skipGaps cs
          let afterName := name.dropWhile isTagNameChar
          if afterName.length < name.length then
            let raw := elementKind (name.takeWhile isTagNameChar) != "element"
            (tagAttributes? source raw afterName).map fun (attributes, after) =>
              elementNode source (c :: cs) name afterName attributes after
          else firstElementNode? source cs
    else firstElementNode? source cs
termination_by text.length
decreasing_by
  · exact length_afterComment? _h
  · have := length_afterDoctype? _hd
    simp
    omega
  · simp
  · simp

/-- The tree of a piece of markup with the element of its first opening tag. -/
def tagTree : MarkupParser := fun source =>
  let text := source.toList
  (firstElementNode? text text).map fun element =>
    nodeBetween text text [] { kind := "document" } [element]

/-- The reader of attributes. -/
def readAttributes : TagReader := readerOf tagTree

end EmbeddedScripts.Markup
