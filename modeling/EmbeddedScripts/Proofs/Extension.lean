import EmbeddedScripts.Extractor
import EmbeddedScripts.Proofs.Blocks
import EmbeddedScripts.Proofs.Lines
import EmbeddedScripts.Proofs.Regions

/-!
# Text added to a document

What is found in a document is found in every document that begins with it, wherever the text breaks
off: in a tag, in a content, between a carriage return and its line feed.

* `elements_extend`: the elements of a text are the first ones of a longer text. A well-formed element
  stays one, since a tag ends at its first `>` and a cut is made at the first tag.
* `regionAt_extend`: an element has the same region in both, since its position is counted over the
  text before it.
* `parseDocument_extend`: so are the regions, and what a document has of them comes first, with the
  indices it had before.
-/

namespace EmbeddedScripts

open Markup (Element TagReader)

/-! ## Regions -/

/-- **The elements of a text come first** in a text that goes on. -/
theorem Markup.elements_extend (text more : List Char) :
    ∃ rest, elements (text ++ more) = elements text ++ elements rest := by
  obtain ⟨hes, rest, htext⟩ := elements_wellFormed text
  refine ⟨rest ++ more, ?_⟩
  have happend := elements_append hes (rest ++ more)
  rwa [← List.append_assoc, ← htext] at happend

/-- The position of an offset does not depend on the text behind it. -/
theorem lineColumn_extend {text before after : List Char} (h : text = before ++ after)
    (more : List Char) :
    lineColumn (text ++ more) (Text.byteLength before) =
      lineColumn text (Text.byteLength before) := by
  rw [h, List.append_assoc, lineColumn_append, lineColumn_append]

/-- **An element has the same region** in a text that goes on. -/
theorem regionAt_extend {text : List Char} {e : Element} {i : Nat}
    (h : (Markup.elements text)[i]? = some e) (more : List Char) (es : List Element) :
    regionAt (text ++ more) (Markup.elements text ++ es) e i =
      regionAt text (Markup.elements text) e i := by
  obtain ⟨hi, -⟩ := List.getElem?_eq_some_iff.1 h
  obtain ⟨after, htext⟩ := elements_split h
  have hoffset : contentOffset (Markup.elements text ++ es) i e =
      contentOffset (Markup.elements text) i e := by
    rw [contentOffset, contentOffset, List.take_append_of_le_length (Nat.le_of_lt hi)]
  have hbefore : text = ((Markup.elements text).take i).flatMap Element.text ++ e.before ++
      e.opening ++ (e.content ++ e.closing ++ after) := by
    simpa [Element.text] using htext
  have hposition : lineColumn (text ++ more) (contentOffset (Markup.elements text) i e) =
      lineColumn text (contentOffset (Markup.elements text) i e) := lineColumn_extend hbefore more
  rw [regionAt, regionAt, hoffset, hposition]

theorem scan_isPrefix (config : Config) (reader : TagReader) (document more : String) :
    scan config reader document <+: scan config reader (document ++ more) := by
  obtain ⟨rest, hes⟩ := Markup.elements_extend document.toList more.toList
  rw [scan_eq, scan_eq, String.toList_append, hes, List.zipIdx_append, List.filter_append,
    List.map_append]
  refine ⟨_, congrArg (· ++ _) (List.map_congr_left fun p hp => ?_)⟩
  have hget := List.mem_zipIdx_iff_getElem?.1 (List.mem_of_mem_filter hp)
  exact (regionAt_extend hget more.toList _).symm

/-! ## Documents -/

/-- What the first document has, the second one begins with: nodes with their relatives, statements,
comments and tokens. -/
structure Document.Begins (d e : Document) : Prop where
  nodes : d.program.nodes.toList <+: e.program.nodes.toList
  statements : d.program.statements.toList <+: e.program.statements.toList
  comments : d.comments.toList <+: e.comments.toList
  tokens : d.tokens.toList <+: e.tokens.toList

/-- Trees that are added at the end move no index of those before them. -/
theorem merge_begins (document longer : String) {outcomes others : List Outcome}
    (h : outcomes <+: others) : (merge document outcomes).Begins (merge longer others) := by
  have htrees := h.filterMap Outcome.tree?
  constructor
  · rw [nodes_merge, nodes_merge]
    exact blocks_isPrefix movedNodes 0 htrees
  · rw [statements_merge, statements_merge]
    exact blocks_isPrefix movedStatements 0 htrees
  · rw [comments_merge, comments_merge]
    exact htrees.flatMap _
  · rw [tokens_merge, tokens_merge]
    exact htrees.flatMap _

/-- **Text added to a document changes nothing of what was found**: the regions of the document are
the first ones of the longer document, and its nodes, statements, comments and tokens come first in
the tree of that. -/
theorem parseDocument_extend (x : Extractor) (document more : String) (pool : Pool) :
    x.scan document <+: x.scan (document ++ more) ∧
      (x.parseDocument document pool).Begins (x.parseDocument (document ++ more) pool) := by
  have hscan : x.scan document <+: x.scan (document ++ more) :=
    scan_isPrefix x.config x.reader document more
  rw [x.parseDocument_eq, x.parseDocument_eq]
  exact ⟨hscan, merge_begins _ _ (hscan.map _)⟩

end EmbeddedScripts
