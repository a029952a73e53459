import EmbeddedScripts.Proofs.Columns
import EmbeddedScripts.Proofs.Placement

/-!
# Positions of the parts of a region

The positions in a parse tree come from the marks of a concrete syntax tree, which end a line at a line
feed only, and are moved from the padded source of a region to its document. The positions of regions
come from a tracker, which ends a line at every line separator.

* `Tree.CountsPlaces source padding root`: what is relied on of a concrete syntax tree: the ends of its
  nodes are places of the source, behind the padding, and count what is before them.
* `Region.Faithful.exists_text`: the position of such a place in the source is one column behind that
  of the place in the document as long as no line feed is between the beginning of the region and it;
  `LineColumn.relocate_after`: relocation takes that column back.
* `parseRegion_positions`: in a parse tree, the position of an offset is that of its region, and on from
  there by line feeds and characters.
* `parseDocument_positions_iff`: in a document, it is the position that a tracker finds if and only if
  each line end between the beginning of the region and the offset has a line feed.
-/

namespace EmbeddedScripts

/-! ## Places of a source -/

/-- The mark is a place of the source, not in front of the end of its padding. It counts the text
before it: its bytes, its line feeds, and the bytes since the last of those. -/
def Mark.Counts (source : String) (padding : Nat) (m : Mark) : Prop :=
  padding ≤ m.offset ∧ ∃ before after, source.toList = before ++ after ∧
    m = ⟨Text.byteLength before, before.count '\n', Text.byteLength (Text.lastLine before)⟩

theorem Mark.counts_iff {source : String} {padding : Nat} {m : Mark} :
    m.Counts source padding ↔
      padding ≤ m.offset ∧ ∃ before ∈ source.toList.inits, m = Mark.zero.advanceAll before := by
  simp only [Counts, advanceAll_zero, List.mem_inits]
  constructor
  · rintro ⟨hle, before, after, hs, hm⟩
    exact ⟨hle, before, ⟨after, hs.symm⟩, hm⟩
  · rintro ⟨hle, before, ⟨after, hs⟩, hm⟩
    exact ⟨hle, before, after, hs.symm, hm⟩

instance (source : String) (padding : Nat) (m : Mark) : Decidable (m.Counts source padding) :=
  decidable_of_iff' _ Mark.counts_iff

/-- What is relied on of a concrete syntax tree of a source that begins with `padding` spaces: both
ends of a node without flaw are places of the source behind the padding. -/
def Tree.CountsPlaces (source : String) (padding : Nat) (root : Tree) : Prop :=
  ∀ t ∈ root.nodes, t.label.flaw = none →
    t.start.Counts source padding ∧ t.stop.Counts source padding

instance (source : String) (padding : Nat) (root : Tree) :
    Decidable (root.CountsPlaces source padding) :=
  inferInstanceAs (Decidable (∀ t ∈ root.nodes, t.label.flaw = none →
    t.start.Counts source padding ∧ t.stop.Counts source padding))

/-! ## Relocation -/

/-- **Relocation takes back the column** that the padding is too long by. -/
theorem LineColumn.relocate_after {line column : Nat} (h : 0 < column) (text : List Char) :
    (LineColumn.after ⟨line, column + 1⟩ text).relocate line =
      LineColumn.after ⟨line, column⟩ text := by
  by_cases hm : '\n' ∈ text
  · have hcount := List.count_pos_iff.2 hm
    simp only [relocate, after, hm, ↓reduceIte]
    rw [if_neg (by omega)]
  · rw [after_of_notMem hm, after_of_notMem hm]
    simp only [relocate, ↓reduceIte, LineColumn.mk.injEq, true_and]
    omega

/-- The positions with and without that column are the same behind a line feed only. -/
theorem LineColumn.after_succ_eq_iff {line column : Nat} {text : List Char} :
    LineColumn.after ⟨line, column + 1⟩ text = LineColumn.after ⟨line, column⟩ text ↔
      '\n' ∈ text := by
  by_cases hm : '\n' ∈ text
  · simp [after, hm]
  · simp [after_of_notMem hm, hm]

namespace Region.Faithful

variable {document : String} {r : Region} (hr : r.Faithful document)
include hr

theorem column_pos : 0 < r.column := by
  obtain ⟨before, after, hd, hb⟩ := hr.boundaries.1
  have hpos := hr.position
  rw [hd, ← hb, lineColumn_append] at hpos
  have hcolumn : r.column = (before.foldl Position.Count.step {}).column :=
    congrArg LineColumn.column hpos
  rw [hcolumn]
  exact Position.column_foldl_pos Nat.one_pos before

/-- What is counted up to the beginning of a region does not end in the middle of a line end, since a
tag is before it. -/
theorem exists_count {before after : List Char} (hd : document.toList = before ++ after)
    (hb : Text.byteLength before = r.index) :
    (before.foldl Position.Count.step {}).position = ⟨r.line, r.column⟩ ∧
      (before.foldl Position.Count.step {}).afterReturn = false := by
  constructor
  · rw [hr.position, hd, ← hb, lineColumn_append]
  · obtain ⟨start, tag, ⟨b, a, hd', -, hstop⟩, name, attributes, htag, -, -⟩ := hr.opening
    rw [hd] at hd'
    obtain ⟨rfl, -⟩ := Text.append_inj hd' (by rw [hb, Text.byteLength_append, hstop])
    rw [htag, ← List.append_assoc]
    exact Position.afterReturn_foldl_concat (by decide)

/-- **A place in the source of a region** and the text of the document from the beginning of the region
to it. On the first line the padding makes its column one too great. -/
theorem exists_text {m : Mark} (hm : m.Counts r.source r.column) :
    ∃ text, Text.Holds document r.index (m.offset - r.column + r.index) text ∧
      text.toList <+: r.content.toList ∧
      (ColumnIndex.ofList r.source.toList).lineColumn m r.line =
        LineColumn.after ⟨r.line, r.column + 1⟩ text.toList := by
  obtain ⟨hle, before, after, hs, rfl⟩ := hm
  have hsource := hs
  rw [hr.source, String.toList_append] at hs
  obtain ⟨text, rfl, hcontent⟩ := Text.append_split hs (by rw [Text.byteLength_spaces]; exact hle)
  have hheld : Text.Holds r.content 0 (Text.byteLength text) (String.ofList text) :=
    ⟨[], after, by simpa using hcontent, rfl, by simp⟩
  refine ⟨String.ofList text, ?_, ⟨after, by simpa using hcontent.symm⟩, ?_⟩
  · have htext := hr.content.trans hheld
    rw [Nat.add_zero] at htext
    simpa [Nat.add_comm] using htext
  · have hspaces : '\n' ∉ (Text.spaces r.column).toList := by
      rw [Text.toList_spaces, List.mem_replicate]
      rintro ⟨-, hc⟩
      cases hc
    have hlength : (Text.spaces r.column).toList.length = r.column := by
      rw [Text.toList_spaces, List.length_replicate]
    rw [hsource, ← Mark.advanceAll_zero, ColumnIndex.lineColumn_advanceAll,
      LineColumn.after_append, LineColumn.after_of_notMem hspaces, hlength, Nat.add_comm 1,
      String.toList_ofList]

/-- **Counting on from the beginning of a region by line feeds** gives the position in the document if
and only if each line end that is passed has a line feed. -/
theorem after_eq_lineColumn_iff {offset : Nat} {text : String}
    (h : Text.Holds document r.index offset text) :
    LineColumn.after ⟨r.line, r.column⟩ text.toList = lineColumn document.toList offset ↔
      Position.FeedEnded text.toList := by
  obtain ⟨before, after, hd, hb, rfl⟩ := h
  obtain ⟨hpos, hreturn⟩ := hr.exists_count (by rw [hd, List.append_assoc]) hb
  rw [← Text.byteLength_append, hd, lineColumn_append, List.foldl_append, ← hpos, eq_comm]
  exact Position.position_foldl_eq_iff hreturn

end Region.Faithful

/-! ## The spans of a tree -/

/-- Both ends of a span: an offset and its position. -/
def Span.ends (s : Span) : List (Nat × LineColumn) := [(s.start, s.startPos), (s.stop, s.stopPos)]

/-- The span of a tree and those of its nodes, comments and tokens. -/
def ParseTree.spans (t : ParseTree) : List Span :=
  t.span :: (t.nodes.toList.map (·.span) ++ t.comments.toList.map (·.span) ++
    t.tokens.toList.map (·.span))

theorem ParseTree.mem_spans {t : ParseTree} {s : Span} :
    s ∈ t.spans ↔ s = t.span ∨ (∃ n ∈ t.nodes.toList, n.span = s) ∨
      (∃ c ∈ t.comments.toList, c.span = s) ∨ ∃ k ∈ t.tokens.toList, k.span = s := by
  simp only [spans, List.mem_cons, List.mem_append, List.mem_map, or_assoc]

theorem ParseTree.spans_relocate (t : ParseTree) (base padding firstLine : Nat) :
    (t.relocate base padding firstLine).spans =
      t.spans.map (Span.relocate base padding firstLine) := by
  simp [spans, relocate, Function.comp_def]

/-- Every span of a tree that is read is that of a node. -/
theorem Script.mem_spans_readTree {text : String} {options : ParseOptions} {root : Tree}
    {tree : ParseTree} (h : readTree text options root = .ok tree) {s : Span}
    (hs : s ∈ tree.spans) :
    ∃ t ∈ root.nodes, s = (Source.ofString text options.startLine).span t := by
  unfold readTree at h
  split at h
  · cases h
  cases h
  rcases ParseTree.mem_spans.1 hs with rfl | ⟨n, hn, rfl⟩ | ⟨c, hc, rfl⟩ | ⟨k, hk, rfl⟩
  · exact ⟨root, Tree.mem_nodes_self root, rfl⟩
  · obtain ⟨t, ht, hstands⟩ := mem_arena (Array.mem_toList_iff.1 hn)
    exact ⟨t, ht, hstands.span⟩
  · rw [comments_lexicalParts] at hc
    obtain ⟨t, ht, rfl⟩ := List.mem_map.1 hc
    exact ⟨t, mem_nodes_of_mem_lexicalTrees (List.mem_of_mem_filter ht), rfl⟩
  · rw [tokens_lexicalParts] at hk
    obtain ⟨t, ht, rfl⟩ := List.mem_map.1 hk
    exact ⟨t, mem_nodes_of_mem_lexicalTrees (List.mem_of_mem_filter ht), rfl⟩

section Regions

variable {grammar : List Char → Tree} {document : String} {r : Region} {mode : SourceMode}
  {tree : ParseTree}

/-- Every end of a span in the tree of a region is a relocated mark of the concrete syntax tree. -/
theorem exists_mark_of_present (hg : (grammar r.source.toList).CountsPlaces r.source r.column)
    (ht : parseRegion (Script.parserOf grammar) mode r = .present tree) {s : Span}
    (hs : s ∈ tree.spans) {e : Nat × LineColumn} (he : e ∈ s.ends) :
    ∃ m : Mark, m.Counts r.source r.column ∧
      e = (m.offset - r.column + r.index,
        ((ColumnIndex.ofList r.source.toList).lineColumn m r.line).relocate r.line) := by
  obtain ⟨-, parsed, hp, rfl⟩ := parseRegion_eq_present_iff.1 ht
  rw [ParseTree.spans_relocate, List.mem_map] at hs
  obtain ⟨u, hu, rfl⟩ := hs
  obtain ⟨t, hmem, rfl⟩ := Script.mem_spans_readTree hp hu
  obtain ⟨hstart, hstop⟩ := hg t hmem (Script.flaw_eq_none_of_readTree hp hmem)
  simp only [Span.ends, List.mem_cons, List.not_mem_nil, or_false] at he
  rcases he with rfl | rfl
  · exact ⟨t.start, hstart, rfl⟩
  · exact ⟨t.stop, hstop, rfl⟩

/-- **The position of an offset in the tree of a region** is that of the region, moved on by the line
feeds and characters from there. -/
theorem exists_text_of_present (hr : r.Faithful document)
    (hg : (grammar r.source.toList).CountsPlaces r.source r.column)
    (ht : parseRegion (Script.parserOf grammar) mode r = .present tree) {s : Span}
    (hs : s ∈ tree.spans) {e : Nat × LineColumn} (he : e ∈ s.ends) :
    ∃ text, Text.Holds document r.index e.1 text ∧ text.toList <+: r.content.toList ∧
      e.2 = LineColumn.after ⟨r.line, r.column⟩ text.toList := by
  obtain ⟨m, hm, rfl⟩ := exists_mark_of_present hg ht hs he
  obtain ⟨text, htext, hbegins, hpos⟩ := hr.exists_text hm
  refine ⟨text, htext, hbegins, ?_⟩
  rw [hpos, LineColumn.relocate_after hr.column_pos]

end Regions

/-- **Positions in the tree of a region.** Each offset is behind a text of the document that begins
with the region; the position is that of the region, a line more for each line feed of the text, and
the column counts on or begins anew after the last of them. So it is the position in the document if
the text has no other line separators. -/
theorem parseRegion_positions (config : Config) (reader : Markup.TagReader)
    {grammar : List Char → Tree} {document : String} {r : Region}
    (hr : r ∈ scan config reader document)
    (hg : (grammar r.source.toList).CountsPlaces r.source r.column) {mode : SourceMode}
    {tree : ParseTree} (ht : parseRegion (Script.parserOf grammar) mode r = .present tree) :
    ∀ s ∈ tree.spans, ∀ e ∈ s.ends, ∃ text, Text.Holds document r.index e.1 text ∧
      e.2 = LineColumn.after ⟨r.line, r.column⟩ text.toList ∧
      ((∀ c ∈ text.toList, Position.isLineSeparator c = true → c = '\n') →
        e.2 = lineColumn document.toList e.1) := by
  intro s hs e he
  have hf := scan_faithful hr
  obtain ⟨text, htext, -, hpos⟩ := exists_text_of_present hf hg ht hs he
  refine ⟨text, htext, hpos, fun hsep => ?_⟩
  rw [hpos]
  exact (hf.after_eq_lineColumn_iff htext).2 (.of_forall hsep)

/-- The tree of two statements of one letter and a semicolon each, with one character between them,
after any spaces. -/
def Script.twoNames (text : List Char) : Tree :=
  let mark (k : Nat) : Mark := Mark.zero.advanceAll (text.take k)
  let name (i : Nat) : Tree :=
    .node { kind := "expression_statement" } (mark i) (mark (i + 2))
      [.node { kind := "identifier" } (mark i) (mark (i + 1)) [],
        .node { kind := ";", named := false } (mark (i + 1)) (mark (i + 2)) []]
  let i := (text.takeWhile (· == ' ')).length
  .node { kind := "program" } (mark i) (Mark.zero.advanceAll text) [name i, name (i + 3)]

theorem parseRegion_positions_twoNames :
    let document := "é\n<p>\r<script>ü;\nb;</script>"
    let r : Region := ⟨15, 6, 3, 9, "         ü;\nb;"⟩
    r ∈ scan {} (fun _ => none) document ∧
      (Script.twoNames r.source.toList).CountsPlaces r.source r.column ∧
      ∃ tree, parseRegion (Script.parserOf Script.twoNames) .script r = .present tree ∧
        tree.tokens.toList.map (fun k => (k.value, k.span.start, k.span.startPos)) =
          [("ü", 15, ⟨3, 9⟩), (";", 17, ⟨3, 10⟩), ("b", 19, ⟨4, 1⟩), (";", 20, ⟨4, 2⟩)] ∧
        ∀ s ∈ tree.spans, ∀ e ∈ s.ends, ∃ text, Text.Holds document r.index e.1 text ∧
          e.2 = LineColumn.after ⟨r.line, r.column⟩ text.toList ∧
          ((∀ c ∈ text.toList, Position.isLineSeparator c = true → c = '\n') →
            e.2 = lineColumn document.toList e.1) := by
  intro document r
  have hr : r ∈ scan {} (fun _ => none) document := by decide +kernel
  have hg : (Script.twoNames r.source.toList).CountsPlaces r.source r.column := by decide +kernel
  have htokens : ((parseRegion (Script.parserOf Script.twoNames) .script r).tree?.map fun tree =>
      tree.tokens.toList.map fun k => (k.value, k.span.start, k.span.startPos)) =
      some [("ü", 15, ⟨3, 9⟩), (";", 17, ⟨3, 10⟩), ("b", 19, ⟨4, 1⟩), (";", 20, ⟨4, 2⟩)] := by
    decide +kernel
  refine ⟨hr, hg, ?_⟩
  cases ht : parseRegion (Script.parserOf Script.twoNames) .script r with
  | absent reason =>
    rw [ht] at htokens
    cases htokens
  | present tree =>
    rw [ht] at htokens
    exact ⟨tree, rfl, Option.some.inj htokens,
      parseRegion_positions {} (fun _ => none) hr hg ht⟩

/-! ## The spans of a document -/

/-- The spans of the nodes, comments and tokens of a document. -/
def Document.spans (d : Document) : List Span :=
  d.program.nodes.toList.map (·.span) ++ d.comments.toList.map (·.span) ++
    d.tokens.toList.map (·.span)

/-- Every span of a merged document is one of a tree. -/
theorem mem_spans_merge {document : String} {outcomes : List Outcome} {s : Span}
    (h : s ∈ (merge document outcomes).spans) :
    ∃ tree ∈ outcomes.filterMap Outcome.tree?, s ∈ tree.spans := by
  simp only [Document.spans, List.mem_append, List.mem_map] at h
  rcases h with (⟨n, hn, rfl⟩ | ⟨c, hc, rfl⟩) | ⟨k, hk, rfl⟩
  · obtain ⟨tree, ht, m, hm, base, rfl⟩ := mem_nodes_merge (Array.mem_toList_iff.1 hn)
    exact ⟨tree, ht, ParseTree.mem_spans.2 (.inr (.inl ⟨m, Array.mem_toList_iff.2 hm, rfl⟩))⟩
  · rw [comments_merge] at hc
    obtain ⟨tree, ht, hc⟩ := List.mem_flatMap.1 hc
    exact ⟨tree, ht, ParseTree.mem_spans.2 (.inr (.inr (.inl ⟨c, hc, rfl⟩)))⟩
  · rw [tokens_merge] at hk
    obtain ⟨tree, ht, hk⟩ := List.mem_flatMap.1 hk
    exact ⟨tree, ht, ParseTree.mem_spans.2 (.inr (.inr (.inr ⟨k, hk, rfl⟩)))⟩

/-- **Positions in a document.** Each node, comment and token belongs to a region, and the position of
either end is that in the document if and only if each line end of the text between the beginning of
the region and it is a line feed, or a carriage return with a line feed after it. -/
theorem parseDocument_positions_iff (config : Config) (reader : Markup.TagReader)
    {grammar : List Char → Tree} {document : String}
    (hg : ∀ r ∈ scan config reader document,
      (grammar r.source.toList).CountsPlaces r.source r.column) (pool : Pool) :
    ∀ s ∈ (Extractor.parseDocument ⟨config, Script.parserOf grammar, reader⟩ document pool).spans,
      ∃ r ∈ scan config reader document, ∀ e ∈ s.ends,
        ∃ text, Text.Holds document r.index e.1 text ∧ e.1 ≤ r.stop ∧
          (e.2 = lineColumn document.toList e.1 ↔ Position.FeedEnded text.toList) := by
  intro s hs
  rw [Extractor.parseDocument_eq] at hs
  obtain ⟨tree, htree, hs⟩ := mem_spans_merge hs
  obtain ⟨r, hr, hpresent⟩ := List.mem_map.1 (mem_filterMap_tree?.1 htree)
  have hf := scan_faithful hr
  refine ⟨r, hr, fun e he => ?_⟩
  obtain ⟨text, htext, hbegins, hpos⟩ := exists_text_of_present hf (hg r hr) hpresent hs he
  refine ⟨text, htext, ?_, ?_⟩
  · obtain ⟨rest, hrest⟩ := hbegins
    have h1 := htext.length_eq
    have h2 := hf.content.length_eq
    rw [← hrest, Text.byteLength_append] at h2
    omega
  · rw [hpos]
    exact hf.after_eq_lineColumn_iff htext

theorem parseDocument_positions_iff_twoNames :
    let document := "<script>ü;\nb;</script>é<script>ü;\rb;</script>"
    let d := Extractor.parseDocument ⟨{}, Script.parserOf Script.twoNames, fun _ => none⟩ document
    (∀ r ∈ scan {} (fun _ => none) document,
        (Script.twoNames r.source.toList).CountsPlaces r.source r.column) ∧
      (d.tokens.toList.filter (·.value == "b")).map
          (fun k => (k.span.startPos, lineColumn document.toList k.span.start)) =
        [(⟨2, 1⟩, ⟨2, 1⟩), (⟨2, 24⟩, ⟨3, 1⟩)] ∧
      ∀ s ∈ d.spans, ∃ r ∈ scan {} (fun _ => none) document, ∀ e ∈ s.ends,
        ∃ text, Text.Holds document r.index e.1 text ∧ e.1 ≤ r.stop ∧
          (e.2 = lineColumn document.toList e.1 ↔ Position.FeedEnded text.toList) := by
  intro document d
  have hg : ∀ r ∈ scan {} (fun _ => none) document,
      (Script.twoNames r.source.toList).CountsPlaces r.source r.column := by decide +kernel
  exact ⟨hg, by decide +kernel, parseDocument_positions_iff {} (fun _ => none) hg .inOrder⟩

/-- A script with a carriage return that no line feed follows: the token after it is on the second line
of the document, and on the first one by its own position. -/
theorem parseDocument_position_after_return :
    let document := "<script>a;\rb;</script>"
    ∃ k ∈ (Extractor.parseDocument {} document).tokens.toList,
      k.value = "b" ∧ k.span.startPos = ⟨1, 12⟩ ∧
        lineColumn document.toList k.span.start = ⟨2, 1⟩ := by
  decide +kernel

end EmbeddedScripts
