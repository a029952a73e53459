import EmbeddedScripts.Extractor
import EmbeddedScripts.Proofs.Merging
import EmbeddedScripts.Proofs.Parts
import EmbeddedScripts.Proofs.Regions
import EmbeddedScripts.Proofs.Violations

/-!
# Tokens, comments and texts stand in the document

What a parse tree shows of its text is found in the document where its spans say.

* `Script.LaidOut source padding root`: what is relied on of a concrete syntax tree: children follow
  each other within their parent, nothing starts in the padding, comments are complete.
* `Placed document first last nodes comments tokens`: what these show stands in the document, and
  tokens as well as comments follow each other between the two offsets.
* `readTree_placed`: a tree that is laid out is read into one placed in its source;
  `Placed.relocate`: relocation places that in the document; `parseDocument_placed`: merging keeps
  the order, since regions come in order.
-/

namespace EmbeddedScripts

/-! ## Comments -/

/-- How a comment is written in its source. -/
def Comment.spelling (c : Comment) : String :=
  match c.kind with
  | .line => "//" ++ c.value
  | .block => "/*" ++ c.value ++ "*/"
  | .html => c.value

/-! ## Spans -/

/-- Spans with text in them that follow each other, without overlap, between two offsets. -/
structure Ascending (first last : Nat) (spans : List Span) : Prop where
  inside : ∀ s ∈ spans, first ≤ s.start ∧ s.start < s.stop ∧ s.stop ≤ last
  ordered : spans.Pairwise fun s t => s.stop ≤ t.start

theorem Ascending.nil (first last : Nat) : Ascending first last [] :=
  ⟨by simp, .nil⟩

/-- Relocation moves the end of the padding to the beginning of the snippet. -/
theorem Ascending.relocate {padding length : Nat} {spans : List Span}
    (h : Ascending padding (padding + length) spans) (base firstLine : Nat) :
    Ascending base (base + length) (spans.map (Span.relocate base padding firstLine)) := by
  refine ⟨fun s hs => ?_, List.pairwise_map.2 ?_⟩
  · obtain ⟨u, hu, rfl⟩ := List.mem_map.1 hs
    have := h.inside u hu
    simp only [Span.relocate]
    omega
  · refine h.ordered.imp_of_mem fun {s t} hs ht hle => ?_
    have := h.inside s hs
    simp only [Span.relocate]
    omega

/-- Spans within ranges that follow each other follow each other. -/
theorem Ascending.flatMap {α : Type} {first last : Nat} (lo hi : α → Nat) {f : α → List Span}
    {l : List α} (h : ∀ a ∈ l, Ascending (lo a) (hi a) (f a))
    (hin : ∀ a ∈ l, first ≤ lo a ∧ hi a ≤ last) (hl : l.Pairwise fun a b => hi a ≤ lo b) :
    Ascending first last (l.flatMap f) := by
  refine ⟨fun s hs => ?_, List.pairwise_flatMap.2 ⟨fun a ha => (h a ha).ordered, ?_⟩⟩
  · obtain ⟨a, ha, hs⟩ := List.mem_flatMap.1 hs
    have h1 := (h a ha).inside s hs
    have h2 := hin a ha
    omega
  · refine hl.imp_of_mem fun {a b} ha hb hle s hs t ht => ?_
    have h1 := (h a ha).inside s hs
    have h2 := (h b hb).inside t ht
    omega

/-! ## Parts in a document -/

/-- The texts of nodes, the tokens and the comments stand in the document where their spans say,
from the offset `first` on. Tokens as well as comments come in the order of the document, do not
overlap, and end by the offset `last`. -/
structure Placed (document : String) (first last : Nat) (nodes : Array SyntaxNode)
    (comments : Array Comment) (tokens : Array Token) : Prop where
  texts : ∀ n ∈ nodes, ∀ text, n.text = some text →
    first ≤ n.span.start ∧ Text.Holds document n.span.start n.span.stop text
  spellings : ∀ c ∈ comments, Text.Holds document c.span.start c.span.stop c.spelling
  values : ∀ k ∈ tokens, Text.Holds document k.span.start k.span.stop k.value
  comments_ascend : Ascending first last (comments.toList.map (·.span))
  tokens_ascend : Ascending first last (tokens.toList.map (·.span))

namespace Script

/-- A comment with all that belongs to it. -/
def IsComplete (text : List Char) : Prop :=
  (∃ value, text = '/' :: '/' :: value) ∨ (∃ value, text = '/' :: '*' :: (value ++ ['*', '/'])) ∨
    ['<', '!', '-', '-'] <+: text ∨ ['-', '-', '>'] <+: text

theorem IsComplete.ne_nil {text : List Char} (h : IsComplete text) : text ≠ [] := by
  rintro rfl
  simp [IsComplete] at h

theorem spelling_commentAt {s : Source} {t : Tree} (h : IsComplete (t.text s.text).toList) :
    (commentAt s t).spelling = t.text s.text := by
  rw [← String.toList_inj]
  rcases h with ⟨value, hv⟩ | ⟨value, hv⟩ | ⟨rest, hv⟩ | ⟨rest, hv⟩
  · simp [commentAt, hv, commentOf, Comment.spelling]
  · simp [commentAt, hv, commentOf, Comment.spelling]
  · simp [commentAt, ← hv, commentOf, Comment.spelling]
  · simp [commentAt, ← hv, commentOf, Comment.spelling]

/-! ## Trees -/

/-- What is relied on of a concrete syntax tree of a source that begins with `padding` spaces. -/
structure LaidOut (source : String) (padding : Nat) (root : Tree) : Prop where
  laid : ∀ t ∈ root.nodes, t.Laid source
  /-- The root, and so every node, starts after the padding. -/
  padded : padding ≤ root.start.offset
  complete : ∀ t ∈ root.nodes, isComment t → IsComplete (t.text source).toList

/-- What is relied on of a grammar: it lays out every tree without flaw. -/
def LaysOut (grammar : List Char → Tree) : Prop :=
  ∀ (padding : Nat) (content : String),
    let source := Text.spaces padding ++ content
    let root := grammar source.toList
    (∀ t ∈ root.nodes, t.label.flaw = none) → LaidOut source padding root

theorem start_le_of_mem_nodes {source : String} {root t : Tree}
    (h : ∀ t ∈ root.nodes, t.Laid source) (ht : t ∈ root.nodes) :
    root.start.offset ≤ t.start.offset := by
  induction root using Tree.induct with
  | step root ih =>
    rw [Tree.nodes_eq, List.mem_cons, List.mem_flatMap] at ht
    rcases ht with rfl | ⟨c, hc, ht⟩
    · exact Nat.le_refl _
    · have h1 := (h root (Tree.mem_nodes_self root)).inside c hc
      have h2 := ih c hc (fun u hu => h u (Tree.mem_nodes_of_child hc hu)) ht
      omega

/-- Some of the tokens and comments of a tree, those with text, in the order of the source. -/
theorem LaidOut.ascending {source : String} {padding : Nat} {root : Tree}
    (h : LaidOut source padding root) {p : Tree → Bool}
    (hp : ∀ t ∈ lexicalTrees root, p t → t.start.offset < t.stop.offset) (s : Source) :
    Ascending padding source.utf8ByteSize (((lexicalTrees root).filter p).map s.span) := by
  obtain ⟨hin, hord⟩ := lexicalTrees_ascend fun t ht => (h.laid t ht).nested
  refine ⟨fun u hu => ?_, List.pairwise_map.2 ((hord.filter p).imp fun hle => hle)⟩
  obtain ⟨t, ht, rfl⟩ := List.mem_map.1 hu
  obtain ⟨ht, hpt⟩ := List.mem_filter.1 ht
  have h1 := hin t ht
  have h2 := hp t ht hpt
  have h3 := h.padded
  have h4 := (h.laid t (mem_nodes_of_mem_lexicalTrees ht)).holds_text.stop_le
  rw [Text.byteLength_toList] at h4
  show padding ≤ t.start.offset ∧ t.start.offset < t.stop.offset ∧
    t.stop.offset ≤ source.utf8ByteSize
  omega

/-- **A tree that is laid out is read into one placed in its source**, after the padding. -/
theorem readTree_placed {source : String} {padding : Nat} {root : Tree} {options : ParseOptions}
    {tree : ParseTree} (h : LaidOut source padding root)
    (hr : readTree source options root = .ok tree) :
    Placed source padding source.utf8ByteSize tree.nodes tree.comments tree.tokens := by
  unfold readTree at hr
  split at hr
  · cases hr
  cases hr
  have hcomment : ∀ t ∈ lexicalTrees root, isComment t → t.start.offset < t.stop.offset := by
    intro t ht hc
    have ht := mem_nodes_of_mem_lexicalTrees ht
    have hlen := (h.laid t ht).holds_text.length_eq
    have hne := mt Text.byteLength_eq_zero.1 (h.complete t ht hc).ne_nil
    omega
  refine ⟨fun n hn text htext => ?_, fun c hc => ?_, fun k hk => ?_, ?_, ?_⟩
  · obtain ⟨t, ht, hs⟩ := mem_arena hn
    rw [hs.text] at htext
    split at htext
    · cases htext
      rw [hs.span]
      have := start_le_of_mem_nodes h.laid ht
      exact ⟨Nat.le_trans h.padded this, (h.laid t ht).holds_text⟩
    · cases htext
  · rw [← Array.mem_toList_iff, comments_lexicalParts] at hc
    obtain ⟨t, ht, rfl⟩ := List.mem_map.1 hc
    obtain ⟨ht, hc⟩ := List.mem_filter.1 ht
    have ht := mem_nodes_of_mem_lexicalTrees ht
    rw [spelling_commentAt (s := .ofString source options.startLine) (h.complete t ht hc),
      span_commentAt]
    exact (h.laid t ht).holds_text
  · rw [← Array.mem_toList_iff, tokens_lexicalParts] at hk
    obtain ⟨t, ht, rfl⟩ := List.mem_map.1 hk
    have ht := mem_nodes_of_mem_lexicalTrees (List.mem_of_mem_filter ht)
    exact (h.laid t ht).holds_text
  · simp only [comments_lexicalParts, commentsOf, List.map_map, Function.comp_def, span_commentAt]
    exact h.ascending hcomment _
  · simp only [tokens_lexicalParts, tokensOf, List.map_map, Function.comp_def, span_tokenAt]
    exact h.ascending (fun t ht hc => lt_of_mem_lexicalTrees ht (by simpa using hc)) _

/-- A tree that is accepted has no flaw. -/
theorem flaw_eq_none_of_readTree {source : String} {root t : Tree} {options : ParseOptions}
    {tree : ParseTree} (hr : readTree source options root = .ok tree) (ht : t ∈ root.nodes) :
    t.label.flaw = none := by
  unfold readTree at hr
  split at hr
  · cases hr
  rename_i hnone
  obtain ⟨above, ho⟩ := Tree.exists_occurrence ht
  have hbreaks := firstViolation?_eq_none_iff.1 hnone above t ho
  match hf : t.label.flaw with
  | none => rfl
  | some .unexpected => exact absurd (.unexpected hf) (hbreaks _)
  | some .missing => exact absurd (.missing hf) (hbreaks _)

end Script

/-! ## Parts of a region -/

/-- **Relocation places the tree of a region in the document.** -/
theorem Placed.relocate {document : String} {r : Region} {tree : ParseTree}
    (hr : r.Faithful document)
    (h : Placed r.source r.column r.source.utf8ByteSize tree.nodes tree.comments tree.tokens) :
    let moved := tree.relocate r.index r.column r.line
    Placed document r.index r.stop moved.nodes moved.comments moved.tokens := by
  have hmove : ∀ {span : Span} {text : String}, r.column ≤ span.start →
      Text.Holds r.source span.start span.stop text →
      Text.Holds document (span.start - r.column + r.index) (span.stop - r.column + r.index)
        text := by
    intro span text hle hh
    rw [hr.source] at hh
    exact hr.content.relocate hh hle
  have hcomments := h.comments_ascend
  have htokens := h.tokens_ascend
  rw [hr.source_length] at hcomments htokens
  refine ⟨fun n hn text htext => ?_, fun c hc => ?_, fun k hk => ?_, ?_, ?_⟩
  · obtain ⟨m, hm, rfl⟩ := Array.mem_map.1 hn
    obtain ⟨hle, hh⟩ := h.texts m hm text htext
    exact ⟨Nat.le_add_left _ _, hmove hle hh⟩
  · obtain ⟨d, hd, rfl⟩ := Array.mem_map.1 hc
    have hin := hcomments.inside d.span (List.mem_map_of_mem (Array.mem_toList_iff.2 hd))
    exact hmove hin.1 (h.spellings d hd)
  · obtain ⟨m, hm, rfl⟩ := Array.mem_map.1 hk
    have hin := htokens.inside m.span (List.mem_map_of_mem (Array.mem_toList_iff.2 hm))
    exact hmove hin.1 (h.values m hm)
  · have := hcomments.relocate r.index r.line
    simpa [ParseTree.relocate, Function.comp_def, Region.stop] using this
  · have := htokens.relocate r.index r.line
    simpa [ParseTree.relocate, Function.comp_def, Region.stop] using this

theorem parseRegion_placed {grammar : List Char → Tree} (hg : Script.LaysOut grammar)
    {document : String} {r : Region} {mode : SourceMode} {tree : ParseTree}
    (hr : r.Faithful document)
    (h : (parseRegion (Script.parserOf grammar) mode r).tree? = some tree) :
    Placed document r.index r.stop tree.nodes tree.comments tree.tokens := by
  unfold parseRegion at h
  split at h
  · cases h
  split at h
  · rename_i parsed hp
    cases h
    refine Placed.relocate hr (Script.readTree_placed ?_ hp)
    have hlaid := hg r.column r.content
    rw [← hr.source] at hlaid
    exact hlaid fun t ht => Script.flaw_eq_none_of_readTree hp ht
  · cases h

/-! ## Parts of a document -/

section Merging

variable {document : String} {regions : List Region} {outcome : Region → Outcome}

/-- Spans of the trees of regions, where regions without a tree have none. -/
theorem Ascending.of_trees {spans : ParseTree → List Span}
    (hin : ∀ r ∈ regions, r.Faithful document)
    (hord : regions.Pairwise fun r s => r.stop < s.index)
    (h : ∀ r ∈ regions, ∀ tree, (outcome r).tree? = some tree →
      Ascending r.index r.stop (spans tree)) :
    Ascending 0 document.utf8ByteSize
      (((regions.map outcome).filterMap Outcome.tree?).flatMap spans) := by
  rw [List.filterMap_map, List.filterMap_eq_flatMap_toList, List.flatMap_assoc]
  refine Ascending.flatMap Region.index Region.stop (fun r hr => ?_)
    (fun r hr => ⟨Nat.zero_le _, (hin r hr).bounds.2⟩) (hord.imp Nat.le_of_lt)
  cases ht : (outcome r).tree? with
  | none =>
    simp only [Function.comp_apply, ht]
    exact .nil _ _
  | some tree =>
    simp only [Function.comp_apply, ht, Option.toList_some, List.flatMap_singleton]
    exact h r hr tree ht

/-- **Merging keeps the parts of regions** that follow each other in their places. -/
theorem merge_placed (hin : ∀ r ∈ regions, r.Faithful document)
    (hord : regions.Pairwise fun r s => r.stop < s.index)
    (h : ∀ r ∈ regions, ∀ tree, (outcome r).tree? = some tree →
      Placed document r.index r.stop tree.nodes tree.comments tree.tokens) :
    let d := merge document (regions.map outcome)
    Placed document 0 document.utf8ByteSize d.program.nodes d.comments d.tokens := by
  intro d
  have htree : ∀ tree ∈ (regions.map outcome).filterMap Outcome.tree?,
      ∃ r : Region, Placed document r.index r.stop tree.nodes tree.comments tree.tokens := by
    intro tree ht
    obtain ⟨o, ho, ht⟩ := List.mem_filterMap.1 ht
    obtain ⟨r, hr, rfl⟩ := List.mem_map.1 ho
    exact ⟨r, h r hr tree ht⟩
  refine ⟨fun n hn text htext => ?_, fun c hc => ?_, fun k hk => ?_, ?_, ?_⟩
  · obtain ⟨tree, ht, m, hm, base, rfl⟩ := mem_nodes_merge hn
    obtain ⟨r, hp⟩ := htree tree ht
    exact ⟨Nat.zero_le _, (hp.texts m hm text htext).2⟩
  · rw [← Array.mem_toList_iff, comments_merge] at hc
    obtain ⟨tree, ht, hc⟩ := List.mem_flatMap.1 hc
    obtain ⟨r, hp⟩ := htree tree ht
    exact hp.spellings c (Array.mem_toList_iff.1 hc)
  · rw [← Array.mem_toList_iff, tokens_merge] at hk
    obtain ⟨tree, ht, hk⟩ := List.mem_flatMap.1 hk
    obtain ⟨r, hp⟩ := htree tree ht
    exact hp.values k (Array.mem_toList_iff.1 hk)
  · rw [comments_merge, List.map_flatMap]
    exact .of_trees hin hord fun r hr tree ht => (h r hr tree ht).comments_ascend
  · rw [tokens_merge, List.map_flatMap]
    exact .of_trees hin hord fun r hr tree ht => (h r hr tree ht).tokens_ascend

end Merging

/-- **The tokens, comments and texts of a document stand in it**, tokens as well as comments in
order and without overlap over all regions, for every grammar that lays out its trees. -/
theorem parseDocument_placed (config : Config) (reader : Markup.TagReader)
    {grammar : List Char → Tree} (hg : Script.LaysOut grammar) (document : String) (pool : Pool) :
    let d := Extractor.parseDocument ⟨config, Script.parserOf grammar, reader⟩ document pool
    Placed document 0 document.utf8ByteSize d.program.nodes d.comments d.tokens := by
  rw [Extractor.parseDocument_eq]
  exact merge_placed (fun _ hr => scan_faithful hr) (scan_pairwise config reader document)
    fun _ hr _ ht => parseRegion_placed hg (scan_faithful hr) ht

/-! ## A grammar of one text -/

namespace Script

/-- The tree of a name of one letter and a comment of three characters, from the offset `n` on. -/
def commentedNameAt (n : Nat) : Tree :=
  let mark (k : Nat) : Mark := ⟨n + k, 0, n + k⟩
  .node { kind := "program" } (mark 0) (mark 4)
    [.node { kind := "expression_statement" } (mark 0) (mark 4)
      [.node { kind := "identifier" } (mark 0) (mark 1) [],
        .node { kind := "comment" } (mark 1) (mark 4) []]]

/-- The grammar of the text `a//b`, with any spaces before it. -/
def commentedName (text : List Char) : Tree :=
  if text.dropWhile (· == ' ') = "a//b".toList then
    commentedNameAt (text.takeWhile (· == ' ')).length
  else flawedTree text

theorem commentedNameAt_laidOut {source : String} {n : Nat}
    (h : source.toList = (Text.spaces n).toList ++ "a//b".toList) :
    LaidOut source n (commentedNameAt n) := by
  have hb : ∀ before after, "a//b".toList = before ++ after →
      Text.IsBoundary source (n + Text.byteLength before) := by
    intro before after he
    exact ⟨(Text.spaces n).toList ++ before, after, by rw [h, he, List.append_assoc], by simp⟩
  have h0 := hb [] _ rfl
  have h1 := hb ['a'] _ rfl
  have h4 := hb "a//b".toList [] rfl
  have hcomment : Text.slice source (n + 1) (n + 4) = "//b" := by
    refine Text.Holds.slice_eq ⟨(Text.spaces n).toList ++ ['a'], [], by rw [h]; simp, ?_, ?_⟩
    · rw [Text.byteLength_append, Text.byteLength_spaces]
      rfl
    · rw [Text.byteLength_append, Text.byteLength_spaces]
      rfl
  have hnodes : (commentedNameAt n).nodes =
      [commentedNameAt n,
        .node { kind := "expression_statement" } ⟨n, 0, n⟩ ⟨n + 4, 0, n + 4⟩
          [.node { kind := "identifier" } ⟨n, 0, n⟩ ⟨n + 1, 0, n + 1⟩ [],
            .node { kind := "comment" } ⟨n + 1, 0, n + 1⟩ ⟨n + 4, 0, n + 4⟩ []],
        .node { kind := "identifier" } ⟨n, 0, n⟩ ⟨n + 1, 0, n + 1⟩ [],
        .node { kind := "comment" } ⟨n + 1, 0, n + 1⟩ ⟨n + 4, 0, n + 4⟩ []] := by
    simp [commentedNameAt, Tree.nodes_eq, Tree.children]
  refine ⟨?_, Nat.le_refl _, ?_⟩
  · simp only [hnodes, List.forall_mem_cons]
    refine ⟨⟨h0, h4, ?_, ?_, ?_⟩, ⟨h0, h4, ?_, ?_, ?_⟩, ⟨h0, h1, ?_, ?_, ?_⟩, ⟨h1, h4, ?_, ?_, ?_⟩,
      by simp⟩
    all_goals simp [commentedNameAt, Tree.start, Tree.stop, Tree.children]
  · rw [hnodes]
    simp [commentedNameAt, isComment, IsComplete, Tree.kind, Tree.label, Tree.text,
      Tree.start, Tree.stop, hcomment]

theorem commentedName_laysOut : LaysOut commentedName := by
  intro padding content source root hflaw
  by_cases ht : source.toList.dropWhile (· == ' ') = "a//b".toList
  · generalize hn : (source.toList.takeWhile (· == ' ')).length = n
    have hroot : root = commentedNameAt n := by
      rw [← hn]
      exact if_pos ht
    have hspaces : source.toList.takeWhile (· == ' ') = List.replicate n ' ' := by
      refine List.eq_replicate_iff.2 ⟨hn, fun c hc => ?_⟩
      simpa using List.all_eq_true.1 List.all_takeWhile c hc
    have hlaid : LaidOut source n (commentedNameAt n) := by
      refine commentedNameAt_laidOut ?_
      rw [Text.toList_spaces, ← hspaces, ← ht, List.takeWhile_append_dropWhile]
    have hpadding : padding ≤ n := by
      rw [← hn]
      simp [source, Text.toList_spaces]
    rw [hroot]
    exact ⟨hlaid.laid, Nat.le_trans hpadding hlaid.padded, hlaid.complete⟩
  · have hroot : root = flawedTree source.toList := if_neg ht
    rw [hroot] at hflaw
    cases hflaw _ (Tree.mem_nodes_self _)

end Script

theorem parseDocument_placed_commentedName :
    let document := "é<script>a//b</script><script>a//b</script>"
    let d := Extractor.parseDocument
      ⟨{}, Script.parserOf Script.commentedName, fun _ => none⟩ document
    Script.LaysOut Script.commentedName ∧
      d.tokens.toList.map (fun k => (k.value, k.span.start, k.span.stop)) =
        [("a", 10, 11), ("a", 31, 32)] ∧
      d.comments.toList.map (fun c => (c.spelling, c.span.start, c.span.stop)) =
        [("//b", 11, 14), ("//b", 32, 35)] ∧
      Placed document 0 document.utf8ByteSize d.program.nodes d.comments d.tokens :=
  ⟨Script.commentedName_laysOut, by decide +kernel, by decide +kernel,
    parseDocument_placed {} (fun _ => none) Script.commentedName_laysOut _ .inOrder⟩

end EmbeddedScripts
