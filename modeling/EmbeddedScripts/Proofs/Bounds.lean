import EmbeddedScripts.Proofs.Positions

/-!
# Spans stay in their regions

Any parser whose spans lie in the source it is given has, after relocation, spans that lie in the
region: a span that begins in the padding is cut off at the beginning of the region, and the padding
has as many bytes as relocation takes away.

* `Span.Within.relocate`: what relocation does to one span.
* `parseRegion_within`: the spans of the tree of a region lie in the region.
* `parseDocument_within`: so the spans of a document come from its regions, region by region, do not
  overlap across regions, and lie in the document.
-/

namespace EmbeddedScripts

/-! ## One region -/

/-- The span lies between two offsets, and its ends are in order. -/
def Span.Within (first last : Nat) (s : Span) : Prop :=
  first ≤ s.start ∧ s.start ≤ s.stop ∧ s.stop ≤ last

instance (first last : Nat) (s : Span) : Decidable (s.Within first last) :=
  inferInstanceAs (Decidable (_ ∧ _))

theorem Span.Within.mono {first last low high : Nat} {s : Span} (h : s.Within first last)
    (hlow : low ≤ first) (hhigh : last ≤ high) : s.Within low high := by
  obtain ⟨h1, h2, h3⟩ := h
  exact ⟨by omega, h2, by omega⟩

/-- Relocation takes the padding away and cuts off what is in it. -/
theorem Span.Within.relocate {padding length : Nat} {s : Span} (h : s.Within 0 (padding + length))
    (base firstLine : Nat) : (s.relocate base padding firstLine).Within base (base + length) := by
  obtain ⟨-, h2, h3⟩ := h
  simp only [Within, Span.relocate]
  omega

/-- The spans of the trees that the parser gives lie in its source, be it in the padding. -/
def ScriptParser.StaysInside (parser : ScriptParser) : Prop :=
  ∀ source options tree, parser source options = .ok tree →
    ∀ s ∈ tree.spans, s.start ≤ s.stop ∧ s.stop ≤ source.utf8ByteSize

/-- **The spans of a tree lie in its region.** -/
theorem parseRegion_within {parser : ScriptParser} (hp : ScriptParser.StaysInside parser)
    {mode : SourceMode} {document : String} {r : Region} (hr : r.Faithful document)
    {tree : ParseTree} (ht : parseRegion parser mode r = .present tree) {s : Span}
    (hs : s ∈ tree.spans) : s.Within r.index r.stop := by
  obtain ⟨-, parsed, hparsed, rfl⟩ := parseRegion_eq_present_iff.1 ht
  rw [ParseTree.spans_relocate, List.mem_map] at hs
  obtain ⟨u, hu, rfl⟩ := hs
  obtain ⟨hle, hstop⟩ := hp _ _ _ hparsed u hu
  rw [hr.source_length] at hstop
  exact Span.Within.relocate ⟨Nat.zero_le _, hle, hstop⟩ r.index r.line

/-! ## All regions -/

/-- What the tree of a region contributes, if there is one. -/
def contribution (outcome : Region → Outcome) (spans : ParseTree → List Span) (r : Region) :
    List Span :=
  (outcome r).tree?.toList.flatMap spans

theorem mem_contribution {outcome : Region → Outcome} {spans : ParseTree → List Span} {r : Region}
    {s : Span} :
    s ∈ contribution outcome spans r ↔ ∃ tree, outcome r = .present tree ∧ s ∈ spans tree := by
  cases h : outcome r with
  | present tree => simp [contribution, h, Outcome.tree?]
  | absent reason => simp [contribution, h, Outcome.tree?]

theorem filterMap_tree?_flatMap (outcome : Region → Outcome) (spans : ParseTree → List Span)
    (regions : List Region) :
    ((regions.map outcome).filterMap Outcome.tree?).flatMap spans =
      regions.flatMap (contribution outcome spans) := by
  rw [List.filterMap_map, List.filterMap_eq_flatMap_toList, List.flatMap_assoc]
  rfl

/-- The spans of the nodes, comments and tokens of a document come from the trees of regions, region
by region. -/
structure Document.SpansFrom (d : Document) (regions : List Region) (outcome : Region → Outcome) :
    Prop where
  nodes : d.program.nodes.toList.map (·.span) =
    regions.flatMap (contribution outcome fun t => t.nodes.toList.map (·.span))
  comments : d.comments.toList.map (·.span) =
    regions.flatMap (contribution outcome fun t => t.comments.toList.map (·.span))
  tokens : d.tokens.toList.map (·.span) =
    regions.flatMap (contribution outcome fun t => t.tokens.toList.map (·.span))

theorem merge_spansFrom (document : String) (regions : List Region)
    (outcome : Region → Outcome) :
    (merge document (regions.map outcome)).SpansFrom regions outcome := by
  constructor
  · have hadd : ∀ (d : Document) (t : ParseTree), (d.append t).program.nodes.toList.map (·.span) =
        d.program.nodes.toList.map (·.span) ++ t.nodes.toList.map (·.span) := by
      intro d t
      simp [Document.append, SyntaxNode.shift, Function.comp_def]
    rw [← filterMap_tree?_flatMap]
    exact foldl_append_eq (f := fun d => d.program.nodes.toList.map (·.span)) hadd _ _
  · rw [comments_merge, List.map_flatMap, filterMap_tree?_flatMap]
  · rw [tokens_merge, List.map_flatMap, filterMap_tree?_flatMap]

/-- The span of a merged document is that of its text, whatever was merged. -/
theorem span_merge (document : String) (outcomes : List Outcome) :
    (merge document outcomes).span.start = 0 ∧
      (merge document outcomes).span.stop = document.utf8ByteSize := by
  have hspan : ∀ (ts : List ParseTree) (d : Document),
      (ts.foldl Document.append d).span = d.span := by
    intro ts
    induction ts with
    | nil => exact fun _ => rfl
    | cons t ts ih => exact fun d => ih (d.append t)
  rw [merge, hspan]
  exact ⟨rfl, Text.byteLength_toList document⟩

/-- **The spans of a document stay in their regions**, for every parser whose spans lie in its
source. Those of a region lie between its two offsets. The spans of the document come from its
regions, region by region, those of one region end before those of a later one begin, and all lie in
the span of the document, which is that of its text. -/
theorem parseDocument_within {parser : ScriptParser} (hp : ScriptParser.StaysInside parser)
    (config : Config) (reader : Markup.TagReader) (document : String) (pool : Pool) :
    let regions := scan config reader document
    let outcome := parseRegion parser config.sourceMode
    let d := Extractor.parseDocument ⟨config, parser, reader⟩ document pool
    (∀ r ∈ regions, ∀ tree, outcome r = .present tree → ∀ s ∈ tree.spans,
        s.Within r.index r.stop) ∧
      d.SpansFrom regions outcome ∧
      (regions.Pairwise fun r q => ∀ s ∈ contribution outcome ParseTree.spans r,
        ∀ u ∈ contribution outcome ParseTree.spans q, s.stop < u.start) ∧
      d.span.start = 0 ∧ d.span.stop = document.utf8ByteSize ∧
      ∀ s ∈ d.spans, s.Within d.span.start d.span.stop := by
  intro regions outcome d
  have hwithin : ∀ r ∈ regions, ∀ tree, outcome r = .present tree → ∀ s ∈ tree.spans,
      s.Within r.index r.stop :=
    fun r hr tree ht s hs => parseRegion_within hp (scan_faithful hr) ht hs
  have hd : d = merge document (regions.map outcome) := Extractor.parseDocument_eq _ _ _
  rw [hd]
  refine ⟨hwithin, merge_spansFrom document regions outcome, ?_, ?_⟩
  · refine (scan_pairwise config reader document).imp_of_mem fun {r q} hr hq hlt s hs u hu => ?_
    obtain ⟨t, ht, hs⟩ := mem_contribution.1 hs
    obtain ⟨t', ht', hu⟩ := mem_contribution.1 hu
    obtain ⟨-, -, hstop⟩ := hwithin r hr t ht s hs
    obtain ⟨hstart, -, -⟩ := hwithin q hq t' ht' u hu
    omega
  · obtain ⟨hstart, hstop⟩ := span_merge document (regions.map outcome)
    refine ⟨hstart, hstop, fun s hs => ?_⟩
    obtain ⟨tree, htree, hs⟩ := mem_spans_merge hs
    obtain ⟨r, hr, ht⟩ := List.mem_map.1 (mem_filterMap_tree?.1 htree)
    exact (hwithin r hr tree ht s hs).mono (hstart ▸ Nat.zero_le _)
      (hstop ▸ (scan_faithful hr).bounds.2)

/-- The parser that takes any source for one statement and gives its beginning as a token, padding and
all. -/
def wholeSource : ScriptParser := fun source options =>
  let length := source.utf8ByteSize
  let span (stop : Nat) : Span := ⟨0, stop, ⟨options.startLine, 1⟩, ⟨options.startLine, stop + 1⟩⟩
  .ok
    { nodes := #[{ kind := "script", span := span length }]
      statements := #[0]
      tokens := #[⟨"beginning", String.ofList (source.toList.take 3), span (min 3 length)⟩]
      span := span length }

theorem wholeSource_staysInside : ScriptParser.StaysInside wholeSource := by
  intro source options tree h s hs
  cases h
  simp only [ParseTree.spans, List.map_cons, List.map_nil, List.append_nil, List.cons_append,
    List.nil_append, List.mem_cons, List.not_mem_nil, or_false] at hs
  rcases hs with rfl | rfl | rfl
  · exact ⟨Nat.zero_le _, Nat.le_refl _⟩
  · exact ⟨Nat.zero_le _, Nat.le_refl _⟩
  · exact ⟨Nat.zero_le _, Nat.min_le_right _ _⟩

/-- Two regions whose tokens lie in the padding and come to lie at the beginning of the regions. -/
theorem parseDocument_within_wholeSource :
    let document := "é<script>a</script>\r<script>bü</script>"
    let regions := scan {} (fun _ => none) document
    let outcome := parseRegion wholeSource .script
    let d := Extractor.parseDocument ⟨{}, wholeSource, fun _ => none⟩ document
    ScriptParser.StaysInside wholeSource ∧
      regions.map (fun r => (r.index, r.column, r.stop)) = [(10, 10, 11), (29, 9, 32)] ∧
      d.program.nodes.toList.map (fun n => (n.span.start, n.span.stop)) = [(10, 11), (29, 32)] ∧
      d.tokens.toList.map (fun k => (k.span.start, k.span.stop)) = [(10, 10), (29, 29)] ∧
      (∀ r ∈ regions, ∀ tree, outcome r = .present tree → ∀ s ∈ tree.spans,
        s.Within r.index r.stop) ∧
      d.SpansFrom regions outcome ∧
      (regions.Pairwise fun r q => ∀ s ∈ contribution outcome ParseTree.spans r,
        ∀ u ∈ contribution outcome ParseTree.spans q, s.stop < u.start) ∧
      d.span.start = 0 ∧ d.span.stop = document.utf8ByteSize ∧
      ∀ s ∈ d.spans, s.Within d.span.start d.span.stop :=
  ⟨wholeSource_staysInside, by decide +kernel, by decide +kernel, by decide +kernel,
    parseDocument_within wholeSource_staysInside {} (fun _ => none) _ .inOrder⟩

end EmbeddedScripts
