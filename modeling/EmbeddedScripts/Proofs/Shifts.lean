import EmbeddedScripts.Proofs.Padding

/-!
# The same script at another place

What a region gives is what its content gives on its own, moved to the place of the region.

* `ColumnIndex.lineColumn_pad`: spaces before a text have no surplus bytes; they move the columns on the
  first row by their number.
* `Script.IgnoresPadding grammar s`: what is relied on of a grammar: spaces before `s` move its tree.
* `Span.placed`, `Span.carried`: the moves from a script to its region, and from there to another one.
* `parseRegion_padded`: a region is accepted if and only if its content is, and has its tree, placed;
  the trees of two regions with the same content are each other's, carried from one to the other.
-/

namespace EmbeddedScripts

/-! ## Columns with spaces before them -/

@[simp] theorem Text.surplus_spaces (n : Nat) : surplus (spaces n).toList = 0 := by
  have h := byteLength_eq_length_add (spaces n).toList
  rw [byteLength_spaces, toList_spaces, List.length_replicate] at h
  rw [toList_spaces]
  omega

namespace ColumnIndex

theorem surplusBefore_le (text : List Char) (offset : Nat) :
    (ofList text).surplusBefore offset ≤ offset := by
  obtain ⟨before, after, rfl, hle, hlt⟩ := Text.exists_append_at text offset
  rw [surplusBefore_ofList hle hlt]
  have := Text.byteLength_eq_length_add before
  omega

variable (k : Nat) (text : List Char)

theorem surplusBefore_spaces_add (offset : Nat) :
    (ofList ((Text.spaces k).toList ++ text)).surplusBefore (offset + k) =
      (ofList text).surplusBefore offset := by
  obtain ⟨before, after, rfl, hle, hlt⟩ := Text.exists_append_at text offset
  rw [surplusBefore_ofList hle hlt, ← List.append_assoc, surplusBefore_ofList]
  · simp
  · rw [Text.byteLength_append, Text.byteLength_spaces]
    omega
  · intro c rest h
    have := hlt c rest h
    rw [Text.byteLength_append, Text.byteLength_spaces]
    omega

theorem surplusBefore_spaces_of_le {offset : Nat} (h : offset ≤ k) :
    (ofList ((Text.spaces k).toList ++ text)).surplusBefore offset = 0 := by
  have hsplit : (Text.spaces k).toList =
      (Text.spaces offset).toList ++ (Text.spaces (k - offset)).toList := by
    rw [Text.toList_spaces, Text.toList_spaces, Text.toList_spaces, List.replicate_append_replicate,
      Nat.add_sub_cancel' h]
  have hbefore := surplusBefore_append (Text.spaces offset).toList
    ((Text.spaces (k - offset)).toList ++ text)
  rwa [Text.byteLength_spaces, Text.surplus_spaces, ← List.append_assoc, ← hsplit] at hbefore

/-- Offsets in front of the text count as its beginning, where there is no surplus. -/
theorem surplusBefore_spaces_sub (offset back : Nat) :
    (ofList ((Text.spaces k).toList ++ text)).surplusBefore (offset + k - back) =
      (ofList text).surplusBefore (offset - back) := by
  by_cases h : back ≤ offset
  · rw [Nat.sub_add_comm h, surplusBefore_spaces_add]
  · have hzero := surplusBefore_spaces_of_le 0 text (Nat.le_refl 0)
    rw [surplusBefore_spaces_of_le k text (by omega), Nat.sub_eq_zero_of_le (by omega)]
    simpa [Text.toList_spaces] using hzero.symm

end ColumnIndex

/-- On the first row the column of a mark is its offset. -/
def Mark.CountsFirstRow (m : Mark) : Prop := m.row = 0 → m.column = m.offset

instance (m : Mark) : Decidable m.CountsFirstRow :=
  inferInstanceAs (Decidable (m.row = 0 → m.column = m.offset))

/-- **Spaces before a text** move the columns on its first row by their number, and no others. -/
theorem ColumnIndex.lineColumn_pad {m : Mark} (hm : m.CountsFirstRow) (k : Nat) (text : List Char)
    (startLine : Nat) :
    (ofList ((Text.spaces k).toList ++ text)).lineColumn (m.pad k) startLine =
      ⟨startLine + m.row, ((ofList text).lineColumn m startLine).column +
        if m.row = 0 then k else 0⟩ := by
  by_cases hrow : m.row = 0
  · -- the line of the mark begins in front of the spaces, and in front of the text without them
    have hcolumn := hm hrow
    have hle := surplusBefore_le text m.offset
    simp only [lineColumn, Mark.pad, if_pos hrow, hcolumn, surplusBefore_spaces_add,
      surplusBefore_spaces_of_le k text (Nat.zero_le k), Nat.sub_self, LineColumn.mk.injEq,
      true_and]
    have hzero := surplusBefore_le text 0
    omega
  · simp only [lineColumn, Mark.pad, if_neg hrow, surplusBefore_spaces_add,
      surplusBefore_spaces_sub, Nat.add_zero]

/-! ## Placing a script -/

/-- The position in a region of a position in its content; the content begins on the same line. -/
def LineColumn.placed (r : Region) (p : LineColumn) : LineColumn :=
  if p.line = r.line then ⟨p.line, p.column + (r.column - 1)⟩ else p

/-- The span in a region of a span in its content. -/
def Span.placed (r : Region) (s : Span) : Span :=
  ⟨s.start + r.index, s.stop + r.index, s.startPos.placed r, s.stopPos.placed r⟩

/-- The position in `q` of a position in `r`, which has the same content. -/
def LineColumn.carried (r q : Region) (p : LineColumn) : LineColumn :=
  if p.line = r.line then ⟨q.line, p.column - r.column + q.column⟩
  else ⟨p.line - r.line + q.line, p.column⟩

/-- The span in `q` of a span in `r`, which has the same content. -/
def Span.carried (r q : Region) (s : Span) : Span :=
  ⟨s.start - r.index + q.index, s.stop - r.index + q.index, s.startPos.carried r q,
    s.stopPos.carried r q⟩

section Marks

variable {m : Mark} (hm : m.CountsFirstRow) (text : List Char) {r q : Region}
include hm

/-- **Relocation places a script**: columns on the first line are moved by the padding, less the one
column that it is too long by. -/
theorem LineColumn.relocate_pad (hr : 1 ≤ r.column) :
    ((ColumnIndex.ofList ((Text.spaces r.column).toList ++ text)).lineColumn (m.pad r.column)
        r.line).relocate r.line =
      ((ColumnIndex.ofList text).lineColumn m r.line).placed r := by
  rw [ColumnIndex.lineColumn_pad hm]
  obtain ⟨c, hc⟩ : ∃ c, (ColumnIndex.ofList text).lineColumn m r.line = ⟨r.line + m.row, c + 1⟩ :=
    ⟨_, rfl⟩
  by_cases hrow : m.row = 0
  · simp only [hc, hrow, relocate, placed, Nat.add_zero, ↓reduceIte, LineColumn.mk.injEq, true_and]
    omega
  · have hline : r.line + m.row ≠ r.line := by omega
    simp only [hc, hrow, relocate, placed, hline, Nat.add_zero, ↓reduceIte]

theorem LineColumn.relocate_pad_carried (hr : 1 ≤ r.column) (hq : 1 ≤ q.column) :
    ((ColumnIndex.ofList ((Text.spaces q.column).toList ++ text)).lineColumn (m.pad q.column)
        q.line).relocate q.line =
      (((ColumnIndex.ofList text).lineColumn m r.line).placed r).carried r q := by
  rw [relocate_pad hm text hq]
  obtain ⟨c, hc⟩ : ∃ c, ∀ line, (ColumnIndex.ofList text).lineColumn m line =
      ⟨line + m.row, c + 1⟩ := ⟨_, fun _ => rfl⟩
  by_cases hrow : m.row = 0
  · simp only [hc, hrow, placed, carried, Nat.add_zero, ↓reduceIte, LineColumn.mk.injEq, true_and]
    omega
  · have hline : ∀ line, line + m.row ≠ line := fun line => by omega
    simp only [hc, placed, carried, hline, ↓reduceIte, LineColumn.mk.injEq, and_true]
    omega

end Marks

/-! ## Grammars -/

/-- The tree has a node with a flaw, and so its text does not fit the grammar. -/
def Tree.Flawed (root : Tree) : Prop := ∃ t ∈ root.nodes, t.label.flaw ≠ none

namespace Script

theorem Source.span_ofString (s : String) (line : Nat) (t : Tree) :
    (Source.ofString s line).span t =
      ⟨t.start.offset, t.stop.offset, (ColumnIndex.ofList s.toList).lineColumn t.start line,
        (ColumnIndex.ofList s.toList).lineColumn t.stop line⟩ := rfl

theorem toOption_readTree_of_flawed {text : String} {root : Tree} (h : root.Flawed)
    (options : ParseOptions) : (readTree text options root).toOption = none := by
  obtain ⟨t, ht, hflaw⟩ := h
  cases hr : readTree text options root with
  | error e => rfl
  | ok tree => exact absurd (flaw_eq_none_of_readTree hr ht) hflaw

/-- What is relied on of a grammar at the text `s`. -/
structure IgnoresPadding (grammar : List Char → Tree) (s : String) : Prop where
  /-- Spaces before the text move its tree. Where the text does not fit the grammar, no more is asked
  than that it does not fit behind spaces either. -/
  tree : ∀ k, grammar (Text.spaces k ++ s).toList = (grammar s.toList).pad k ∨
    (grammar s.toList).Flawed ∧ (grammar (Text.spaces k ++ s).toList).Flawed
  /-- Columns are counted from the beginning of the row. -/
  firstRow : ∀ t ∈ (grammar s.toList).nodes, t.start.CountsFirstRow ∧ t.stop.CountsFirstRow

variable {grammar : List Char → Tree} {s : String} (hg : IgnoresPadding grammar s)
include hg

/-- **A text behind spaces is parsed alike**: it is accepted if and only if it is without them, and its
tree differs in its spans only. -/
theorem parserOf_pad {k line line' : Nat} {f g : Span → Span} (mode : SourceMode)
    (h : ∀ t ∈ (grammar s.toList).nodes, SpanMatches s k line line' f g t) :
    (parserOf grammar (Text.spaces k ++ s) ⟨mode, line'⟩).toOption.map (·.mapSpans f) =
      (parserOf grammar s ⟨mode, line⟩).toOption.map (·.mapSpans g) := by
  unfold parserOf
  rcases hg.tree k with hpad | ⟨hflaw, hflaw'⟩
  · rw [hpad]
    exact readTree_pad h mode
  · rw [toOption_readTree_of_flawed hflaw, toOption_readTree_of_flawed hflaw']
    rfl

end Script

/-! ## Regions -/

theorem tree?_parseRegion (parser : ScriptParser) (mode : SourceMode) {r : Region}
    (h : Text.isBlankText r.source = false) :
    (parseRegion parser mode r).tree? =
      (parser r.source ⟨mode, r.line⟩).toOption.map
        (·.mapSpans (Span.relocate r.index r.column r.line)) := by
  unfold parseRegion
  rw [h]
  cases parser r.source ⟨mode, r.line⟩ with
  | ok tree => exact congrArg some (tree.relocate_eq_mapSpans r.index r.column r.line)
  | error e => rfl

section Regions

variable {grammar : List Char → Tree} {s : String} (hs : Text.isBlankText s = false)
  (hg : Script.IgnoresPadding grammar s) (mode : SourceMode) {r q : Region}
include hs hg

/-- The tree of a region from that of its content, for any way `g` to place the spans of the latter. -/
theorem tree?_parseRegion_pad (hsource : r.source = Text.spaces r.column ++ s) {line : Nat}
    {g : Span → Span} (h : ∀ t ∈ (grammar s.toList).nodes,
      Script.SpanMatches s r.column line r.line (Span.relocate r.index r.column r.line) g t) :
    (parseRegion (Script.parserOf grammar) mode r).tree? =
      (Script.parserOf grammar s ⟨mode, line⟩).toOption.map (·.mapSpans g) := by
  have hblank : Text.isBlankText r.source = false := by
    rw [hsource, Text.isBlankText_spaces, hs]
  rw [tree?_parseRegion _ mode hblank, hsource]
  exact Script.parserOf_pad hg mode h

theorem tree?_parseRegion_placed (hr : 1 ≤ r.column)
    (hsource : r.source = Text.spaces r.column ++ s) :
    (parseRegion (Script.parserOf grammar) mode r).tree? =
      (Script.parserOf grammar s ⟨mode, r.line⟩).toOption.map (·.mapSpans (Span.placed r)) := by
  refine tree?_parseRegion_pad hs hg mode hsource fun t ht => ?_
  obtain ⟨hstart, hstop⟩ := hg.firstRow t ht
  have hpos := LineColumn.relocate_pad hstart s.toList hr
  have hpos' := LineColumn.relocate_pad hstop s.toList hr
  simp [Script.SpanMatches, Script.Source.span_ofString, Span.relocate, Span.placed, hpos, hpos']

theorem tree?_parseRegion_carried (hr : 1 ≤ r.column)
    (hsource : r.source = Text.spaces r.column ++ s) (hq : 1 ≤ q.column)
    (hsource' : q.source = Text.spaces q.column ++ s) :
    (parseRegion (Script.parserOf grammar) mode q).tree? =
      (parseRegion (Script.parserOf grammar) mode r).tree?.map (·.mapSpans (Span.carried r q)) := by
  rw [tree?_parseRegion_placed hs hg mode hr hsource, Option.map_map]
  simp only [Function.comp_def, ParseTree.mapSpans_mapSpans]
  refine tree?_parseRegion_pad hs hg mode hsource' fun t ht => ?_
  obtain ⟨hstart, hstop⟩ := hg.firstRow t ht
  have hpos := LineColumn.relocate_pad_carried hstart s.toList hr hq
  have hpos' := LineColumn.relocate_pad_carried hstop s.toList hr hq
  simp [Script.SpanMatches, Script.Source.span_ofString, Span.relocate, Span.placed, Span.carried,
    hpos, hpos']

end Regions

/-- **Padding affects positions only.** A region with a script behind as many spaces as its column says
is accepted if and only if the script is on its own, and has its tree with the spans placed in the
region. So the regions of a document with the same script are accepted or rejected alike, and their
trees are each other's with the spans carried over. -/
theorem parseRegion_padded {grammar : List Char → Tree} {s : String}
    (hs : Text.isBlankText s = false) (hg : Script.IgnoresPadding grammar s) (mode : SourceMode) :
    (∀ r : Region, 1 ≤ r.column → r.source = Text.spaces r.column ++ s →
      (parseRegion (Script.parserOf grammar) mode r).tree? =
        (Script.parserOf grammar s ⟨mode, r.line⟩).toOption.map (·.mapSpans (Span.placed r))) ∧
    ∀ (config : Config) (reader : Markup.TagReader) (document : String),
      ∀ r ∈ scan config reader document, ∀ q ∈ scan config reader document,
        r.content = s → q.content = s →
        (parseRegion (Script.parserOf grammar) mode q).tree? =
          (parseRegion (Script.parserOf grammar) mode r).tree?.map
            (·.mapSpans (Span.carried r q)) := by
  refine ⟨fun r hr hsource => tree?_parseRegion_placed hs hg mode hr hsource, ?_⟩
  intro config reader document r hr q hq hrs hqs
  have hf := scan_faithful hr
  have hf' := scan_faithful hq
  have hsource := hf.source
  have hsource' := hf'.source
  rw [hrs] at hsource
  rw [hqs] at hsource'
  exact tree?_parseRegion_carried hs hg mode hf.column_pos hsource hf'.column_pos hsource'

/-! ## The grammar of two names -/

theorem Mark.advanceAll_spaces (k : Nat) (text : List Char) :
    Mark.zero.advanceAll (List.replicate k ' ' ++ text) = (Mark.zero.advanceAll text).pad k := by
  induction text using List.reverseRecOn with
  | nil =>
    rw [List.append_nil]
    induction k with
    | zero => rfl
    | succ k ih =>
      rw [List.replicate_succ', advanceAll_append, ih]
      rfl
  | append_singleton text c ih =>
    rw [← List.append_assoc, advanceAll_append, ih, advanceAll_append]
    simp only [advanceAll_cons, advanceAll_nil, advance, pad]
    grind

theorem Mark.countsFirstRow_advanceAll (text : List Char) :
    (Mark.zero.advanceAll text).CountsFirstRow := by
  rw [advanceAll_zero]
  intro hrow
  rw [Text.lastLine_of_notMem (List.count_eq_zero.1 hrow)]

theorem Script.twoNames_ignoresPadding (s : String) : IgnoresPadding twoNames s := by
  constructor
  · intro k
    left
    have hspaces : ((Text.spaces k ++ s).toList.takeWhile (· == ' ')).length =
        (s.toList.takeWhile (· == ' ')).length + k := by
      simp [Text.toList_spaces, Nat.add_comm]
    have hmark : ∀ i, Mark.zero.advanceAll ((Text.spaces k ++ s).toList.take (i + k)) =
        (Mark.zero.advanceAll (s.toList.take i)).pad k := by
      intro i
      rw [← Mark.advanceAll_spaces, String.toList_append, Text.toList_spaces, List.take_append]
      simp
    have hend : Mark.zero.advanceAll (Text.spaces k ++ s).toList =
        (Mark.zero.advanceAll s.toList).pad k := by
      rw [← Mark.advanceAll_spaces, String.toList_append, Text.toList_spaces]
    simp only [twoNames, Tree.pad, Tree.padAll, hspaces, Nat.add_right_comm _ k, hmark, hend]
  · intro t ht
    simp only [twoNames, Tree.nodes_eq, Tree.children, List.flatMap_cons, List.flatMap_nil,
      List.append_nil, List.cons_append, List.nil_append, List.mem_cons, List.not_mem_nil,
      or_false] at ht
    rcases ht with rfl | rfl | rfl | rfl | rfl | rfl | rfl
    all_goals exact ⟨Mark.countsFirstRow_advanceAll _, Mark.countsFirstRow_advanceAll _⟩

theorem parseRegion_padded_twoNames :
    let s := "ü;\nb;"
    let document := "<script>ü;\nb;</script>\né<script>ü;\nb;</script>"
    let tree (r : Region) := (parseRegion (Script.parserOf Script.twoNames) .script r).tree?
    let r : Region := ⟨8, 6, 1, 9, "         ü;\nb;"⟩
    let q : Region := ⟨34, 6, 3, 10, "          ü;\nb;"⟩
    scan {} (fun _ => none) document = [r, q] ∧
      (tree r).map (·.tokens.toList.map fun k => (k.value, k.span.start, k.span.startPos)) =
        some [("ü", 8, ⟨1, 9⟩), (";", 10, ⟨1, 10⟩), ("b", 12, ⟨2, 1⟩), (";", 13, ⟨2, 2⟩)] ∧
      (tree q).map (·.tokens.toList.map fun k => (k.value, k.span.start, k.span.startPos)) =
        some [("ü", 34, ⟨3, 10⟩), (";", 36, ⟨3, 11⟩), ("b", 38, ⟨4, 1⟩), (";", 39, ⟨4, 2⟩)] ∧
      tree r = (Script.parserOf Script.twoNames s ⟨.script, 1⟩).toOption.map
        (·.mapSpans (Span.placed r)) ∧
      tree q = (tree r).map (·.mapSpans (Span.carried r q)) := by
  intro s document tree r q
  have hscan : scan {} (fun _ => none) document = [r, q] := by decide +kernel
  have hs : Text.isBlankText s = false := by decide +kernel
  obtain ⟨hplaced, hcarried⟩ :=
    parseRegion_padded hs (Script.twoNames_ignoresPadding s) .script
  refine ⟨hscan, by decide +kernel, by decide +kernel, ?_, ?_⟩
  · exact hplaced r (by decide) (by decide +kernel)
  · exact hcarried {} (fun _ => none) document r (by simp [hscan]) q (by simp [hscan])
      (by decide +kernel) (by decide +kernel)

end EmbeddedScripts
