import EmbeddedScripts.Proofs.Positions

/-!
# Positions of rejections

A region is rejected at the position of the first node that breaks a rule. That position is the one in
the padded source of the region: unlike the positions of a parse tree it is not relocated.

* `firstViolation?_flaw`: a node that is rejected for a rule of scripts is one of the tree, without
  flaw.
* `parseRegion_rejection_iff`: relocation would give the position of the node in the document, and the
  position given is that one if and only if the node is not on the line where the region begins; there
  it is one column too great.
-/

namespace EmbeddedScripts

namespace Script

/-- The violation of a rule of scripts, as opposed to a flaw of the tree. -/
def Violation.IsRule (v : Violation) : Prop := v ≠ .unexpected ∧ ∀ kind, v ≠ .missing kind

theorem flaw_eq_none_of_violation? {mode : SourceMode} {source : String} {c : Context} {t : Tree}
    {v : Violation} (h : violation? mode source c t = some v) (hv : v.IsRule) :
    t.label.flaw = none := by
  unfold violation? at h
  split at h
  · cases h
    exact absurd rfl hv.1
  · cases h
    exact absurd rfl (hv.2 _)
  · assumption

theorem firstViolation?_flaw {mode : SourceMode} {source : String} {root t : Tree} {v : Violation}
    (h : firstViolation? mode source [(root, .top mode)] = some (t, v)) (hv : v.IsRule) :
    t ∈ root.nodes ∧ t.label.flaw = none := by
  rw [firstViolation?_root] at h
  obtain ⟨o, ho, hviolation⟩ := List.exists_of_findSome?_eq_some h
  obtain ⟨w, hw, he⟩ := Option.map_eq_some_iff.1 hviolation
  obtain ⟨rfl, rfl⟩ := Prod.mk.inj he
  exact ⟨List.mem_map_of_mem ho, flaw_eq_none_of_violation? hw hv⟩

end Script

/-- A rejected region: the first violation in its tree, at its place in the padded source. -/
theorem firstViolation?_of_rejected {grammar : List Char → Tree} {mode : SourceMode} {r : Region}
    {v : Script.Violation} {pos : LineColumn}
    (h : parseRegion (Script.parserOf grammar) mode r = .absent (.invalid (.rejected v pos))) :
    ∃ t, Script.firstViolation? mode r.source [(grammar r.source.toList, .top mode)] = some (t, v) ∧
      pos = (ColumnIndex.ofList r.source.toList).lineColumn t.start r.line := by
  obtain ⟨-, he⟩ := parseRegion_eq_invalid_iff.1 h
  unfold Script.parserOf Script.readTree at he
  dsimp only at he
  split at he
  · rename_i t w ht
    cases he
    exact ⟨t, ht, rfl⟩
  · cases he

/-- **Where a region is rejected.** If it is rejected for a rule of scripts, it is for the first node
that breaks one. In a region without line separators but line feeds, the position of that node in the
document is what relocation would make of the position given. The two are the same if and only if a
line feed is between the beginning of the region and the node; otherwise the column is one too great. -/
theorem parseRegion_rejection_iff (config : Config) (reader : Markup.TagReader)
    {grammar : List Char → Tree} {document : String} {r : Region}
    (hr : r ∈ scan config reader document)
    (hsep : ∀ c ∈ r.content.toList, Position.isLineSeparator c = true → c = '\n')
    (hg : (grammar r.source.toList).CountsPlaces r.source r.column) {mode : SourceMode}
    {v : Script.Violation} {pos : LineColumn}
    (he : parseRegion (Script.parserOf grammar) mode r = .absent (.invalid (.rejected v pos)))
    (hv : v.IsRule) :
    ∃ before above t after text,
      (grammar r.source.toList).occurrences [] = before ++ (above, t) :: after ∧
      (∀ o ∈ before, ∀ w, ¬ Script.Breaks mode r.source o.1 o.2 w) ∧
      Script.Breaks mode r.source above t v ∧
      Text.Holds document r.index (r.index + t.start.offset - r.column) text ∧
      let place := lineColumn document.toList (r.index + t.start.offset - r.column)
      pos.relocate r.line = place ∧ (pos = place ↔ '\n' ∈ text.toList) ∧
        ('\n' ∉ text.toList → pos = ⟨place.line, place.column + 1⟩) := by
  obtain ⟨t, ht, hpos⟩ := firstViolation?_of_rejected he
  obtain ⟨before, above, after, hocc, hbefore, hbreaks⟩ := Script.firstViolation?_eq_some ht
  obtain ⟨hmem, hflaw⟩ := Script.firstViolation?_flaw ht hv
  have hf := scan_faithful hr
  have hcounts := (hg t hmem hflaw).1
  have hoffset : t.start.offset - r.column + r.index = r.index + t.start.offset - r.column := by
    have := hcounts.1
    omega
  obtain ⟨text, htext, hbegins, hplace⟩ := hf.exists_text hcounts
  rw [hoffset] at htext
  have hfeeds : Position.FeedEnded text.toList :=
    .of_forall fun c hc => hsep c (hbegins.subset hc)
  rw [hplace] at hpos
  have hdocument := (hf.after_eq_lineColumn_iff htext).2 hfeeds
  refine ⟨before, above, t, after, text, hocc, hbefore, hbreaks, htext, ?_⟩
  rw [← hdocument, hpos]
  refine ⟨LineColumn.relocate_after hf.column_pos _, LineColumn.after_succ_eq_iff, fun hn => ?_⟩
  rw [LineColumn.after_of_notMem hn, LineColumn.after_of_notMem hn]
  show LineColumn.mk _ _ = LineColumn.mk _ _
  rw [Nat.add_right_comm]

/-- The tree of the statement `return;`, after any blanks. -/
def Script.bareReturn (text : List Char) : Tree :=
  let mark (k : Nat) : Mark := Mark.zero.advanceAll (text.take k)
  let i := (text.takeWhile Text.isBlank).length
  .node { kind := "program" } (mark i) (Mark.zero.advanceAll text)
    [.node { kind := "return_statement" } (mark i) (mark (i + 7))
      [.node { kind := "return", named := false } (mark i) (mark (i + 6)) [],
        .node { kind := ";", named := false } (mark (i + 6)) (mark (i + 7)) []]]

/-- On its second line a region is rejected at the right place. -/
theorem parseRegion_rejection_bareReturn :
    let document := "é\r<script>\nreturn;</script>"
    let r : Region := ⟨11, 8, 2, 9, "         \nreturn;"⟩
    r ∈ scan {} (fun _ => none) document ∧
      (∀ c ∈ r.content.toList, Position.isLineSeparator c = true → c = '\n') ∧
      (Script.bareReturn r.source.toList).CountsPlaces r.source r.column ∧
      parseRegion (Script.parserOf Script.bareReturn) .script r =
        .absent (.invalid (.rejected .strayReturn ⟨3, 1⟩)) ∧
      lineColumn document.toList 12 = ⟨3, 1⟩ ∧
      ∃ before above t after text,
        (Script.bareReturn r.source.toList).occurrences [] = before ++ (above, t) :: after ∧
        (∀ o ∈ before, ∀ w, ¬ Script.Breaks .script r.source o.1 o.2 w) ∧
        Script.Breaks .script r.source above t .strayReturn ∧
        Text.Holds document r.index (r.index + t.start.offset - r.column) text ∧
        let place := lineColumn document.toList (r.index + t.start.offset - r.column)
        LineColumn.relocate r.line ⟨3, 1⟩ = place ∧ (⟨3, 1⟩ = place ↔ '\n' ∈ text.toList) ∧
          ('\n' ∉ text.toList → ⟨3, 1⟩ = LineColumn.mk place.line (place.column + 1)) := by
  intro document r
  have hr : r ∈ scan {} (fun _ => none) document := by decide +kernel
  have hcontent : r.content.toList = "\nreturn;".toList := by decide +kernel
  have hsep : ∀ c ∈ r.content.toList, Position.isLineSeparator c = true → c = '\n' := by
    simp [hcontent, Position.isLineSeparator]
  have hg : (Script.bareReturn r.source.toList).CountsPlaces r.source r.column := by
    decide +kernel
  have he : parseRegion (Script.parserOf Script.bareReturn) .script r =
      .absent (.invalid (.rejected .strayReturn ⟨3, 1⟩)) := by decide +kernel
  exact ⟨hr, hsep, hg, he, by decide +kernel,
    parseRegion_rejection_iff {} (fun _ => none) hr hsep hg he ⟨by decide, by simp⟩⟩

/-- On its first line a region is rejected one column behind the node. -/
theorem parseRegion_rejection_on_first_line :
    let document := "<script>return 1;</script>"
    let r : Region := ⟨8, 9, 1, 9, "         return 1;"⟩
    let e : ParseError := .rejected .strayReturn ⟨1, 10⟩
    scan {} Markup.readAttributes document = [r] ∧
      parseRegion Script.parse .script r = .absent (.invalid e) ∧
      e.message = "Syntax error: 'return' outside of function at 1:10" ∧
      (∃ t ∈ (Script.syntaxTree r.source.toList).nodes,
        t.kind = "return_statement" ∧ t.start.offset = 9) ∧
      lineColumn document.toList (r.index + 9 - r.column) = ⟨1, 9⟩ := by
  decide +kernel

end EmbeddedScripts
