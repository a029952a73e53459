import EmbeddedScripts.Proofs.Columns
import EmbeddedScripts.Proofs.PositionOrder

/-!
# Columns count characters

A `ColumnIndex` turns a column in bytes into one in characters with two lookups, one at the place and
one at the beginning of its line.

* `exists_floor_surplus`: the surplus before any offset is that of the text before its floor.
* `surplusBefore_mono`: so later offsets have no smaller surplus, and the second lookup can always be
  taken from the first.
* `lineColumn_counts`: between characters the position is the line feeds and the characters counted.
-/

namespace EmbeddedScripts

/-- The position after a text that begins a line. -/
theorem LineColumn.after_start (line : Nat) (text : List Char) :
    (⟨line, 1⟩ : LineColumn).after text =
      ⟨line + text.count '\n', 1 + (Text.lastLine text).length⟩ := by
  unfold after
  split
  · rfl
  · rename_i hm
    rw [Text.lastLine_of_notMem hm]

namespace ColumnIndex

theorem exists_floor_surplus (source : String) (offset : Nat) :
    ∃ before after, source.toList = before ++ after ∧
      Text.IsFloor source offset (Text.byteLength before) ∧
      (ofList source.toList).surplusBefore offset = Text.surplus before := by
  obtain ⟨before, after, hs, hle, hnext⟩ := Text.exists_append_at source.toList offset
  refine ⟨before, after, hs, Text.isFloor_of_append hs hle hnext, ?_⟩
  rw [hs]
  exact surplusBefore_ofList hle hnext

/-- **A later offset has no smaller surplus**, wherever both of them are. -/
theorem surplusBefore_mono (source : String) {a b : Nat} (h : a ≤ b) :
    (ofList source.toList).surplusBefore a ≤ (ofList source.toList).surplusBefore b := by
  obtain ⟨before, rest, hs, hfloor, hsurplus⟩ := exists_floor_surplus source a
  obtain ⟨longer, after, hs', hfloor', hsurplus'⟩ := exists_floor_surplus source b
  obtain ⟨more, rfl, -⟩ := Text.append_split (hs.symm.trans hs') (hfloor.le hfloor' h)
  rw [hsurplus, hsurplus', Text.surplus_append]
  exact Nat.le_add_right _ _

/-- **Columns are found in characters.** The surplus before the beginning of a line is never more than
the surplus before a place on it, whatever mark is asked for. The mark that has the bytes of the text
before it, the line feeds of that text and the bytes since the last of them is on the line that the
line feeds give, in the column that the characters since the last of them give. -/
theorem lineColumn_counts (source : String) :
    (∀ m : Mark, (ofList source.toList).surplusBefore (m.offset - m.column) ≤
        (ofList source.toList).surplusBefore m.offset) ∧
      ∀ (startLine : Nat) (before after : List Char), source.toList = before ++ after →
        (ofList source.toList).lineColumn
            ⟨Text.byteLength before, before.count '\n', Text.byteLength (Text.lastLine before)⟩
            startLine =
          ⟨startLine + before.count '\n', 1 + (Text.lastLine before).length⟩ := by
  refine ⟨fun m => surplusBefore_mono source (Nat.sub_le m.offset m.column), ?_⟩
  intro startLine before after hs
  rw [hs, ← Mark.advanceAll_zero, lineColumn_advanceAll, LineColumn.after_start]

/-- At the quote on the second line of a text with wide characters on both lines. -/
theorem lineColumn_counts_secondLine :
    let source := "é = 1;\nvar ü = 'ß';"
    let before := "é = 1;\nvar ü = ".toList
    (source.toList = before ++ "'ß';".toList ∧
        (⟨17, 1, 9⟩ : Mark) = ⟨Text.byteLength before, before.count '\n',
          Text.byteLength (Text.lastLine before)⟩) ∧
      (ofList source.toList).surplusBefore (17 - 9) ≤ (ofList source.toList).surplusBefore 17 ∧
      (ofList source.toList).lineColumn ⟨17, 1, 9⟩ 3 = ⟨4, 9⟩ := by
  intro source before
  have hs : source.toList = before ++ "'ß';".toList := by decide
  obtain ⟨hmono, hcounts⟩ := lineColumn_counts source
  exact ⟨⟨hs, by decide⟩, hmono ⟨17, 1, 9⟩, hcounts 3 before "'ß';".toList hs⟩

end ColumnIndex

end EmbeddedScripts
