import EmbeddedScripts.Proofs.Lines
import EmbeddedScripts.Proofs.Slices
import Mathlib.Order.Bounds.Defs

/-!
# Positions of all offsets

A tracker may be asked for offsets in any order, past the end of the document and inside of
characters.

* `Text.IsFloor`: the place that stands for an offset, which is the last one between two characters
  that is not behind the offset; `exists_floor`: the position of an offset is the count over the text
  before that place.
* `column_foldl`: the column of a count is that of the characters since the last line separator.
* `positions_eq`: whatever a tracker was asked for before, it answers as a new one, with the line ends
  and the last line of the text before the offset.
-/

namespace EmbeddedScripts

/-! ## Between characters -/

namespace Text

/-- The last place between two characters of the document that is not behind the offset. -/
def IsFloor (document : String) (offset floor : Nat) : Prop :=
  IsGreatest {b | IsBoundary document b ∧ b ≤ min offset (byteLength document.toList)} floor

theorem isFloor_of_append {document : String} {before after : List Char} {offset : Nat}
    (hd : document.toList = before ++ after) (hle : byteLength before ≤ offset)
    (hnext : ∀ c cs, after = c :: cs → offset < byteLength before + c.utf8Size) :
    IsFloor document offset (byteLength before) := by
  have hlength : byteLength before ≤ byteLength document.toList := by
    rw [hd, byteLength_append]
    omega
  refine ⟨⟨⟨before, after, hd, rfl⟩, Nat.le_min.2 ⟨hle, hlength⟩⟩, ?_⟩
  rintro b ⟨⟨p, q, hpq, rfl⟩, hb⟩
  by_contra hlt
  -- a longer beginning has the next character, too, and with that it is behind the offset
  obtain ⟨m, rfl, hm⟩ := append_split (hd.symm.trans hpq) (Nat.le_of_not_le hlt)
  cases m with
  | nil => simp at hlt
  | cons c m =>
    have hc := hnext c (m ++ q) hm
    rw [byteLength_append, byteLength_cons] at hb
    omega

end Text

namespace Position

/-! ## Columns -/

/-- What follows the last line separator of a text. -/
def openLine (text : List Char) : List Char := text.rtakeWhile fun c => !isLineSeparator c

theorem openLine_concat (text : List Char) (c : Char) :
    openLine (text ++ [c]) = if isLineSeparator c then [] else openLine text ++ [c] := by
  unfold openLine
  split
  · rename_i hc
    exact List.rtakeWhile_concat_neg _ _ _ (by simp [hc])
  · rename_i hc
    exact List.rtakeWhile_concat_pos _ _ _ (by simp [hc])

/-- Right after a carriage return the line is empty. -/
theorem openLine_of_afterReturn {text : List Char}
    (h : (text.foldl Count.step {}).afterReturn = true) : openLine text = [] := by
  cases text using List.reverseRecOn with
  | nil => rfl
  | append_singleton text c =>
    have hc : c = '\r' := by
      by_contra hne
      rw [afterReturn_foldl_concat hne] at h
      cases h
    rw [openLine_concat, hc]
    rfl

/-- **The column** is one more than the characters since the last line separator. -/
theorem column_foldl (text : List Char) :
    (text.foldl Count.step {}).column = 1 + (openLine text).length := by
  induction text using List.reverseRecOn with
  | nil => rfl
  | append_singleton text c ih =>
    rw [List.foldl_append, List.foldl_cons, List.foldl_nil, openLine_concat, Count.step]
    split
    · -- the second half of a line end: the line was empty before, and still is
      rename_i hc
      rw [Bool.and_eq_true, beq_iff_eq] at hc
      have hempty : (text.foldl Count.step {}).column = 1 := by
        rw [ih, openLine_of_afterReturn hc.2]
        rfl
      rw [hempty, hc.1]
      rfl
    · split
      · rfl
      · rw [List.length_append, List.length_singleton]
        show Count.column _ + 1 = _
        rw [ih]
        omega

/-! ## Trackers -/

namespace Tracker

theorem read_stops (document : List Char) {target offset : Nat} (n : Count) (rest : List Char)
    (h : offset ≤ target) :
    (read document target offset n rest).offset ≤ target ∧
      ∀ c cs, (read document target offset n rest).rest = c :: cs →
        target < (read document target offset n rest).offset + c.utf8Size := by
  induction rest generalizing offset n with
  | nil => exact ⟨h, fun c cs hrest => by cases hrest⟩
  | cons d ds ih =>
    rw [read]
    split
    · rename_i hle
      exact ih (n.step d) hle
    · rename_i hlt
      refine ⟨h, fun c cs hrest => ?_⟩
      cases hrest
      exact Nat.lt_of_not_le hlt

/-- **A tracker answers each offset as a new one does**, in whatever order they come. -/
theorem positions_eq_map {t : Tracker} (h : t.Reached) (offsets : List Nat) :
    t.positions offsets = offsets.map (lineColumn t.document) := by
  induction offsets generalizing t with
  | nil => rfl
  | cons offset offsets ih =>
    obtain ⟨hreached, hdocument⟩ := reached_advanceTo h offset
    rw [positions, List.map_cons, position_advanceTo h, ih hreached, hdocument]

end Tracker

end Position

open Position

/-- The position of an offset is the count over the text before its floor. -/
theorem exists_floor (document : String) (offset : Nat) :
    ∃ before after, document.toList = before ++ after ∧
      Text.IsFloor document offset (Text.byteLength before) ∧
      lineColumn document.toList offset = (before.foldl Count.step {}).position := by
  have hnew := Tracker.reached_ofList document.toList
  obtain ⟨⟨before, hd, ho, hn⟩, hdocument⟩ := Tracker.reached_advanceTo hnew offset
  obtain ⟨hle, hnext⟩ := Tracker.read_stops document.toList {} document.toList (Nat.zero_le offset)
  have hread : (Tracker.ofList document.toList).advanceTo offset =
      Tracker.read document.toList offset 0 {} document.toList := by
    simp [Tracker.advanceTo, Tracker.ofList]
  rw [← hread] at hle hnext
  rw [ho] at hle hnext
  rw [hdocument] at hd
  refine ⟨before, _, hd, Text.isFloor_of_append hd hle hnext, ?_⟩
  rw [lineColumn, Tracker.position, hn]

/-- **The positions of any offsets in any order.** One tracker answers each offset as a new one does.
The line counts the line ends of the text before the offset, and the column the characters since the
last of them, both from one. An offset past the end of the document or inside of a character stands
for the last place between two characters that is not behind it. -/
theorem positions_eq (document : String) (offsets : List Nat) :
    (Tracker.ofList document.toList).positions offsets =
        offsets.map (lineColumn document.toList) ∧
      ∀ offset, ∃ before after, document.toList = before ++ after ∧
        Text.IsFloor document offset (Text.byteLength before) ∧
        lineColumn document.toList offset =
          ⟨1 + lineEnds before, 1 + (openLine before).length⟩ := by
  refine ⟨Tracker.positions_eq_map (Tracker.reached_ofList _) offsets, fun offset => ?_⟩
  obtain ⟨before, after, hd, hfloor, hposition⟩ := exists_floor document offset
  refine ⟨before, after, hd, hfloor, ?_⟩
  rw [hposition, Count.position, line_foldl rfl, column_foldl]

-- inside of the last character, between the halves of a line end, after it, and past the end
example : (Tracker.ofList "a\r\né".toList).positions [4, 2, 3, 9] =
    [⟨2, 1⟩, ⟨2, 1⟩, ⟨2, 1⟩, ⟨2, 2⟩] := by decide

end EmbeddedScripts
