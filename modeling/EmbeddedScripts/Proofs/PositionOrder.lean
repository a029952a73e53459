import EmbeddedScripts.Proofs.Offsets
import Mathlib.Data.Prod.Lex

/-!
# Positions go up with offsets

Positions are ordered by their lines, and those on one line by their columns.

* `Count.position_lt_step`: each character moves a count up, but for a line feed right after a carriage
  return, which leaves its position alone (`Count.position_step_of_afterReturn`).
* `position_foldl_eq_self_iff`: so a text leaves the position of a count alone if and only if it is
  empty or such a line feed.
* `lineColumn_le_and_eq_iff`: later offsets have no smaller positions, and two offsets have the same
  position if and only if they stand for the same place or for the two sides of such a line feed.
-/

namespace EmbeddedScripts

/-! ## The order of positions -/

namespace LineColumn

/-- The line and the column, in the order in which they count. -/
def key (p : LineColumn) : ℕ ×ₗ ℕ := toLex (p.line, p.column)

theorem key_injective : Function.Injective key := by
  intro p q h
  cases p
  cases q
  simpa [key] using h

instance : LinearOrder LineColumn := LinearOrder.lift' key key_injective

theorem lt_iff {p q : LineColumn} :
    p < q ↔ p.line < q.line ∨ p.line = q.line ∧ p.column < q.column :=
  Prod.Lex.toLex_lt_toLex

end LineColumn

namespace Text

/-- The offsets are the two sides of a line feed that comes right after a carriage return. -/
def SplitByReturn (document : String) (a b : Nat) : Prop :=
  ∃ before after, document.toList = before ++ '\r' :: '\n' :: after ∧
    byteLength (before ++ ['\r']) = a ∧ byteLength (before ++ ['\r', '\n']) = b

/-- Later offsets do not stand for earlier places. -/
theorem IsFloor.le {document : String} {a b p q : Nat} (hp : IsFloor document a p)
    (hq : IsFloor document b q) (h : a ≤ b) : p ≤ q := by
  obtain ⟨⟨hboundary, hle⟩, -⟩ := hp
  refine hq.2 ⟨hboundary, ?_⟩
  omega

end Text

namespace Position

/-! ## Counts -/

namespace Count

/-- A line feed right after a carriage return leaves the position alone. -/
theorem position_step_of_afterReturn {n : Count} (h : n.afterReturn = true) :
    (n.step '\n').position = n.position ∧ (n.step '\n').afterReturn = false := by
  simp [step, h, position]

/-- **Every other character moves the position up.** -/
theorem position_lt_step {n : Count} {c : Char} (h : ¬ (c = '\n' ∧ n.afterReturn = true)) :
    n.position < (n.step c).position := by
  have hfeed : ¬ (c == '\n' && n.afterReturn) = true := by
    simpa using h
  rw [LineColumn.lt_iff]
  unfold step
  rw [if_neg hfeed]
  split
  · exact .inl (Nat.lt_succ_self _)
  · exact .inr ⟨rfl, Nat.lt_succ_self _⟩

theorem position_le_step (n : Count) (c : Char) : n.position ≤ (n.step c).position := by
  by_cases h : c = '\n' ∧ n.afterReturn = true
  · obtain ⟨rfl, hafter⟩ := h
    exact le_of_eq (position_step_of_afterReturn hafter).1.symm
  · exact le_of_lt (position_lt_step h)

end Count

theorem position_le_foldl (n : Count) (text : List Char) :
    n.position ≤ (text.foldl Count.step n).position := by
  induction text generalizing n with
  | nil => exact le_refl _
  | cons c cs ih => exact le_trans (n.position_le_step c) (ih (n.step c))

theorem position_lt_foldl {n : Count} {c : Char} (h : ¬ (c = '\n' ∧ n.afterReturn = true))
    (cs : List Char) : n.position < ((c :: cs).foldl Count.step n).position :=
  lt_of_lt_of_le (Count.position_lt_step h) (position_le_foldl (n.step c) cs)

/-- **A text leaves a position alone** if and only if it is empty, or a line feed that a carriage
return comes right before. -/
theorem position_foldl_eq_self_iff {n : Count} {text : List Char} :
    n.position = (text.foldl Count.step n).position ↔
      text = [] ∨ text = ['\n'] ∧ n.afterReturn = true := by
  cases text with
  | nil => simp
  | cons c cs =>
    by_cases h : c = '\n' ∧ n.afterReturn = true
    · obtain ⟨rfl, hafter⟩ := h
      obtain ⟨hposition, hdone⟩ := Count.position_step_of_afterReturn hafter
      cases cs with
      | nil => simp [hposition, hafter]
      | cons d ds =>
        -- a second line feed is no part of the line end any more
        have hlt := position_lt_foldl (n := n.step '\n') (c := d) (by simp [hdone]) ds
        rw [hposition] at hlt
        simpa using ne_of_lt hlt
    · have hne := ne_of_lt (position_lt_foldl h cs)
      constructor
      · intro heq
        exact absurd heq hne
      · rintro (hnil | ⟨hfeed, hafter⟩)
        · cases hnil
        · cases hfeed
          exact absurd ⟨rfl, hafter⟩ h

/-- A count is right after a carriage return if and only if the text ends with one. -/
theorem afterReturn_foldl_iff {text : List Char} :
    (text.foldl Count.step {}).afterReturn = true ↔ ∃ before, text = before ++ ['\r'] := by
  constructor
  · intro h
    cases text using List.reverseRecOn with
    | nil => cases h
    | append_singleton text c =>
      refine ⟨text, ?_⟩
      by_contra hne
      rw [afterReturn_foldl_concat (by simpa using hne)] at h
      cases h
  · rintro ⟨before, rfl⟩
    rw [List.foldl_append, List.foldl_cons, List.foldl_nil]
    rfl

/-- Two beginnings of a document end at the two sides of a line feed after a carriage return if and
only if the second has one line feed more, and the first ends with a carriage return. -/
theorem splitByReturn_iff {document : String} {before more after : List Char}
    (hd : document.toList = before ++ (more ++ after)) :
    Text.SplitByReturn document (Text.byteLength before) (Text.byteLength (before ++ more)) ↔
      more = ['\n'] ∧ (before.foldl Count.step {}).afterReturn = true := by
  rw [afterReturn_foldl_iff]
  constructor
  · rintro ⟨start, rest, hsplit, ha, hb⟩
    have hstart : (start ++ ['\r']) ++ ('\n' :: rest) = before ++ (more ++ after) := by
      rw [← hd, hsplit, List.append_assoc, List.singleton_append]
    have hmore : (start ++ ['\r', '\n']) ++ rest = (before ++ more) ++ after := by
      rw [List.append_assoc before, ← hd, hsplit, List.append_assoc]
      rfl
    obtain ⟨hbefore, -⟩ := Text.append_inj hstart ha
    obtain ⟨hboth, -⟩ := Text.append_inj hmore hb
    subst hbefore
    rw [List.append_assoc, List.append_cancel_left_eq] at hboth
    exact ⟨(List.cons.inj hboth).2.symm, start, rfl⟩
  · rintro ⟨rfl, start, rfl⟩
    refine ⟨start, after, ?_, rfl, ?_⟩
    · rw [hd, List.append_assoc]
      rfl
    · rw [List.append_assoc]
      rfl

end Position

open Position

/-- **Positions go up with offsets.** A later offset has no smaller position. Two offsets have the same
position if and only if they stand for the same place between characters, or for the two sides of a
line feed that comes right after a carriage return. -/
theorem lineColumn_le_and_eq_iff (document : String) {a b : Nat} (h : a ≤ b) :
    lineColumn document.toList a ≤ lineColumn document.toList b ∧
      ∃ p q, Text.IsFloor document a p ∧ Text.IsFloor document b q ∧
        (lineColumn document.toList a = lineColumn document.toList b ↔
          p = q ∨ Text.SplitByReturn document p q) := by
  obtain ⟨before, rest, hd, hfloor, hposition⟩ := exists_floor document a
  obtain ⟨longer, after, hd', hfloor', hposition'⟩ := exists_floor document b
  obtain ⟨more, rfl, rfl⟩ := Text.append_split (hd.symm.trans hd') (hfloor.le hfloor' h)
  rw [List.foldl_append] at hposition'
  rw [hposition, hposition']
  refine ⟨position_le_foldl _ more, _, _, hfloor, hfloor', ?_⟩
  have hsame : Text.byteLength before = Text.byteLength (before ++ more) ↔ more = [] := by
    rw [Text.byteLength_append, ← Text.byteLength_eq_zero]
    omega
  rw [position_foldl_eq_self_iff, splitByReturn_iff hd, hsame]

/-- Before and after a line feed that follows a carriage return, and inside of the character after
it. -/
theorem lineColumn_le_and_eq_iff_crlf :
    let document := "a\r\né"
    (2 ≤ 4 ∧ lineColumn document.toList 2 = ⟨2, 1⟩ ∧ lineColumn document.toList 4 = ⟨2, 1⟩) ∧
      lineColumn document.toList 2 ≤ lineColumn document.toList 4 ∧
      ∃ p q, Text.IsFloor document 2 p ∧ Text.IsFloor document 4 q ∧
        (lineColumn document.toList 2 = lineColumn document.toList 4 ↔
          p = q ∨ Text.SplitByReturn document p q) :=
  ⟨by decide, lineColumn_le_and_eq_iff "a\r\né" (by decide)⟩

end EmbeddedScripts
