import EmbeddedScripts.Position

/-!
# Trackers resume faithfully

A tracker that has read a beginning of its document (`Tracker.Reached`) answers every further offset
as a new one would: `advanceTo_eq`. Each answer leaves the tracker in such a state again
(`reached_advanceTo`), so it does not matter which offsets a tracker was asked for before.
-/

namespace EmbeddedScripts.Position.Tracker

/-- The tracker has read the document up to its offset, and counted what it read. -/
def Reached (t : Tracker) : Prop :=
  ∃ before, t.document = before ++ t.rest ∧ t.offset = Text.byteLength before ∧
    t.count = before.foldl Count.step {}

theorem reached_ofList (document : List Char) : (ofList document).Reached := ⟨[], rfl, rfl, rfl⟩

/-- A text that ends before the target is read through. -/
theorem read_append (document : List Char) {target : Nat} :
    ∀ {offset : Nat} (n : Count) {cs : List Char} (ds : List Char),
      offset + Text.byteLength cs ≤ target →
      read document target offset n (cs ++ ds) =
        read document target (offset + Text.byteLength cs) (cs.foldl Count.step n) ds
  | _, _, [], _, _ => rfl
  | offset, n, c :: cs, ds, h => by
    rw [Text.byteLength_cons] at h
    rw [List.cons_append, read, if_pos (by omega), read_append document _ ds (by omega),
      List.foldl_cons, Text.byteLength_cons, Nat.add_assoc]

theorem reached_read {document : List Char} (target : Nat) {offset : Nat} {n : Count}
    {rest : List Char} (h : Reached ⟨document, offset, rest, n⟩) :
    (read document target offset n rest).Reached ∧
      (read document target offset n rest).document = document := by
  induction rest generalizing offset n with
  | nil => exact ⟨h, rfl⟩
  | cons c cs ih =>
    rw [read]
    split
    · obtain ⟨before, hd, ho, hn⟩ := h
      simp only at hd ho hn
      refine ih ⟨before ++ [c], ?_, ?_, ?_⟩
      · simp [hd]
      · simp [ho]
      · simp [hn]
    · exact ⟨h, rfl⟩

/-- **A tracker answers as a new one**, whatever it was asked for before. -/
theorem advanceTo_eq {t : Tracker} (h : t.Reached) (target : Nat) :
    t.advanceTo target = (ofList t.document).advanceTo target := by
  obtain ⟨before, hd, ho, hn⟩ := h
  by_cases hlt : target < t.offset
  · simp [advanceTo, hlt, ofList]
  · have hle : 0 + Text.byteLength before ≤ target := by omega
    have hr := read_append t.document {} t.rest hle
    rw [← hd, Nat.zero_add, ← ho, ← hn] at hr
    simp [advanceTo, hlt, ofList, hr]

theorem reached_advanceTo {t : Tracker} (h : t.Reached) (target : Nat) :
    (t.advanceTo target).Reached ∧ (t.advanceTo target).document = t.document := by
  rw [advanceTo_eq h]
  exact reached_read target (reached_ofList t.document)

theorem position_advanceTo {t : Tracker} (h : t.Reached) (target : Nat) :
    (t.advanceTo target).position = lineColumn t.document target := by
  rw [advanceTo_eq h]
  rfl

end EmbeddedScripts.Position.Tracker
