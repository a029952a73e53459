import EmbeddedScripts.Position.ColumnIndex
import EmbeddedScripts.Proofs.Lines

/-!
# Columns of marks

A mark counts its column in bytes; a `ColumnIndex` turns that into characters by looking up the
surplus bytes (`Text.surplus`) before the mark and before the beginning of its line.

* `search_eq`: the binary search finds where the entries at or before an offset end.
* `surplusBefore_ofList`: at an offset inside or at the beginning of the character after `before`, the
  index finds the surplus bytes of `before`.
* `lineColumn_advanceAll`: a mark that counts the text before it has the position that the line feeds
  and the characters of that text give.
-/

namespace EmbeddedScripts

/-- The bytes of a text beyond one for each character. -/
def Text.surplus : List Char → Nat
  | [] => 0
  | c :: cs => c.utf8Size - 1 + surplus cs

namespace Text

@[simp] theorem surplus_nil : surplus [] = 0 := rfl

@[simp] theorem surplus_cons (c : Char) (cs : List Char) :
    surplus (c :: cs) = c.utf8Size - 1 + surplus cs := rfl

@[simp] theorem surplus_append (cs ds : List Char) :
    surplus (cs ++ ds) = surplus cs + surplus ds := by
  induction cs with
  | nil => simp
  | cons c cs ih => simp [ih, Nat.add_assoc]

theorem byteLength_eq_length_add (cs : List Char) : byteLength cs = cs.length + surplus cs := by
  induction cs with
  | nil => rfl
  | cons c cs ih =>
    have := Char.utf8Size_pos c
    rw [byteLength_cons, List.length_cons, surplus_cons, ih]
    omega

/-- A text is split at any offset; one inside a character counts as its beginning. -/
theorem exists_append_at (text : List Char) (offset : Nat) :
    ∃ before after, text = before ++ after ∧ byteLength before ≤ offset ∧
      ∀ c rest, after = c :: rest → offset < byteLength before + c.utf8Size := by
  induction text generalizing offset with
  | nil => exact ⟨[], [], rfl, Nat.zero_le _, fun c rest h => nomatch h⟩
  | cons c cs ih =>
    by_cases hc : c.utf8Size ≤ offset
    · obtain ⟨before, after, rfl, hle, hlt⟩ := ih (offset - c.utf8Size)
      refine ⟨c :: before, after, rfl, ?_, fun d rest h => ?_⟩
      · rw [byteLength_cons]
        omega
      · have := hlt d rest h
        rw [byteLength_cons]
        omega
    · refine ⟨[], c :: cs, rfl, Nat.zero_le _, fun d rest h => ?_⟩
      cases h
      rw [byteLength_nil]
      omega

/-- A text is its lines up to the last line feed and what follows that. -/
theorem exists_append_lastLine (cs : List Char) : ∃ lines, cs = lines ++ lastLine cs :=
  ⟨_, List.rdropWhile_append_rtakeWhile.symm⟩

end Text

/-- A mark at the end of a text counts its bytes, its line feeds, and the bytes of its last line. -/
theorem Mark.advanceAll_zero (text : List Char) :
    Mark.zero.advanceAll text =
      ⟨Text.byteLength text, text.count '\n', Text.byteLength (Text.lastLine text)⟩ := by
  induction text using List.reverseRecOn with
  | nil => rfl
  | append_singleton text c ih =>
    rw [advanceAll_append, ih, advanceAll_cons, advanceAll_nil, advance, Text.lastLine_concat]
    split
    · rename_i hc
      simp [hc]
      decide
    · rename_i hc
      simp [hc]

namespace ColumnIndex

/-! ## Entries -/

theorem entries_append (offset surplus : Nat) (cs ds : List Char) :
    entries offset surplus (cs ++ ds) =
      entries offset surplus cs ++
        entries (offset + Text.byteLength cs) (surplus + Text.surplus cs) ds := by
  induction cs generalizing offset surplus with
  | nil => rfl
  | cons c cs ih =>
    rw [List.cons_append, entries, entries]
    split
    · simp [ih, Nat.add_assoc]
    · rename_i hc
      have hsize : c.utf8Size - 1 = 0 := by omega
      simp [ih, Nat.add_assoc, hsize]

theorem entries_bounds {offset surplus : Nat} {cs : List Char} {e : Nat × Nat}
    (h : e ∈ entries offset surplus cs) : e.1 ≤ offset + Text.byteLength cs := by
  induction cs generalizing offset surplus with
  | nil => simp [entries] at h
  | cons c cs ih =>
    rw [Text.byteLength_cons]
    rw [entries] at h
    split at h
    · rcases List.mem_cons.1 h with rfl | h
      · show offset + c.utf8Size ≤ _
        omega
      · have := ih h
        omega
    · have := ih h
      omega

/-- Entries lie at or behind the end of the first character. -/
theorem entries_first {offset surplus : Nat} {c : Char} {cs : List Char} {e : Nat × Nat}
    (h : e ∈ entries offset surplus (c :: cs)) : offset + c.utf8Size ≤ e.1 := by
  induction cs generalizing offset surplus c with
  | nil =>
    rw [entries, entries] at h
    split at h
    · rw [List.mem_singleton.1 h]
    · simp [entries] at h
  | cons d ds ih =>
    rw [entries] at h
    split at h
    · rcases List.mem_cons.1 h with rfl | h
      · exact Nat.le_refl _
      · have := ih h
        omega
    · have := ih h
      omega

/-- The last entry has the surplus of the whole text. -/
theorem entries_getLast? (offset surplus : Nat) (cs : List Char) :
    ((entries offset surplus cs).getLast?.map (·.2)).getD surplus = surplus + Text.surplus cs := by
  induction cs generalizing offset surplus with
  | nil => rfl
  | cons c cs ih =>
    rw [entries, Text.surplus_cons]
    split
    · have := ih (offset + c.utf8Size) (surplus + (c.utf8Size - 1))
      rw [List.getLast?_cons, Option.map_some, Option.getD_some]
      cases hl : (entries (offset + c.utf8Size) (surplus + (c.utf8Size - 1)) cs).getLast? with
      | none =>
        rw [hl] at this
        simp only [Option.map_none, Option.getD_none] at this ⊢
        omega
      | some e =>
        rw [hl] at this
        simp only [Option.map_some, Option.getD_some] at this ⊢
        omega
    · have := ih (offset + c.utf8Size) surplus
      omega

/-! ## Searching -/

/-- **The search finds the index** up to which all entries end at or before the offset, and from which
on none does. -/
theorem search_eq {wide : Array (Nat × Nat)} {offset k : Nat}
    (hbefore : ∀ i < k, (wide.getD i (0, 0)).1 ≤ offset)
    {lo hi : Nat} (hafter : ∀ i, k ≤ i → i < hi → offset < (wide.getD i (0, 0)).1)
    (hlo : lo ≤ k) (hhi : k ≤ hi) : search wide offset lo hi = k := by
  fun_induction search wide offset lo hi with
  | case1 lo hi hlt mid hle ih =>
    refine ih hafter ?_ hhi
    -- the entry in the middle counts, so the index is behind it
    apply Classical.byContradiction
    intro hk
    have := hafter mid (by omega) (by omega)
    omega
  | case2 lo hi hlt mid hle ih =>
    refine ih (fun i hk hi' => hafter i hk (by omega)) hlo ?_
    apply Classical.byContradiction
    intro hk
    exact hle (hbefore mid (by omega))
  | case3 lo hi hlt => omega

/-- The entries at or before an offset and then the others: the search finds where these begin. -/
theorem search_append {xs ys : List (Nat × Nat)} {offset : Nat} (hx : ∀ e ∈ xs, e.1 ≤ offset)
    (hy : ∀ e ∈ ys, offset < e.1) :
    search (xs ++ ys).toArray offset 0 (xs ++ ys).toArray.size = xs.length := by
  refine search_eq (fun i hi => ?_) (fun i hi hsize => ?_) (Nat.zero_le _) (by simp)
  · rw [Array.getD_eq_getD_getElem?, List.getElem?_toArray, List.getElem?_append_left hi,
      List.getElem?_eq_getElem hi, Option.getD_some]
    exact hx _ (List.getElem_mem hi)
  · rw [List.size_toArray, List.length_append] at hsize
    have hi' : i - xs.length < ys.length := by omega
    rw [Array.getD_eq_getD_getElem?, List.getElem?_toArray, List.getElem?_append_right hi,
      List.getElem?_eq_getElem hi', Option.getD_some]
    exact hy _ (List.getElem_mem hi')

/-- **The surplus before an offset** is that of the characters which end at or before it. -/
theorem surplusBefore_ofList {before after : List Char} {offset : Nat}
    (hle : Text.byteLength before ≤ offset)
    (hlt : ∀ c rest, after = c :: rest → offset < Text.byteLength before + c.utf8Size) :
    (ofList (before ++ after)).surplusBefore offset = Text.surplus before := by
  have hsplit := entries_append 0 0 before after
  rw [Nat.zero_add, Nat.zero_add] at hsplit
  generalize hxs : entries 0 0 before = xs at hsplit
  generalize hys : entries (Text.byteLength before) (Text.surplus before) after = ys at hsplit
  have hx : ∀ e ∈ xs, e.1 ≤ offset := by
    intro e he
    rw [← hxs] at he
    have := entries_bounds he
    omega
  have hy : ∀ e ∈ ys, offset < e.1 := by
    intro e he
    rw [← hys] at he
    cases after with
    | nil => simp [entries] at he
    | cons c rest =>
      have h1 := entries_first he
      have h2 := hlt c rest rfl
      omega
  have hlast := entries_getLast? 0 0 before
  rw [hxs, Nat.zero_add] at hlast
  unfold surplusBefore ofList
  rw [hsplit, search_append hx hy]
  split
  · rename_i hlen
    rw [List.length_eq_zero_iff.1 hlen] at hlast
    simpa using hlast
  · rename_i n hlen
    have hget : (xs ++ ys)[n]? = xs.getLast? := by
      rw [List.getElem?_append_left (by omega), List.getLast?_eq_getElem?, hlen]
      rfl
    have hne : xs ≠ [] := by
      rintro rfl
      simp at hlen
    rw [List.getLast?_eq_some_getLast hne] at hlast hget
    rw [Array.getD_eq_getD_getElem?, List.getElem?_toArray, hget, Option.getD_some]
    simpa using hlast

/-- The surplus before the place between two parts of a text. -/
theorem surplusBefore_append (before after : List Char) :
    (ofList (before ++ after)).surplusBefore (Text.byteLength before) = Text.surplus before := by
  refine surplusBefore_ofList (Nat.le_refl _) fun c rest _ => ?_
  have := Char.utf8Size_pos c
  omega

/-! ## Marks -/

/-- **The position of a mark** is that of the end of the text it counts. -/
theorem lineColumn_advanceAll (before after : List Char) (startLine : Nat) :
    (ofList (before ++ after)).lineColumn (Mark.zero.advanceAll before) startLine =
      LineColumn.after ⟨startLine, 1⟩ before := by
  obtain ⟨lines, hlines⟩ := Text.exists_append_lastLine before
  generalize hlast : Text.lastLine before = last at hlines
  have hstart : Text.byteLength before - Text.byteLength last = Text.byteLength lines := by
    rw [hlines, Text.byteLength_append]
    omega
  have hbefore := surplusBefore_append before after
  have hline := surplusBefore_append lines (last ++ after)
  rw [← List.append_assoc, ← hlines] at hline
  have hsum : Text.surplus before = Text.surplus lines + Text.surplus last := by
    rw [hlines, Text.surplus_append]
  have hlength := Text.byteLength_eq_length_add last
  unfold lineColumn LineColumn.after
  simp only [Mark.advanceAll_zero, hlast, hstart, hbefore, hline, LineColumn.mk.injEq, true_and]
  by_cases hm : '\n' ∈ before
  · rw [if_pos hm]
    omega
  · have hone : before.length = last.length :=
      congrArg List.length ((Text.lastLine_of_notMem hm).symm.trans hlast)
    rw [if_neg hm, hone]
    omega

end ColumnIndex

end EmbeddedScripts
