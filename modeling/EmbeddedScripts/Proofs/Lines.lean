import EmbeddedScripts.Proofs.Trackers
import Mathlib.Data.List.DropRight

/-!
# Counting lines over a text

Two ways to count go side by side. A tracker ends a line at every line separator, a carriage return
with the line feed after it being one (`Position.lineEnds`). `LineColumn.after` ends a line at a line
feed only.

* `lineColumn_append`: the position of an offset is the count over the text before it.
* `line_foldl`: a count goes up by the line ends of the text.
* `position_foldl_eq_iff`: over a text that does not follow a carriage return, both ways lead to the
  same position if and only if each line end in it has a line feed (`Position.FeedEnded`).
-/

namespace EmbeddedScripts

/-- What follows the last line feed of a text. -/
def Text.lastLine (text : List Char) : List Char := text.rtakeWhile (· ≠ '\n')

/-- The position after `text`, if `p` is the position before it and a line ends at a line feed only:
one line more for each line feed, and the column of the characters since the last one. -/
def LineColumn.after (p : LineColumn) (text : List Char) : LineColumn :=
  { line := p.line + text.count '\n'
    column := if '\n' ∈ text then 1 + (Text.lastLine text).length else p.column + text.length }

/-! ## Line feeds -/

theorem Text.lastLine_concat (text : List Char) (c : Char) :
    lastLine (text ++ [c]) = if c = '\n' then [] else lastLine text ++ [c] := by
  unfold lastLine
  split
  · rename_i hc
    exact List.rtakeWhile_concat_neg _ _ _ (by simp [hc])
  · rename_i hc
    exact List.rtakeWhile_concat_pos _ _ _ (by simp [hc])

theorem Text.lastLine_of_notMem {text : List Char} (h : '\n' ∉ text) : lastLine text = text := by
  refine List.rtakeWhile_eq_self_iff.2 fun c hc => ?_
  have hne : c ≠ '\n' := fun he => h (he ▸ hc)
  simpa using hne

namespace LineColumn

@[simp] theorem after_nil (p : LineColumn) : p.after [] = p := rfl

theorem after_concat (p : LineColumn) (text : List Char) (c : Char) :
    p.after (text ++ [c]) =
      if c = '\n' then ⟨(p.after text).line + 1, 1⟩
      else ⟨(p.after text).line, (p.after text).column + 1⟩ := by
  unfold after
  rw [Text.lastLine_concat, List.count_append]
  by_cases hc : c = '\n'
  · simp [hc, Nat.add_assoc]
  · by_cases hm : '\n' ∈ text
    · simp [hc, hm, Nat.add_assoc]
    · simp [hc, hm, Ne.symm hc, Nat.add_assoc]

theorem after_append (p : LineColumn) (s t : List Char) :
    p.after (s ++ t) = (p.after s).after t := by
  induction t using List.reverseRecOn with
  | nil => simp
  | append_singleton t c ih => rw [← List.append_assoc, after_concat, after_concat, ih]

theorem after_cons (p : LineColumn) (c : Char) (cs : List Char) :
    p.after (c :: cs) = (p.after [c]).after cs := after_append p [c] cs

theorem after_of_notMem {text : List Char} (h : '\n' ∉ text) (p : LineColumn) :
    p.after text = ⟨p.line, p.column + text.length⟩ := by
  simp [after, h, List.count_eq_zero.2 h]

end LineColumn

namespace Position

/-! ## Line ends -/

/-- The number of line ends of a text. A carriage return and a line feed are one. -/
def lineEnds : List Char → Nat
  | [] => 0
  | '\r' :: '\n' :: cs => lineEnds cs + 1
  | c :: cs => lineEnds cs + if isLineSeparator c then 1 else 0

/-- Every line end of the text is a line feed, or a carriage return with a line feed after it. -/
def FeedEnded (text : List Char) : Prop :=
  ∀ before c after, text = before ++ c :: after → isLineSeparator c = true →
    c = '\n' ∨ c = '\r' ∧ after.head? = some '\n'

theorem feedEnded_nil : FeedEnded [] := by
  intro before c after h
  simp at h

theorem feedEnded_cons {c : Char} {cs : List Char} :
    FeedEnded (c :: cs) ↔
      (isLineSeparator c = true → c = '\n' ∨ c = '\r' ∧ cs.head? = some '\n') ∧
        FeedEnded cs := by
  constructor
  · intro h
    refine ⟨h [] c cs rfl, fun before d after hd => ?_⟩
    exact h (c :: before) d after (by rw [hd, List.cons_append])
  · rintro ⟨hc, hcs⟩ before d after hd
    cases before with
    | nil =>
      obtain ⟨rfl, rfl⟩ := List.cons.inj hd
      exact hc
    | cons b before => exact hcs before d after (List.cons.inj hd).2

/-- A text without other line separators than line feeds. -/
theorem FeedEnded.of_forall {text : List Char}
    (h : ∀ c ∈ text, isLineSeparator c = true → c = '\n') : FeedEnded text := by
  rintro before c after rfl hc
  exact .inl (h c (by simp) hc)

theorem feedEnded_crlf {cs : List Char} : FeedEnded ('\r' :: '\n' :: cs) ↔ FeedEnded cs := by
  simp [feedEnded_cons]

theorem count_le_lineEnds (text : List Char) : text.count '\n' ≤ lineEnds text := by
  fun_induction lineEnds text with
  | case1 => exact Nat.le_refl _
  | case2 cs ih => simpa using ih
  | case3 c cs _ ih =>
    rw [List.count_cons]
    by_cases hc : c = '\n'
    · simpa [hc, isLineSeparator] using ih
    · simp only [beq_iff_eq, hc, ↓reduceIte, Nat.add_zero]
      omega

/-- **A text has as many line feeds as line ends** if and only if each line end has a line feed. -/
theorem lineEnds_eq_count_iff {text : List Char} :
    lineEnds text = text.count '\n' ↔ FeedEnded text := by
  fun_induction lineEnds text with
  | case1 => simp [feedEnded_nil]
  | case2 cs ih => rw [feedEnded_crlf, ← ih]; simp
  | case3 c cs hcrlf ih =>
    rw [feedEnded_cons, ← ih, List.count_cons]
    by_cases hc : c = '\n'
    · simp [hc, isLineSeparator]
    · by_cases hs : isLineSeparator c = true
      · -- a line end without a line feed: the count never makes up for it
        have hle := count_le_lineEnds cs
        have hhead : ¬ (c = '\r' ∧ cs.head? = some '\n') := by
          rintro ⟨rfl, hh⟩
          obtain ⟨ds, rfl⟩ := List.head?_eq_some_iff.1 hh
          exact hcrlf ds rfl rfl
        simp only [hs, hc, hhead, beq_iff_eq, ↓reduceIte, Nat.add_zero, or_self, imp_false,
          not_true_eq_false, false_and, iff_false]
        omega
      · simp [hs, hc]

/-! ## Counts -/

/-- A carriage return before matters to a line feed only. -/
theorem step_of_ne_feed {n m : Count} (hl : n.line = m.line) (hc : n.column = m.column) {c : Char}
    (h : c ≠ '\n') : n.step c = m.step c := by
  unfold Count.step
  simp [h, hl, hc]

theorem position_foldl_congr {n m : Count} (hl : n.line = m.line) (hc : n.column = m.column)
    {cs : List Char} (h : cs.head? ≠ some '\n') :
    (cs.foldl Count.step n).position = (cs.foldl Count.step m).position := by
  cases cs with
  | nil => simp [Count.position, hl, hc]
  | cons c cs =>
    have hne : c ≠ '\n' := by simpa using h
    rw [List.foldl_cons, List.foldl_cons, step_of_ne_feed hl hc hne]

/-- **Each line end of a text adds a line.** -/
theorem line_foldl {n : Count} (h : n.afterReturn = false) (text : List Char) :
    (text.foldl Count.step n).line = n.line + lineEnds text := by
  fun_induction lineEnds text generalizing n with
  | case1 => rfl
  | case2 cs ih =>
    have hstep : (n.step '\r').step '\n' = ⟨n.line + 1, 1, false⟩ := by
      simp [Count.step, isLineSeparator]
    rw [List.foldl_cons, List.foldl_cons, hstep, ih rfl]
    show n.line + 1 + lineEnds cs = n.line + (lineEnds cs + 1)
    omega
  | case3 c cs hcrlf ih =>
    rw [List.foldl_cons]
    by_cases hr : c = '\r'
    · -- no line feed follows, so the count goes on as if nothing had been before
      have hstep : n.step c = ⟨n.line + 1, 1, true⟩ := by
        simp [Count.step, hr, isLineSeparator]
      have hhead : cs.head? ≠ some '\n' := by
        intro hh
        obtain ⟨ds, rfl⟩ := List.head?_eq_some_iff.1 hh
        exact hcrlf ds hr rfl
      have hforget := position_foldl_congr (n := ⟨n.line + 1, 1, true⟩)
        (m := ⟨n.line + 1, 1, false⟩) rfl rfl hhead
      have hline := congrArg LineColumn.line hforget
      rw [hstep]
      refine hline.trans ((ih rfl).trans ?_)
      simp [hr, isLineSeparator]
      omega
    · have hafter : (n.step c).afterReturn = false := by
        simp only [Count.step, h, Bool.and_false, Bool.false_eq_true, ↓reduceIte]
        split
        · simpa using hr
        · rfl
      have hline : (n.step c).line = n.line + if isLineSeparator c then 1 else 0 := by
        simp only [Count.step, h, Bool.and_false, Bool.false_eq_true, ↓reduceIte]
        split
        · rfl
        · rfl
      rw [ih hafter, hline]
      omega

theorem step_of_feedEnded {n : Count} (h : n.afterReturn = false) {c : Char}
    (hc : isLineSeparator c = true → c = '\n') :
    n.step c = ⟨(n.position.after [c]).line, (n.position.after [c]).column, false⟩ := by
  by_cases hf : c = '\n'
  · simp [Count.step, hf, h, isLineSeparator, LineColumn.after, Count.position, Text.lastLine]
  · have hs : isLineSeparator c = false := by simpa using mt hc hf
    rw [LineColumn.after_of_notMem (by simpa using Ne.symm hf)]
    simp [Count.step, hf, hs, Count.position]

/-- **Where each line end has a line feed, counting line feeds is enough.** -/
theorem position_foldl_of_feedEnded {n : Count} (h : n.afterReturn = false) {text : List Char}
    (ht : FeedEnded text) : (text.foldl Count.step n).position = n.position.after text := by
  fun_induction lineEnds text generalizing n with
  | case1 => rfl
  | case2 cs ih =>
    have hstep : (n.step '\r').step '\n' = ⟨n.line + 1, 1, false⟩ := by
      simp [Count.step, isLineSeparator]
    have hafter : n.position.after ['\r', '\n'] = ⟨n.line + 1, 1⟩ := rfl
    rw [List.foldl_cons, List.foldl_cons, hstep, ih rfl (feedEnded_crlf.1 ht),
      show '\r' :: '\n' :: cs = ['\r', '\n'] ++ cs from rfl, LineColumn.after_append, hafter]
    rfl
  | case3 c cs hcrlf ih =>
    obtain ⟨hc, hcs⟩ := feedEnded_cons.1 ht
    have hsep : isLineSeparator c = true → c = '\n' := by
      intro hs
      rcases hc hs with hf | ⟨hr, hh⟩
      · exact hf
      · obtain ⟨ds, rfl⟩ := List.head?_eq_some_iff.1 hh
        exact absurd rfl (hcrlf ds hr)
    rw [List.foldl_cons, step_of_feedEnded h hsep, ih rfl hcs]
    exact (LineColumn.after_cons n.position c cs).symm

/-- **Both ways to count agree** over a text if and only if each of its line ends has a line feed. -/
theorem position_foldl_eq_iff {n : Count} (h : n.afterReturn = false) {text : List Char} :
    (text.foldl Count.step n).position = n.position.after text ↔ FeedEnded text := by
  constructor
  · intro he
    have hline : (text.foldl Count.step n).line = n.line + text.count '\n' :=
      congrArg LineColumn.line he
    rw [line_foldl h] at hline
    exact lineEnds_eq_count_iff.1 (by omega)
  · exact position_foldl_of_feedEnded h

theorem column_foldl_pos {n : Count} (h : 0 < n.column) (text : List Char) :
    0 < (text.foldl Count.step n).column := by
  induction text generalizing n with
  | nil => exact h
  | cons c cs ih =>
    refine ih ?_
    unfold Count.step
    split
    · exact h
    · split
      · exact Nat.one_pos
      · exact Nat.succ_pos _

/-- A count after a character other than a carriage return. -/
theorem afterReturn_foldl_concat {n : Count} {text : List Char} {c : Char} (h : c ≠ '\r') :
    ((text ++ [c]).foldl Count.step n).afterReturn = false := by
  rw [List.foldl_append, List.foldl_cons, List.foldl_nil]
  unfold Count.step
  split
  · rfl
  · split
    · simpa using h
    · rfl

end Position

/-! ## Offsets -/

open Position in
/-- **The position of an offset is the count over the text before it.** -/
theorem lineColumn_append (before after : List Char) :
    lineColumn (before ++ after) (Text.byteLength before) =
      (before.foldl Count.step {}).position := by
  have hle : 0 + Text.byteLength before ≤ Text.byteLength before := Nat.le_of_eq (Nat.zero_add _)
  have hread := Tracker.read_append (before ++ after) {} after hle
  unfold lineColumn Tracker.advanceTo Tracker.ofList
  simp only [Nat.not_lt_zero, ↓reduceIte]
  rw [hread, Nat.zero_add]
  cases after with
  | nil => rfl
  | cons c cs =>
    rw [Tracker.read, if_neg (by have := Char.utf8Size_pos c; omega)]
    rfl

end EmbeddedScripts
