import EmbeddedScripts.Text.Bytes
import Mathlib.Data.String.Basic

/-!
# Texts inside a document

`Text.Holds document start stop text`: the document has `text` between the byte offsets `start` and
`stop`, both of which fall between characters.

* `Holds.slice_eq`: cutting the document there gives `text`; `holds_slice`: conversely, between two
  boundaries in order the document holds what `slice` cuts out.
* `Holds.trans`, `Holds.of_padded`: a text inside a text inside a document, and a text inside a
  padded snippet, which together move a text from the snippet to the document (`Holds.relocate`).
-/

namespace EmbeddedScripts.Text

/-- The offset falls between two characters of the document, or at one of its ends. -/
def IsBoundary (document : String) (offset : Nat) : Prop :=
  ∃ before after, document.toList = before ++ after ∧ byteLength before = offset

/-- The document has `text` between the offsets `start` and `stop`. -/
def Holds (document : String) (start stop : Nat) (text : String) : Prop :=
  ∃ before after, document.toList = before ++ text.toList ++ after ∧
    byteLength before = start ∧ byteLength before + byteLength text.toList = stop

/-! ## Bytes -/

theorem byteLength_eq_utf8Len (cs : List Char) : byteLength cs = String.utf8Len cs := by
  induction cs with
  | nil => rfl
  | cons c cs ih => rw [byteLength_cons, String.utf8Len_cons, ih, Nat.add_comm]

theorem byteLength_toList (s : String) : byteLength s.toList = s.utf8ByteSize := by
  rw [byteLength_eq_utf8Len, ← String.utf8ByteSize_ofList, String.ofList_toList]

theorem byteLength_eq_zero {cs : List Char} : byteLength cs = 0 ↔ cs = [] := by
  rw [byteLength_eq_utf8Len, String.utf8Len_eq_zero]

theorem toList_spaces (n : Nat) : (spaces n).toList = List.replicate n ' ' := by
  simp [spaces]

@[simp] theorem byteLength_spaces (n : Nat) : byteLength (spaces n).toList = n := by
  rw [toList_spaces]
  induction n with
  | zero => rfl
  | succ n ih =>
    rw [List.replicate_succ, byteLength_cons, ih, show (' ' : Char).utf8Size = 1 by decide]
    omega

/-- Of two beginnings of one text, the shorter one is a beginning of the other. -/
theorem append_split {a b c d : List Char} (h : a ++ b = c ++ d)
    (hle : byteLength a ≤ byteLength c) : ∃ m, c = a ++ m ∧ b = m ++ d := by
  rcases List.append_eq_append_iff.1 h with ⟨m, hc, hb⟩ | ⟨m, ha, hd⟩
  · exact ⟨m, hc, hb⟩
  · have hm : m = [] := by
      rw [ha, byteLength_append] at hle
      exact byteLength_eq_zero.1 (by omega)
    subst hm
    exact ⟨[], by simpa using ha.symm, by simpa using hd.symm⟩

/-- Beginnings of one text that have as many bytes are the same. -/
theorem append_inj {a b c d : List Char} (h : a ++ b = c ++ d)
    (hl : byteLength a = byteLength c) : a = c ∧ b = d := by
  obtain ⟨m, rfl, rfl⟩ := append_split h (Nat.le_of_eq hl)
  rw [byteLength_append] at hl
  obtain rfl := byteLength_eq_zero.1 (show byteLength m = 0 by omega)
  simp

/-- The characters of a class at the beginning of a text end where one of another class follows. -/
theorem span_exact {p : Char → Bool} {read rest : List Char} (hread : ∀ c ∈ read, p c = true)
    (hrest : ∀ c ∈ rest.head?, p c = false) :
    (read ++ rest).takeWhile p = read ∧ (read ++ rest).dropWhile p = rest := by
  rw [List.takeWhile_append_of_pos hread, List.dropWhile_append_of_pos hread]
  cases rest with
  | nil => simp
  | cons c cs =>
    have hc : ¬ p c = true := by simp [hrest c rfl]
    simp [hc]

/-! ## Cutting -/

theorem slice_eq_empty {document : String} {start stop : Nat} (h : stop ≤ start) :
    slice document start stop = "" := by
  rw [slice, String.Pos.Raw.extract, if_pos h]

namespace Holds

variable {document text : String} {start stop : Nat}

theorem slice_eq (h : Holds document start stop text) : slice document start stop = text := by
  obtain ⟨before, after, hd, rfl, rfl⟩ := h
  have he := String.extract_of_valid before text.toList after
  rw [← hd, String.ofList_toList, String.ofList_toList] at he
  rw [slice, byteLength_eq_utf8Len, byteLength_eq_utf8Len]
  exact he

theorem start_boundary (h : Holds document start stop text) : IsBoundary document start := by
  obtain ⟨before, after, hd, hs, -⟩ := h
  exact ⟨before, text.toList ++ after, by rw [hd, List.append_assoc], hs⟩

theorem stop_boundary (h : Holds document start stop text) : IsBoundary document stop := by
  obtain ⟨before, after, hd, -, hs⟩ := h
  exact ⟨before ++ text.toList, after, hd, by rw [byteLength_append, hs]⟩

theorem length_eq (h : Holds document start stop text) :
    start + byteLength text.toList = stop := by
  obtain ⟨before, after, -, rfl, rfl⟩ := h
  rfl

theorem stop_le (h : Holds document start stop text) : stop ≤ byteLength document.toList := by
  obtain ⟨before, after, hd, -, rfl⟩ := h
  rw [hd]
  simp

/-- What a text inside the document holds, the document holds too. -/
theorem trans {inner : String} {first last : Nat} (h : Holds document first last inner)
    (hi : Holds inner start stop text) :
    Holds document (first + start) (first + stop) text := by
  obtain ⟨before, after, hd, rfl, -⟩ := h
  obtain ⟨b, a, hin, rfl, rfl⟩ := hi
  refine ⟨before ++ b, a ++ after, ?_, byteLength_append .., ?_⟩
  · rw [hd, hin]
    simp
  · rw [byteLength_append, Nat.add_assoc]

end Holds

theorem holds_slice {document : String} {start stop : Nat} (hs : IsBoundary document start)
    (ht : IsBoundary document stop) (hle : start ≤ stop) :
    Holds document start stop (slice document start stop) := by
  obtain ⟨a, b, hab, rfl⟩ := hs
  obtain ⟨c, d, hcd, rfl⟩ := ht
  obtain ⟨m, rfl, rfl⟩ := append_split (hab.symm.trans hcd) hle
  have h : Holds document (byteLength a) (byteLength (a ++ m)) (String.ofList m) :=
    ⟨a, d, by simp [hcd], rfl, by simp⟩
  rwa [h.slice_eq]

/-! ## Padding -/

/-- What a padded snippet holds after its padding, the snippet holds. -/
theorem Holds.of_padded {content text : String} {padding start stop : Nat}
    (h : Holds (spaces padding ++ content) start stop text) (hle : padding ≤ start) :
    Holds content (start - padding) (stop - padding) text := by
  obtain ⟨before, after, hd, rfl, rfl⟩ := h
  rw [String.toList_append, List.append_assoc] at hd
  obtain ⟨m, rfl, hm⟩ := append_split hd (by rw [byteLength_spaces]; exact hle)
  rw [← List.append_assoc] at hm
  refine ⟨m, after, hm, ?_, ?_⟩
  · rw [byteLength_append, byteLength_spaces]
    omega
  · rw [byteLength_append, byteLength_spaces]
    omega

/-- A text of a padded snippet is found in the document of the snippet, as far from its beginning as
from the end of the padding. -/
theorem Holds.relocate {document content text : String} {padding index last start stop : Nat}
    (hc : Holds document index last content)
    (h : Holds (spaces padding ++ content) start stop text) (hle : padding ≤ start) :
    Holds document (start - padding + index) (stop - padding + index) text := by
  have := hc.trans (h.of_padded hle)
  rwa [Nat.add_comm index, Nat.add_comm index] at this

end EmbeddedScripts.Text
