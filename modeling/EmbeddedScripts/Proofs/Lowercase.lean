import EmbeddedScripts.Text.Lowercase
import Mathlib.Data.String.Basic

/-!
# Laws of lower case

A character is in lower case (`IsLower`) if lower-casing leaves it alone.

* `CaseRun.lower?_of_avoids`, `lowerRuns_avoid`: the lower cases that the table gives are not
  themselves characters that the table changes.
* `isLower_of_mem_lowerChars`: so all characters of a lower-cased text are in lower case, and
  `lowercase_lowercase`: to lower-case it again changes nothing.
* `lowercase_toLower`: nor does it matter if the ASCII letters are lower-cased before.
-/

namespace EmbeddedScripts.Text

/-! ## Letters of ASCII -/

theorem toLower_eq_self {c : Char} (h : ¬ (65 ≤ c.toNat ∧ c.toNat ≤ 90)) : c.toLower = c := by
  unfold Char.toLower
  split
  · rename_i hc
    simp only [ge_iff_le, UInt32.le_iff_toNat_le] at hc
    exact absurd hc h
  · rfl

/-- What does not tell the capital letters of ASCII from the small ones. -/
theorem apply_toLower {α : Type} {f : Char → α}
    (h : ∀ n < 26, f (Char.ofNat (65 + n)).toLower = f (Char.ofNat (65 + n))) (c : Char) :
    f c.toLower = f c := by
  by_cases hc : 65 ≤ c.toNat ∧ c.toNat ≤ 90
  · have := h (c.toNat - 65) (by omega)
    rwa [Nat.add_sub_cancel' hc.1, Char.ofNat_toNat] at this
  · rw [toLower_eq_self hc]

theorem toList_toLower (s : String) : s.toLower.toList = s.toList.map Char.toLower :=
  String.toList_map

/-! ## The table -/

theorem toNat_ofNat (n : Nat) : (Char.ofNat n).toNat = n ∨ (Char.ofNat n).toNat = 0 := by
  unfold Char.ofNat
  by_cases h : n.isValidChar
  · rw [dif_pos h]
    exact .inl rfl
  · rw [dif_neg h]
    exact .inr rfl

namespace CaseRun

theorem lower?_eq_some {r : CaseRun} {c d : Char} (h : r.lower? c = some d) :
    c.toNat ≤ r.last ∧ r.stride ∣ c.toNat - r.first ∧
      d = Char.ofNat (r.target + (c.toNat - r.first)) := by
  unfold lower? at h
  split at h
  · rename_i hc
    simp only [Bool.and_eq_true, decide_eq_true_eq, beq_iff_eq] at hc
    cases h
    exact ⟨hc.1.2, Nat.dvd_of_mod_eq_zero hc.2, rfl⟩
  · cases h

/-- None of the lower cases of `r` is a character of `s`: they lie apart, or the steps of `s` pass
over them. -/
def avoids (r s : CaseRun) : Bool :=
  r.target + (r.last - r.first) < s.first || s.last < r.target ||
    ((r.last == r.first || r.stride % s.stride == 0) && r.target % s.stride != s.first % s.stride)

theorem lower?_of_avoids {r s : CaseRun} (h : r.avoids s = true) (hs : 0 < s.first) {c d : Char}
    (hc : r.lower? c = some d) : s.lower? d = none := by
  obtain ⟨hlast, hstride, rfl⟩ := lower?_eq_some hc
  unfold lower?
  refine if_neg ?_
  simp only [Bool.and_eq_true, decide_eq_true_eq, beq_iff_eq]
  rintro ⟨⟨h1, h2⟩, h3⟩
  rcases toNat_ofNat (r.target + (c.toNat - r.first)) with he | he
  · rw [he] at h1 h2 h3
    simp only [avoids, Bool.or_eq_true, Bool.and_eq_true, decide_eq_true_eq, beq_iff_eq,
      bne_iff_ne] at h
    rcases h with (h | h) | ⟨hstep, hne⟩
    · omega
    · omega
    · have hmod : s.stride ∣ c.toNat - r.first := by
        rcases hstep with hone | hdvd
        · rw [show c.toNat - r.first = 0 by omega]
          exact Nat.dvd_zero _
        · exact Nat.dvd_trans (Nat.dvd_of_mod_eq_zero hdvd) hstride
      apply hne
      calc r.target % s.stride
          = (r.target + (c.toNat - r.first)) % s.stride := by
            rw [Nat.add_mod, Nat.mod_eq_zero_of_dvd hmod, Nat.add_zero, Nat.mod_mod]
        _ = (s.first + (r.target + (c.toNat - r.first) - s.first)) % s.stride := by
            rw [Nat.add_sub_cancel' h1]
        _ = s.first % s.stride := by
            rw [Nat.add_mod, h3, Nat.add_zero, Nat.mod_mod]
  · omega

end CaseRun

/-- The characters that lower-casing changes: those of the table, and `İ`, which has a lower case of
two characters. -/
def capitalRuns : List CaseRun := ⟨0x130, 0x130, 1, 0x69⟩ :: lowerRuns

theorem lowerRuns_avoid :
    (lowerRuns.all fun r => 90 < r.target && capitalRuns.all fun s => r.avoids s) = true := by
  decide +kernel

theorem capitalRuns_first : (capitalRuns.all fun s => 0 < s.first) = true := by
  decide +kernel

/-! ## Characters in lower case -/

/-- Lower-casing leaves the character alone. A capital sigma has two lower cases. -/
structure IsLower (c : Char) : Prop where
  lowerChar_eq : lowerChar c = [c]
  toLower_eq : c.toLower = c
  ne_sigma : c ≠ 'Σ'

instance (c : Char) : Decidable (IsLower c) :=
  decidable_of_iff (lowerChar c = [c] ∧ c.toLower = c ∧ c ≠ 'Σ')
    ⟨fun ⟨h1, h2, h3⟩ => ⟨h1, h2, h3⟩, fun ⟨h1, h2, h3⟩ => ⟨h1, h2, h3⟩⟩

/-- **The lower cases of the table are in lower case.** -/
theorem isLower_of_lower? {r : CaseRun} (hr : r ∈ lowerRuns) {c d : Char}
    (h : r.lower? c = some d) : IsLower d := by
  have havoid := List.all_eq_true.1 lowerRuns_avoid r hr
  simp only [Bool.and_eq_true, decide_eq_true_eq, List.all_eq_true] at havoid
  obtain ⟨htarget, havoid⟩ := havoid
  have hnone : ∀ s ∈ capitalRuns, s.lower? d = none := by
    intro s hs
    have hfirst := List.all_eq_true.1 capitalRuns_first s hs
    exact CaseRun.lower?_of_avoids (havoid s hs) (by simpa using hfirst) h
  have hself : d.toLower = d := by
    apply toLower_eq_self
    obtain ⟨-, -, rfl⟩ := CaseRun.lower?_eq_some h
    have := toNat_ofNat (r.target + (c.toNat - r.first))
    omega
  refine ⟨?_, hself, ?_⟩
  · unfold lowerChar
    split
    · rw [hself]
    · split
      · rename_i hd
        have := hnone ⟨0x130, 0x130, 1, 0x69⟩ List.mem_cons_self
        rw [hd] at this
        exact absurd this (by decide)
      · rw [List.findSome?_eq_none_iff.2 fun s hs => hnone s (List.mem_cons_of_mem _ hs),
          Option.getD_none]
  · rintro rfl
    exact absurd (hnone ⟨0x3a3, 0x3ab, 1, 0x3c3⟩ (by decide)) (by decide)

theorem isLower_of_mem_lowerChar {c d : Char} (hc : c ≠ 'Σ') (h : d ∈ lowerChar c) :
    IsLower d := by
  have hlower := h
  unfold lowerChar at hlower
  split at hlower
  · rename_i hascii
    have hall : ∀ n < 128, IsLower (Char.ofNat n).toLower := by decide +kernel
    have := hall c.toNat hascii
    rw [Char.ofNat_toNat] at this
    rwa [List.mem_singleton.1 hlower]
  · rename_i hascii
    split at hlower
    · have hboth : IsLower 'i' ∧ IsLower '\u0307' := by decide +kernel
      simp only [List.mem_cons, List.not_mem_nil, or_false] at hlower
      rcases hlower with rfl | rfl
      · exact hboth.1
      · exact hboth.2
    · rename_i hdot
      cases hf : lowerRuns.findSome? (·.lower? c) with
      | none =>
        rw [hf, Option.getD_none, List.mem_singleton] at hlower
        subst hlower
        refine ⟨?_, toLower_eq_self (by omega), hc⟩
        rw [lowerChar, if_neg hascii, if_neg hdot, hf, Option.getD_none]
      | some e =>
        rw [hf, Option.getD_some, List.mem_singleton] at hlower
        obtain ⟨r, hr, he⟩ := List.exists_of_findSome?_eq_some hf
        rw [hlower]
        exact isLower_of_lower? hr he

/-! ## Texts -/

/-- **A lower-cased text is in lower case.** -/
theorem isLower_of_mem_lowerChars {before cs : List Char} {d : Char}
    (h : d ∈ lowerChars before cs) : IsLower d := by
  induction cs generalizing before with
  | nil => simp [lowerChars] at h
  | cons c cs ih =>
    simp only [lowerChars, List.mem_append] at h
    rcases h with h | h
    · split at h
      · have hboth : IsLower 'ς' ∧ IsLower 'σ' := by decide +kernel
        rw [List.mem_singleton.1 h]
        split
        · exact hboth.1
        · exact hboth.2
      · rename_i hc
        exact isLower_of_mem_lowerChar hc h
    · exact ih h

theorem lowerChars_of_isLower {cs : List Char} (h : ∀ c ∈ cs, IsLower c) (before : List Char) :
    lowerChars before cs = cs := by
  induction cs generalizing before with
  | nil => rfl
  | cons c cs ih =>
    have hc := h c List.mem_cons_self
    have hcs := ih (fun d hd => h d (List.mem_cons_of_mem _ hd)) (c :: before)
    simp only [lowerChars, hc.ne_sigma, ↓reduceIte, hc.lowerChar_eq, hcs, List.singleton_append]

theorem lowercase_lowercase (s : String) : lowercase (lowercase s) = lowercase s := by
  unfold lowercase
  rw [String.toList_ofList, lowerChars_of_isLower fun c hc => isLower_of_mem_lowerChars hc]

theorem toLower_lowercase (s : String) : (lowercase s).toLower = lowercase s := by
  rw [← String.toList_inj, toList_toLower, lowercase, String.toList_ofList]
  conv => rhs; rw [← List.map_id (lowerChars [] s.toList)]
  exact List.map_congr_left fun c hc => (isLower_of_mem_lowerChars hc).toLower_eq

/-! ## ASCII letters in lower case beforehand -/

theorem lowerChar_toLower (c : Char) : lowerChar c.toLower = lowerChar c :=
  apply_toLower (by decide +kernel) c

theorem meetsCased_map_toLower (cs : List Char) :
    meetsCased (cs.map Char.toLower) = meetsCased cs := by
  have hcased : ∀ c, inRanges casedRanges c.toLower = inRanges casedRanges c :=
    apply_toLower (by decide +kernel)
  have hignorable : inRanges caseIgnorableRanges ∘ Char.toLower = inRanges caseIgnorableRanges :=
    funext (apply_toLower (by decide +kernel))
  unfold meetsCased
  rw [List.dropWhile_map, hignorable]
  cases cs.dropWhile (inRanges caseIgnorableRanges) with
  | nil => rfl
  | cons c rest => exact hcased c

theorem lowerChars_map_toLower (before cs : List Char) :
    lowerChars (before.map Char.toLower) (cs.map Char.toLower) = lowerChars before cs := by
  induction cs generalizing before with
  | nil => rfl
  | cons c cs ih =>
    have hsigma : (c.toLower = 'Σ') = (c = 'Σ') :=
      apply_toLower (f := (· = 'Σ')) (by decide +kernel) c
    have hmore := ih (c :: before)
    rw [List.map_cons] at hmore
    simp only [List.map_cons, lowerChars, hsigma, lowerChar_toLower, meetsCased_map_toLower, hmore]

theorem lowercase_toLower (s : String) : lowercase s.toLower = lowercase s := by
  unfold lowercase
  rw [toList_toLower]
  exact congrArg String.ofList (lowerChars_map_toLower [] s.toList)

end EmbeddedScripts.Text
