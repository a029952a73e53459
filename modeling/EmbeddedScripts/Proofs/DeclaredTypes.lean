import EmbeddedScripts.Markup.TagTree
import EmbeddedScripts.Proofs.Lowercase
import EmbeddedScripts.Proofs.Regions

/-!
# Which declared types are kept

The type that a tag declares is put in lower case. Accepted types are taken as they are written, and
compared with it without regard to the case of ASCII letters only.

* `mem_scan_iff`: an element has a region in the scan if and only if its type is accepted.
* `acceptsType_lowercase_iff`: an accepted type matches every declared type with the same lower case,
  provided that its own lower case differs from it in ASCII letters only; otherwise it matches none.
* `scan_declared_iff` says so of the regions of a document, and `scan_refuses_own_spelling` that a tag
  may be refused though its type is spelled as an accepted one.
-/

namespace EmbeddedScripts

/-! ## Comparing types -/

theorem Text.lowercase_ne_empty {s : String} (h : s ≠ "") : lowercase s ≠ "" := by
  have hne : s.toList ≠ [] := mt String.toList_eq_nil_iff.1 h
  obtain ⟨c, cs, hs⟩ := List.exists_cons_of_ne_nil hne
  intro hempty
  have hnil := congrArg String.toList hempty
  rw [lowercase, String.toList_ofList, hs] at hnil
  simp only [lowerChars, String.toList_empty, List.append_eq_nil_iff] at hnil
  obtain ⟨hc, -⟩ := hnil
  split at hc
  · cases hc
  · unfold lowerChar at hc
    split at hc
    · cases hc
    · split at hc
      · cases hc
      · cases hc

namespace Config

theorem sameType_iff {s t : String} : sameType s t = true ↔ s.toLower = t.toLower := by
  rw [sameType, beq_iff_eq, ← String.toList_inj, Text.toList_toLower, Text.toList_toLower]

/-- An accepted type matches a declared one in lower case if and only if they have the same lower case
and that of the accepted type is a matter of ASCII letters. -/
theorem sameType_lowercase_iff {t declared : String} :
    sameType t (Text.lowercase declared) = true ↔
      Text.lowercase t = Text.lowercase declared ∧ Text.lowercase t = t.toLower := by
  rw [sameType_iff, Text.toLower_lowercase]
  constructor
  · intro h
    have hlower : Text.lowercase t = Text.lowercase declared := by
      rw [← Text.lowercase_toLower, h, Text.lowercase_lowercase]
    exact ⟨hlower, hlower.trans h.symm⟩
  · rintro ⟨hlower, htype⟩
    rw [← htype, hlower]

theorem acceptsType_lowercase_iff {config : Config} {declared : String} (h : declared ≠ "") :
    config.acceptsType (Text.lowercase declared) = true ↔
      ∃ t ∈ config.scriptTypes, Text.lowercase t = Text.lowercase declared ∧
        Text.lowercase t = t.toLower := by
  have hne : (Text.lowercase declared).isEmpty = false := by
    simpa using Text.lowercase_ne_empty h
  simp only [acceptsType, hne, Bool.false_or, List.any_eq_true, sameType_lowercase_iff]

end Config

/-! ## Regions of elements -/

open Markup (Element TagReader)

/-- The regions of two elements are told apart by their places. -/
theorem regionAt_inj {text : List Char} {e f : Element} {i j : Nat}
    (hi : (Markup.elements text)[i]? = some e) (hj : (Markup.elements text)[j]? = some f)
    (h : regionAt text (Markup.elements text) e i = regionAt text (Markup.elements text) f j) :
    i = j := by
  have hle : ∀ r : Region, r.index ≤ r.stop := fun r => Nat.le_add_right _ _
  rcases Nat.lt_trichotomy i j with hlt | heq | hgt
  · have hstop := regionAt_stop_lt_index hi f hlt
    rw [h] at hstop
    exact absurd (hle _) (Nat.not_le_of_lt hstop)
  · exact heq
  · have hstop := regionAt_stop_lt_index hj e hgt
    rw [h] at hstop
    exact absurd (hle _) (Nat.not_le_of_lt hstop)

/-- **An element has a region in the scan** if and only if its type is accepted. -/
theorem mem_scan_iff {config : Config} {reader : TagReader} {document : String} {e : Element}
    {i : Nat} (he : (Markup.elements document.toList)[i]? = some e) :
    regionAt document.toList (Markup.elements document.toList) e i ∈ scan config reader document ↔
      isScriptElement config reader e = true := by
  simp only [scan_eq, List.mem_map, List.mem_filter]
  constructor
  · rintro ⟨⟨f, j⟩, ⟨hf, hscript⟩, hregion⟩
    have hf := List.mem_zipIdx_iff_getElem?.1 hf
    obtain rfl := regionAt_inj hf he hregion
    rw [he] at hf
    cases hf
    exact hscript
  · intro hscript
    exact ⟨(e, i), ⟨List.mem_zipIdx_iff_getElem?.2 he, hscript⟩, rfl⟩

/-- **An element that declares a type is kept** if and only if an accepted type has the same lower
case, and has its lower case by ASCII letters alone. -/
theorem scan_declared_iff (config : Config) (reader : TagReader) {document : String} {e : Element}
    {i : Nat} (he : (Markup.elements document.toList)[i]? = some e)
    {attributes : Markup.AttributeMap} {declared : String}
    (hread : reader (String.ofList (e.opening ++ e.content ++ e.closing)) = some attributes)
    (htype : attributes.lookup "type" = some declared) (hne : declared ≠ "") :
    regionAt document.toList (Markup.elements document.toList) e i ∈ scan config reader document ↔
      ∃ t ∈ config.scriptTypes, Text.lowercase t = Text.lowercase declared ∧
        Text.lowercase t = t.toLower := by
  have hdeclared : Markup.declaredType? reader (String.ofList (e.opening ++ e.content ++ e.closing)) =
      some (Text.lowercase declared) := by
    rw [Markup.declaredType?, hread, Option.bind_some, htype, Option.map_some]
  rw [mem_scan_iff he, isScriptElement, hdeclared]
  exact Config.acceptsType_lowercase_iff hne

/-- Of two elements with a type in capital letters the second is kept: its type is accepted in a
spelling that leaves only ASCII letters to lower-case. -/
theorem scan_declared_iff_accented :
    let config : Config := { scriptTypes := ["É", "TEXT/é"] }
    let document := "<script type=É>a</script><script type='Text/É'>b</script>"
    let e : Element :=
      ⟨[], "<script type='Text/É'>".toList, ['b'], "</script>".toList⟩
    (Markup.elements document.toList)[1]? = some e ∧
      Markup.readAttributes (String.ofList (e.opening ++ e.content ++ e.closing)) =
        some [("type", "Text/É")] ∧
      (scan config Markup.readAttributes document).map (·.content) = ["b"] ∧
      (regionAt document.toList (Markup.elements document.toList) e 1 ∈
          scan config Markup.readAttributes document ↔
        ∃ t ∈ config.scriptTypes, Text.lowercase t = Text.lowercase "Text/É" ∧
          Text.lowercase t = t.toLower) := by
  intro config document e
  have he : (Markup.elements document.toList)[1]? = some e := by decide +kernel
  have hread : Markup.readAttributes (String.ofList (e.opening ++ e.content ++ e.closing)) =
      some [("type", "Text/É")] := by decide +kernel
  refine ⟨he, hread, by decide +kernel, ?_⟩
  exact scan_declared_iff config Markup.readAttributes he hread (by decide) (by decide)

/-- A tag is refused though its type is spelled just as the one accepted type. -/
theorem scan_refuses_own_spelling :
    let config : Config := { scriptTypes := ["É"] }
    let document := "<script type=\"É\">a</script>"
    (Markup.elements document.toList).map (fun e =>
        (Markup.readAttributes (String.ofList (e.opening ++ e.content ++ e.closing))).bind
          (·.lookup "type")) = [some "É"] ∧
      (∃ t ∈ config.scriptTypes, Text.lowercase t = Text.lowercase "É") ∧
      scan config Markup.readAttributes document = [] := by
  decide +kernel

end EmbeddedScripts
