import EmbeddedScripts.Proofs.Slices
import EmbeddedScripts.Proofs.Tags
import EmbeddedScripts.Proofs.Trackers
import EmbeddedScripts.Region

/-!
# The regions of a document

The regions of a document are those of its script elements, each at the offset its content has in
the document and at the position of that offset, found afresh (`scan_eq`): the tracker that all
regions share, and the elements that are passed over, leave no trace in them. From that follow what
a region says of its document (`Region.Faithful`), the order of regions, and which regions a document
has that is written as a series of elements.
-/

namespace EmbeddedScripts

open Markup (Element TagReader)

/-! ## Contents -/

theorem dropBytes?_spaces (n : Nat) (cs : List Char) :
    Text.dropBytes? n (List.replicate n ' ' ++ cs) = some cs := by
  induction n with
  | zero => rw [List.replicate_zero, List.nil_append, Text.dropBytes?.eq_def]
  | succ n ih =>
    rw [List.replicate_succ, List.cons_append, Text.dropBytes?,
      show (' ' : Char).utf8Size = 1 by decide, if_neg (by omega), Nat.add_sub_cancel, ih]

@[simp] theorem Region.content_ofContent (content : List Char) (index : Nat) (pos : LineColumn) :
    (Region.ofContent content index pos).content = String.ofList content := by
  simp [Region.content, Region.ofContent, Text.toList_spaces, dropBytes?_spaces]

/-! ## The regions, one by one -/

/-- The offset of the content of the element `e`, which comes after the first `i` of `es`. -/
def contentOffset (es : List Element) (i : Nat) (e : Element) : Nat :=
  Text.byteLength ((es.take i).flatMap Element.text ++ e.before ++ e.opening)

/-- The region of the element `e`, which comes after the first `i` elements `es` of `text`. -/
def regionAt (text : List Char) (es : List Element) (e : Element) (i : Nat) : Region :=
  .ofContent e.content (contentOffset es i e) (lineColumn text (contentOffset es i e))

theorem regionsOf_eq {config : Config} {reader : TagReader} {tracker : Position.Tracker}
    (h : tracker.Reached) (before es : List Element) :
    regionsOf config reader tracker (Text.byteLength (before.flatMap Element.text)) es =
      ((es.zipIdx before.length).filter fun p => isScriptElement config reader p.1).map
        fun p => regionAt tracker.document (before ++ es) p.1 p.2 := by
  induction es generalizing before tracker with
  | nil => rfl
  | cons e es ih =>
    have hindex : Text.byteLength (before.flatMap Element.text) +
        Text.byteLength (e.before ++ e.opening) =
        contentOffset (before ++ e :: es) before.length e := by
      simp [contentOffset]
    have hnext : contentOffset (before ++ e :: es) before.length e +
        Text.byteLength (e.content ++ e.closing) =
        Text.byteLength ((before ++ [e]).flatMap Element.text) := by
      simp [contentOffset, Element.text, Nat.add_assoc]
    have hmore := fun {t : Position.Tracker} (ht : t.Reached) => ih ht (before ++ [e])
    simp only [List.length_append, List.length_cons, List.length_nil, Nat.zero_add,
      List.append_assoc, List.cons_append, List.nil_append] at hmore
    rw [regionsOf, hindex, hnext, List.zipIdx_cons]
    split
    · rename_i hs
      obtain ⟨hr, hd⟩ := Position.Tracker.reached_advanceTo h
        (contentOffset (before ++ e :: es) before.length e)
      dsimp only
      rw [List.filter_cons, if_pos hs, List.map_cons, hmore hr, hd,
        Position.Tracker.position_advanceTo h]
      rfl
    · rename_i hs
      rw [List.filter_cons, if_neg hs, hmore h]

/-- **The regions of a document** are those of its script elements, each placed on its own. -/
theorem scan_eq (config : Config) (reader : TagReader) (document : String) :
    scan config reader document =
      ((Markup.elements document.toList).zipIdx.filter
        fun p => isScriptElement config reader p.1).map
          fun p => regionAt document.toList (Markup.elements document.toList) p.1 p.2 :=
  regionsOf_eq (Position.Tracker.reached_ofList document.toList) [] _

/-! ## What a region says of its document -/

/-- What a region says of its document is so. -/
structure Region.Faithful (document : String) (r : Region) : Prop where
  /-- The content is the text between the two offsets of the region. -/
  content : Text.Holds document r.index r.stop r.content
  boundaries : Text.IsBoundary document r.index ∧ Text.IsBoundary document r.stop
  bounds : r.index ≤ r.stop ∧ r.stop ≤ document.utf8ByteSize
  source : r.source = Text.spaces r.column ++ r.content
  source_length : r.source.utf8ByteSize = r.column + r.length
  /-- The position is that of the content, found afresh. -/
  position : ⟨r.line, r.column⟩ = lineColumn document.toList r.index
  /-- An opening tag ends where the content begins. -/
  opening : ∃ start tag, Text.Holds document start r.index tag ∧ Markup.IsOpening tag.toList
  /-- A closing tag begins where the content ends. -/
  closing : ∃ stop tag, Text.Holds document r.stop stop tag ∧ Markup.IsClosing tag.toList
  unclosed : ¬ Markup.HasClosing r.content.toList

/-- An element in its text: all before it, its four parts, all after it. -/
theorem elements_split {text : List Char} {e : Element} {i : Nat}
    (h : (Markup.elements text)[i]? = some e) :
    ∃ after, text = ((Markup.elements text).take i).flatMap Element.text ++ e.text ++ after := by
  obtain ⟨-, rest, hr⟩ := Markup.elements_wellFormed text
  obtain ⟨hi, rfl⟩ := List.getElem?_eq_some_iff.1 h
  refine ⟨((Markup.elements text).drop (i + 1)).flatMap Element.text ++ rest, ?_⟩
  rw [← List.append_assoc, ← List.flatMap_singleton Element.text, ← List.flatMap_append,
    ← List.flatMap_append, List.append_assoc, List.singleton_append, List.getElem_cons_drop,
    List.take_append_drop]
  exact hr

theorem regionAt_faithful {document : String} {e : Element} {i : Nat}
    (h : (Markup.elements document.toList)[i]? = some e) :
    (regionAt document.toList (Markup.elements document.toList) e i).Faithful document := by
  have hw := (Markup.elements_wellFormed document.toList).1 e (List.mem_of_getElem? h)
  obtain ⟨after, hd⟩ := elements_split h
  generalize hes : Markup.elements document.toList = es at hd ⊢
  have hcontent : Text.Holds document (contentOffset es i e)
      (contentOffset es i e + Text.byteLength e.content) (String.ofList e.content) := by
    refine ⟨(es.take i).flatMap Element.text ++ e.before ++ e.opening, e.closing ++ after, ?_,
      rfl, ?_⟩
    · rw [hd]
      simp [Element.text]
    · simp [contentOffset]
  exact
    { content := by
        rw [regionAt, Region.content_ofContent]
        exact hcontent
      boundaries := ⟨hcontent.start_boundary, hcontent.stop_boundary⟩
      bounds := ⟨Nat.le_add_right _ _, by
        rw [← Text.byteLength_toList]
        exact hcontent.stop_le⟩
      source := by
        simp [regionAt]
        rfl
      source_length := by
        rw [← Text.byteLength_toList]
        simp [regionAt, Region.ofContent]
      position := rfl
      opening := by
        refine ⟨_, String.ofList e.opening, ⟨(es.take i).flatMap Element.text ++ e.before,
          e.content ++ e.closing ++ after, ?_, rfl, ?_⟩, by simpa using hw.opening⟩
        · rw [hd]
          simp [Element.text]
        · simp [regionAt, Region.ofContent, contentOffset, Nat.add_assoc]
      closing := by
        refine ⟨_, String.ofList e.closing,
          ⟨(es.take i).flatMap Element.text ++ e.before ++ e.opening ++ e.content, after, ?_, ?_,
            rfl⟩, by simpa using hw.closing⟩
        · rw [hd]
          simp [Element.text]
        · simp [regionAt, Region.ofContent, Region.stop, contentOffset, Nat.add_assoc]
      unclosed := by simpa [regionAt] using hw.content }

/-! ## The order of regions -/

theorem regionAt_stop_lt_index {text : List Char} {e : Element} {i j : Nat}
    (hi : (Markup.elements text)[i]? = some e) (f : Element) (hij : i < j) :
    (regionAt text (Markup.elements text) e i).stop <
      (regionAt text (Markup.elements text) f j).index := by
  have hw := (Markup.elements_wellFormed text).1
  obtain ⟨c, hc, -⟩ := (hw e (List.mem_of_getElem? hi)).closing.eq_lt_cons
  generalize Markup.elements text = es at hi
  obtain ⟨hlt, rfl⟩ := List.getElem?_eq_some_iff.1 hi
  -- the elements before the second one are those before the first, the first, and some more
  have hsplit : es.take j = es.take i ++ es[i] :: (es.take j).drop (i + 1) := by
    have := List.take_append_drop i (es.take j)
    rw [List.take_take, Nat.min_eq_left (by omega), List.drop_eq_getElem_cons (by simp; omega),
      List.getElem_take] at this
    exact this.symm
  have hpos : 0 < Text.byteLength es[i].closing := by
    rw [hc, Text.byteLength_cons]
    have := Char.utf8Size_pos '<'
    omega
  simp only [regionAt, Region.ofContent, Region.stop, contentOffset]
  rw [hsplit]
  simp only [List.flatMap_append, List.flatMap_cons, Element.text, Text.byteLength_append]
  omega

theorem scan_pairwise (config : Config) (reader : TagReader) (document : String) :
    (scan config reader document).Pairwise fun r s => r.stop < s.index := by
  rw [scan_eq, List.pairwise_map]
  refine List.Pairwise.filter _ ?_
  have hlt : (Markup.elements document.toList).zipIdx.Pairwise fun p q => p.2 < q.2 := by
    rw [← List.pairwise_map (f := Prod.snd) (R := (· < ·)), List.zipIdx_map_snd]
    exact List.pairwise_lt_range'
  exact hlt.imp_of_mem fun hp _ h =>
    regionAt_stop_lt_index (List.mem_zipIdx_iff_getElem?.1 hp) _ h

theorem scan_faithful {config : Config} {reader : TagReader} {document : String} {r : Region}
    (h : r ∈ scan config reader document) : r.Faithful document := by
  rw [scan_eq, List.mem_map] at h
  obtain ⟨p, hp, rfl⟩ := h
  exact regionAt_faithful (List.mem_zipIdx_iff_getElem?.1 (List.mem_filter.1 hp).1)

/-- **Every region is faithful to its document**, and regions come in order with a gap between
them. -/
theorem scan_regions_faithful (config : Config) (reader : TagReader) (document : String) :
    (∀ r ∈ scan config reader document, r.Faithful document) ∧
      (scan config reader document).Pairwise fun r s => r.stop < s.index :=
  ⟨fun _ h => scan_faithful h, scan_pairwise config reader document⟩

/-! ## Documents written as elements -/

/-- The type that an element declares is accepted, or it declares none. -/
def typeAccepted (config : Config) (reader : TagReader) (e : Element) : Bool :=
  (Markup.declaredType? reader (String.ofList (e.opening ++ e.content ++ e.closing))).all
    config.acceptsType

theorem isScriptElement_eq (config : Config) (reader : TagReader) (e : Element) :
    isScriptElement config reader e = typeAccepted config reader e := by
  unfold isScriptElement typeAccepted
  split
  · rename_i h
    rw [h, Option.all_none]
  · rename_i declared h
    rw [h, Option.all_some]

/-- **A document written as a series of elements** has exactly the regions of those whose type is
accepted, in order, each with its content at its offset. -/
theorem scan_of_elements (config : Config) (reader : TagReader) {es : List Element}
    (hes : ∀ e ∈ es, e.WellFormed) {rest : List Char} (hrest : ¬ Markup.HasOpener rest) :
    (scan config reader (String.ofList (es.flatMap Element.text ++ rest))).map
        (fun r => (r.content, r.index, r.length)) =
      (es.zipIdx.filter fun p => typeAccepted config reader p.1).map fun (e, i) =>
        (String.ofList e.content,
          Text.byteLength ((es.take i).flatMap Element.text ++ e.before ++ e.opening),
          Text.byteLength e.content) := by
  have hel : Markup.elements (String.ofList (es.flatMap Element.text ++ rest)).toList = es := by
    rw [String.toList_ofList, Markup.elements_append hes, Markup.elements_of_not_hasOpener hrest,
      List.append_nil]
  rw [scan_eq, hel, List.map_map]
  simp only [isScriptElement_eq]
  refine List.map_congr_left fun p _ => ?_
  simp only [Function.comp_apply, regionAt, Region.content_ofContent]
  rfl

/-- Three elements: the content of the first ends like a closing tag, the second is passed over for
its type, the third spells its tag with a long s and has an opening tag in its content. -/
def threeElements : List Element :=
  [⟨"é<".toList, "<SCRIPT\ndefer>".toList, "a</script".toList, "</script >".toList⟩,
    ⟨"<scrip".toList, "<script !>".toList, "b".toList, "</script>".toList⟩,
    ⟨[], "<ſcript>".toList, "<script>c".toList, "</Script\u2028>".toList⟩]

/-- Reads a type that is not accepted off every tag with an exclamation mark. -/
def refusingReader : TagReader := fun tag =>
  if tag.toList.contains '!' then some [("type", "Text/Plain")] else none

theorem scan_of_threeElements :
    (∀ e ∈ threeElements, e.WellFormed) ∧ ¬ Markup.HasOpener "<scrip".toList ∧
      (scan {} refusingReader
          (String.ofList (threeElements.flatMap Element.text ++ "<scrip".toList))).map
          (fun r => (r.content, r.index, r.length)) =
        [("a</script", 17, 9), ("<script>c", 71, 9)] := by
  refine ⟨by decide, by decide, ?_⟩
  rw [scan_of_elements {} refusingReader (by decide) (by decide)]
  decide

end EmbeddedScripts
