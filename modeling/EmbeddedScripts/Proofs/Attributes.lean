import EmbeddedScripts.Proofs.TagTrees
import EmbeddedScripts.Proofs.Walks

/-!
# Reading written attributes

* `firstOpening?_eq`: the search for an opening tag finds the first one of the tree in the order of
  the text.
* `readAttribute?_eq`: of the node of an attribute come its name in lower case and its value, however
  that is written.
* `lookup_foldl_add`, `nodup_foldl_add`: in the map each name has the value that it first comes with.
* `readAttributes_written`: so an element reads as it is written.
-/

namespace EmbeddedScripts.Markup

open EmbeddedScripts.Tree

/-! ## The first opening tag -/

/-- What the search notes of a node. -/
theorem state_traverseAll_opening (ps : List Place) :
    (traverseAll (fun found place =>
        if isOpening place.node then (.stop, some place.node) else (.descend, found)) none ps).state =
      ((ps.map Place.node).flatMap nodes).find? isOpening := by
  induction ps using inductPending with
  | nil => rw [traverseAll_nil]; rfl
  | cons p ps _ ih =>
    rw [traverseAll_cons, List.map_cons, List.flatMap_cons, nodes_eq, List.cons_append,
      List.find?_cons]
    cases hp : isOpening p.node with
    | true => rfl
    | false =>
      rw [List.map_append, Place.map_node_children, List.flatMap_append] at ih
      exact ih

/-- **The search for an opening tag** finds the first one in the order of the text. -/
theorem firstOpening?_eq (root : Tree) : firstOpening? root = root.nodes.find? isOpening := by
  rw [firstOpening?, walk_eq, ← traverseAll_singleton]
  refine (state_traverseAll_opening [{ node := root }]).trans ?_
  rw [List.map_singleton, List.flatMap_singleton]

theorem Begins.find?_eq {tag root : Tree} (h : Begins tag root) (htag : isOpening tag = true) :
    root.nodes.find? isOpening = some tag := by
  induction h with
  | self => rw [nodes_eq, List.find?_cons, htag]
  | inside hl _ ih =>
    rw [nodes_eq, List.find?_cons, hl, children, List.flatMap_cons, List.find?_append, ih]
    rfl

/-! ## Attributes -/

section Note

variable {source : String} {d : AttributeDraft} {text : List Char} {t : Tree}

theorem RuleNode.note_name (h : RuleNode source "attribute_name" text t) :
    d.note source t = { d with name := some (Text.lowercase (String.ofList text)) } := by
  rw [AttributeDraft.note, h.kind_eq, h.text_eq]
  rfl

theorem RuleNode.note_value (h : RuleNode source "attribute_value" text t) :
    d.note source t = { d with value := String.ofList text } := by
  rw [AttributeDraft.note, h.kind_eq, h.text_eq]
  rfl

/-- The value is that between the quotes; without a node it is empty. -/
theorem QuotedNode.note_value (h : QuotedNode source text t) :
    d.note source t = { d with value := String.ofList text } := by
  obtain ⟨opening, inner, closing, hchildren, hopening, hclosing, hinner⟩ := h.children
  have hnamed : t.namedChildren = inner.filter (·.named) := by
    rw [namedChildren, hchildren, List.filter_cons_of_neg (by simp [hopening]), List.filter_append,
      List.filter_cons_of_neg (by simp [hclosing]), List.filter_nil, List.append_nil]
  rw [AttributeDraft.note, h.kind_eq]
  simp only [hnamed]
  rcases hinner with ⟨rfl, rfl⟩ | ⟨-, v, rfl, hv⟩
  · rfl
  · have hkind : (v.kind == "attribute_value") = true := beq_iff_eq.2 hv.kind_eq
    rw [List.filter_cons_of_pos hv.named, List.find?_cons, hkind]
    exact congrArg (fun value => { d with value }) hv.text_eq

/-- What follows the name says what the value is. -/
theorem ValueNodes.foldl_note {s : Spelling} {ts : List Tree} (h : ValueNodes source s ts)
    (hd : d.value = "") :
    (ts.filter (·.named)).foldl (AttributeDraft.note source) d =
      { d with value := String.ofList s.value } := by
  cases h with
  | absent =>
    cases d
    cases hd
    rfl
  | plain hsign ht =>
    rw [List.filter_cons_of_neg (by simp [hsign]), List.filter_cons_of_pos ht.named]
    exact ht.note_value
  | quoted hsign ht =>
    rw [List.filter_cons_of_neg (by simp [hsign]), List.filter_cons_of_pos ht.named]
    exact ht.note_value

/-- **An attribute** has its name in lower case and its value, however that is written. -/
theorem readAttribute?_eq {i : Item} (h : AttributeNode source i t) :
    readAttribute? source t = some (i.key, String.ofList i.spelling.value) := by
  obtain ⟨name, value, hchildren, hname, hvalue⟩ := h.children
  rw [readAttribute?, namedChildren, hchildren, List.filter_cons_of_pos hname.named, List.foldl_cons,
    hname.note_name, hvalue.foldl_note rfl]
  rfl

end Note

section Tag

variable {source : String} {items : List Item} {ts : List Tree}
  (h : List.Forall₂ (AttributeNode source) items ts)

include h

theorem kind_of_attributeNodes : ∀ t ∈ ts, t.kind = "attribute" ∧ t.named = true := by
  induction h with
  | nil => simp
  | cons ht _ ih => exact List.forall_mem_cons.2 ⟨⟨ht.kind_eq, ht.named⟩, ih⟩

theorem filterMap_attributeNodes :
    ts.filterMap (readAttribute? source) =
      items.map fun i => (i.key, String.ofList i.spelling.value) := by
  induction h with
  | nil => rfl
  | cons ht _ ih => rw [List.filterMap_cons_some (readAttribute?_eq ht), ih, List.map_cons]

end Tag

/-- **A tag** has its attributes, added one by one. Its name is no attribute, and its ends are not
named. -/
theorem TagNode.attributesOf_eq {source : String} {items : List Item} {tag : Tree}
    (h : TagNode source items tag) :
    attributesOf source tag =
      (items.map fun i => (i.key, String.ofList i.spelling.value)).foldl AttributeMap.add [] := by
  obtain ⟨opening, name, attributes, closing, hchildren, hopening, hname, hclosing, hnodes⟩ :=
    h.children
  have hkind : attributes.filter (fun t => t.kind == "attribute" && t.named) = attributes :=
    List.filter_eq_self.2 fun t ht => by simp [kind_of_attributeNodes hnodes t ht]
  have hfilter : tag.namedChildren.filter (·.kind == "attribute") = attributes := by
    rw [namedChildren, List.filter_filter, hchildren, List.filter_cons_of_neg (by simp [hopening]),
      List.filter_cons_of_neg (by simp [hname]), List.filter_append, hkind,
      List.filter_cons_of_neg (by simp [hclosing]), List.filter_nil, List.append_nil]
  rw [attributesOf, hfilter, filterMap_attributeNodes hnodes]

/-! ## Maps -/

section Add

variable (m : AttributeMap) (a : String × String)

theorem add_of_isSome (h : (m.lookup a.1).isSome = true) : m.add a = m := if_pos h

theorem add_of_eq_none (h : m.lookup a.1 = none) : m.add a = m ++ [a] := if_neg (by simp [h])

theorem lookup_add (key : String) :
    (m.add a).lookup key = (m.lookup key).or (if a.1 == key then some a.2 else none) := by
  cases h : m.lookup a.1 with
  | some value =>
    rw [add_of_isSome m a (by simp [h])]
    split
    · rename_i hkey
      rw [← eq_of_beq hkey, h]
      rfl
    · simp
  | none =>
    rw [add_of_eq_none m a h, List.lookup_append, List.lookup_cons, List.lookup_nil, BEq.comm]
    split
    · rename_i hkey
      rw [if_pos hkey]
    · rename_i hkey
      rw [if_neg (by simp [hkey])]

theorem nodup_add (h : (m.map Prod.fst).Nodup) : ((m.add a).map Prod.fst).Nodup := by
  cases ha : m.lookup a.1 with
  | some value => rwa [add_of_isSome m a (by simp [ha])]
  | none =>
    rw [add_of_eq_none m a ha, List.map_append]
    rw [List.lookup_eq_none_iff] at ha
    refine List.nodup_append.2 ⟨h, by simp, ?_⟩
    intro name hname other hother
    obtain ⟨p, hp, rfl⟩ := List.mem_map.1 hname
    obtain rfl := List.mem_singleton.1 hother
    exact (bne_iff_ne.1 (ha p hp)).symm

end Add

theorem lookup_foldl_add (attributes : List (String × String)) (m : AttributeMap) (key : String) :
    (attributes.foldl AttributeMap.add m).lookup key =
      (m.lookup key).or ((attributes.find? (·.1 == key)).map Prod.snd) := by
  induction attributes generalizing m with
  | nil => simp
  | cons a attributes ih =>
    rw [List.foldl_cons, ih, lookup_add, Option.or_assoc, List.find?_cons]
    cases hkey : a.1 == key with
    | true => simp
    | false => simp

theorem nodup_foldl_add (attributes : List (String × String)) {m : AttributeMap}
    (h : (m.map Prod.fst).Nodup) : ((attributes.foldl AttributeMap.add m).map Prod.fst).Nodup := by
  induction attributes generalizing m with
  | nil => exact h
  | cons a attributes ih => exact ih (nodup_add m a h)

/-- **Attributes are read as they are written**, whatever the content of the element is: each name
in lower case has the value that it is first written with and there are no other names, so the
declared type is the first value of `type`. -/
theorem readAttributes_written {parse : MarkupParser} (hparse : ReadsTags parse) {word : List Char}
    (hword : word.map Char.toLower = "script".toList) {items : List Item}
    (h : ∀ i ∈ items, i.WellFormed) {content : List Char} (hcontent : IsContent content) :
    let source := String.ofList (scriptElement word items content)
    ∃ m, readerOf parse source = some m ∧ (m.map Prod.fst).Nodup ∧
      (∀ key, m.lookup key =
        (items.find? (·.key == key)).map fun i => String.ofList i.spelling.value) ∧
      declaredType? (readerOf parse) source =
        (items.find? (·.key == "type")).map fun i =>
          Text.lowercase (String.ofList i.spelling.value) := by
  intro source
  obtain ⟨root, tag, hroot, hbegins, htag⟩ := hparse word items content hword h hcontent
  have hfirst : firstOpening? root = some tag := by
    rw [firstOpening?_eq]
    exact hbegins.find?_eq (by rw [isOpening, htag.kind_eq]; rfl)
  have hread : readerOf parse source = some ((items.map fun i =>
      (i.key, String.ofList i.spelling.value)).foldl AttributeMap.add []) := by
    rw [readerOf, hroot, Option.bind_eq_bind, Option.bind_some, hfirst, ← htag.attributesOf_eq]
    rfl
  have hlookup : ∀ key, ((items.map fun i =>
      (i.key, String.ofList i.spelling.value)).foldl AttributeMap.add []).lookup key =
      (items.find? (·.key == key)).map fun i => String.ofList i.spelling.value := by
    intro key
    rw [lookup_foldl_add, List.find?_map, Option.map_map]
    rfl
  refine ⟨_, hread, nodup_foldl_add _ List.nodup_nil, hlookup, ?_⟩
  rw [declaredType?, hread, Option.bind_some, hlookup, Option.map_map]
  rfl

/-- The second `type` does not count, nor does what looks like one in a value or in the content. -/
theorem readAttributes_written_repeated :
    let items : List Item :=
      [⟨[' '], "async".toList, .absent⟩, ⟨['\n', ' '], "ÄB".toList, .quoted '"' []⟩,
        ⟨[' '], "TYPE".toList, .quoted '"' "Module".toList⟩,
        ⟨[' '], "type".toList, .plain "text/plain".toList⟩,
        ⟨['\t'], "äb".toList, .quoted '\x27' "><i type=\"b\">".toList⟩]
    let content := "<script type=late>".toList
    let tag := "<ScRiPt async\n ÄB=\"\" TYPE=\"Module\" type=text/plain\täb='><i type=\"b\">'>" ++
      "<script type=late></script>"
    ReadsTags tagTree ∧ "ScRiPt".toList.map Char.toLower = "script".toList ∧
      (∀ i ∈ items, i.WellFormed) ∧ IsContent content ∧
      String.ofList (scriptElement "ScRiPt".toList items content) = tag ∧
      ∃ m, readAttributes tag = some m ∧ (m.map Prod.fst).Nodup ∧
        (∀ key, m.lookup key =
          (items.find? (·.key == key)).map fun i => String.ofList i.spelling.value) ∧
        m.lookup "async" = some "" ∧ m.lookup "äb" = some "" ∧ m.lookup "i" = none ∧
        declaredType? readAttributes tag = some "module" := by
  intro items content tag
  have hword : "ScRiPt".toList.map Char.toLower = "script".toList := by decide
  have hitems : ∀ i ∈ items, i.WellFormed := by decide
  have hcontent : IsContent content := by decide
  have htag : String.ofList (scriptElement "ScRiPt".toList items content) = tag := by decide +kernel
  obtain ⟨m, hread, hnodup, hlookup, htype⟩ :=
    readAttributes_written readsTags_tagTree hword hitems hcontent
  rw [htag] at hread htype
  refine ⟨readsTags_tagTree, hword, hitems, hcontent, htag, m, hread, hnodup, hlookup, ?_, ?_, ?_, ?_⟩
  · rw [hlookup]
    decide +kernel
  · rw [hlookup]
    decide +kernel
  · rw [hlookup]
    decide +kernel
  · refine htype.trans ?_
    decide +kernel

end EmbeddedScripts.Markup
