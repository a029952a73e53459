import EmbeddedScripts.Proofs.Columns
import EmbeddedScripts.Proofs.Lowercase
import EmbeddedScripts.Proofs.Slices
import EmbeddedScripts.Proofs.WrittenTags

/-!
# The trees of written tags

* `text_nodeBetween`: a node between two ends of a source covers what is between them.
* `skipGaps_of_start`, `skipComments_of_start`: nothing is passed over before a name or a value.
* `value?_plain`, `value?_quoted`: each spelling of a value is read into its node, so the attributes of
  a tag are read one by one up to its end (`tagAttributes?_tail`).
* `readsTags_tagTree`: so the tree of a script element begins with its opening tag, as it is written.
-/

namespace EmbeddedScripts.Markup

/-! ## Nodes -/

theorem offset_markBefore {source before rest : List Char} (h : before ++ rest = source) :
    (markBefore source rest).offset = Text.byteLength before := by
  have hbefore : source.take (source.length - rest.length) = before := by
    rw [← h, List.length_append, Nat.add_sub_cancel, List.take_left]
  rw [markBefore, hbefore, Mark.advanceAll_zero]

section NodeBetween

variable {source text rest : List Char} {l : Label} {ts : List Tree}

/-- **A node between two ends of a source** covers what is between them. -/
theorem text_nodeBetween {read : List Char} (h : read ++ rest <:+ source) :
    (nodeBetween source (read ++ rest) rest l ts).text (String.ofList source) =
      String.ofList read := by
  obtain ⟨before, hbefore⟩ := h
  have hstart := offset_markBefore hbefore
  have hstop := offset_markBefore ((List.append_assoc _ _ _).trans hbefore)
  refine Text.Holds.slice_eq ⟨before, rest, ?_, hstart.symm, ?_⟩
  · simp [← hbefore]
  · rw [String.toList_ofList, ← Text.byteLength_append]
    exact hstop.symm

theorem ruleNode_nodeBetween {kind : String} {read : List Char} (h : read ++ rest <:+ source) :
    RuleNode (String.ofList source) kind read (nodeBetween source (read ++ rest) rest { kind } ts) :=
  ⟨rfl, rfl, text_nodeBetween h⟩

end NodeBetween

/-! ## Characters -/

/-- A name or a value may begin with the character: it is neither a blank nor the beginning of a
comment. -/
def Starts (c : Char) : Prop := isTagBlank c = false ∧ c ≠ '<'

theorem isValueChar_of_isNameChar {c : Char} (h : isNameChar c = true) : isValueChar c = true := by
  rw [isNameChar, Bool.and_eq_true] at h
  exact h.1

theorem isValueChar_iff {c : Char} :
    isValueChar c = true ↔ isTagBlank c = false ∧ c ≠ '<' ∧ c ≠ '>' ∧ c ≠ '"' ∧ c ≠ '\x27' ∧
      c ≠ '=' ∧ c ≠ '\x00' := by
  simp [isValueChar, and_assoc]

theorem isTagNameChar_eq_false {c : Char} (h : isTagBlank c = true ∨ c = '>') :
    isTagNameChar c = false := by
  rcases h with h | rfl
  · have hle : c.toNat ≤ 32 := by
      simp only [isTagBlank, Bool.or_eq_true, Bool.and_eq_true, decide_eq_true_eq, beq_iff_eq] at h
      rcases h with ⟨-, h⟩ | rfl
      · exact Nat.le_trans h (by decide)
      · decide
    have hall : ∀ n ≤ 32, isTagNameChar (Char.ofNat n) = false := by decide
    have := hall c.toNat hle
    rwa [Char.ofNat_toNat] at this
  · decide

theorem isTagBlank_of_isTagNameChar {c : Char} (h : isTagNameChar c = true) :
    isTagBlank c = false := by
  cases hb : isTagBlank c with
  | false => rfl
  | true => rw [isTagNameChar_eq_false (.inl hb)] at h; cases h

/-- What comes after the name of a tag or after an attribute ends it. -/
theorem exists_tail_eq {items : List Item} (h : ∀ i ∈ items, i.WellFormed) (rest : List Char) :
    ∃ c cs, tail items rest = c :: cs ∧ (isTagBlank c = true ∨ c = '>') := by
  cases items with
  | nil => exact ⟨'>', rest, rfl, .inr rfl⟩
  | cons i items =>
    have hi := h i List.mem_cons_self
    obtain ⟨c, cs, hc⟩ := List.exists_cons_of_ne_nil hi.gap_ne
    refine ⟨c, cs ++ (i.name ++ i.spelling.text) ++ tail items rest, ?_, .inl ?_⟩
    · simp [tail, Item.text, hc]
    · exact hi.gap_blank c (by simp [hc])

theorem isTagNameChar_tail {items : List Item} (h : ∀ i ∈ items, i.WellFormed)
    (rest : List Char) : ∀ c ∈ (tail items rest).head?, isTagNameChar c = false := by
  obtain ⟨d, ds, hd, hend⟩ := exists_tail_eq h rest
  rw [hd]
  rintro c ⟨⟩
  exact isTagNameChar_eq_false hend

theorem isValueChar_tail {items : List Item} (h : ∀ i ∈ items, i.WellFormed) (rest : List Char) :
    ∀ c ∈ (tail items rest).head?, isValueChar c = false := by
  obtain ⟨d, ds, hd, hend⟩ := exists_tail_eq h rest
  intro c hc
  rw [hd, List.head?_cons, Option.mem_some_iff] at hc
  subst hc
  rcases hend with hb | rfl
  · simp [isValueChar, hb]
  · decide

/-! ## Gaps -/

theorem afterComment?_eq_none {text : List Char} (h : ∀ rest, text ≠ '<' :: '!' :: rest) :
    afterComment? text = none := by
  unfold afterComment?
  split
  · exact absurd rfl (h _)
  · rfl

theorem Starts.afterComment?_eq_none {c : Char} (h : Starts c) (cs : List Char) :
    afterComment? (c :: cs) = none :=
  Markup.afterComment?_eq_none (by simp [h.2])

theorem skipGaps_of_start {c : Char} (h : Starts c) (cs : List Char) :
    skipGaps (c :: cs) = c :: cs := by
  rw [skipGaps, if_neg (by simp [h.1])]
  split
  · rename_i heq
    rw [h.afterComment?_eq_none] at heq
    cases heq
  · rfl

theorem skipGaps_append {gap : List Char} (h : ∀ c ∈ gap, isTagBlank c = true) (text : List Char) :
    skipGaps (gap ++ text) = skipGaps text := by
  induction gap with
  | nil => rfl
  | cons c gap ih =>
    rw [List.cons_append, skipGaps, if_pos (h c List.mem_cons_self)]
    exact ih fun d hd => h d (List.mem_cons_of_mem _ hd)

theorem skipComments_of_start {c : Char} (h : Starts c) (cs : List Char) :
    skipComments (c :: cs) = c :: cs := by
  have hblank : (c :: cs).dropWhile isTagBlank = c :: cs :=
    List.dropWhile_cons_of_neg (by simp [h.1])
  rw [skipComments]
  split
  · rename_i heq
    rw [hblank, h.afterComment?_eq_none] at heq
    cases heq
  · rfl

/-! ## Values -/

theorem value?_of_skipGaps (source : List Char) {text cs : List Char} {c : Char}
    (h : skipGaps text = c :: cs) :
    value? source text =
      if c = '"' ∨ c = '\x27' then quotedValue? source c cs
      else if c = '=' then value? source cs
      else
        let rest := (c :: cs).dropWhile isValueChar
        some (valueNode source (c :: cs) rest, rest) := by
  rw [value?]
  split
  · rename_i hnil
    rw [h] at hnil
    cases hnil
  · rename_i d ds hd
    rw [h] at hd
    cases hd
    rfl

theorem value?_plain (source : List Char) {value more : List Char} (hne : value ≠ [])
    (hvalue : ∀ c ∈ value, isValueChar c = true)
    (hmore : ∀ c ∈ more.head?, isValueChar c = false) :
    value? source (value ++ more) = some (valueNode source (value ++ more) more, more) := by
  obtain ⟨c, cs, rfl⟩ := List.exists_cons_of_ne_nil hne
  obtain ⟨hb, hlt, -, hquote, hquote', heq, -⟩ := isValueChar_iff.1 (hvalue c List.mem_cons_self)
  have hgaps := skipGaps_of_start ⟨hb, hlt⟩ (cs ++ more)
  obtain ⟨-, hdrop⟩ := Text.span_exact hvalue hmore
  rw [List.cons_append] at hdrop ⊢
  rw [value?_of_skipGaps source hgaps, if_neg (by simp [hquote, hquote']), if_neg heq]
  simp only [hdrop]

section Quoted

variable {quote : Char} (hquote : quote = '"' ∨ quote = '\x27') {value : List Char}
  (hfree : quote ∉ value) (hnull : '\x00' ∉ value) (hstart : ∀ c ∈ value.head?, Starts c)

include hquote in
theorem starts_quote : Starts quote := by
  rcases hquote with rfl | rfl
  · exact ⟨by decide, by decide⟩
  · exact ⟨by decide, by decide⟩

include hfree hnull

/-- A value in quotes ends at the quote. -/
theorem dropWhile_quoted (more : List Char) :
    (value ++ quote :: more).dropWhile (· != quote) = quote :: more ∧
      ((value ++ quote :: more).dropWhile fun c => c != quote && c != '\x00') = quote :: more := by
  have hne : ∀ c ∈ value, (c != quote) = true := by
    intro c hc
    rw [bne_iff_ne]
    rintro rfl
    exact hfree hc
  have hne' : ∀ c ∈ value, (c != quote && c != '\x00') = true := by
    intro c hc
    have hc0 : (c != '\x00') = true := by
      rw [bne_iff_ne]
      rintro rfl
      exact hnull hc
    rw [hne c hc, hc0, Bool.and_self]
  exact ⟨(Text.span_exact hne (by simp)).2, (Text.span_exact hne' (by simp)).2⟩

include hquote hstart

theorem value?_quoted {source more : List Char}
    (hsource : quote :: (value ++ quote :: more) <:+ source) :
    ∃ t, value? source (quote :: (value ++ quote :: more)) = some (t, more) ∧
      QuotedNode (String.ofList source) value t := by
  have hq := starts_quote hquote
  have hgaps := skipGaps_of_start hq (value ++ quote :: more)
  have hcomments : skipComments (value ++ quote :: more) = value ++ quote :: more := by
    cases value with
    | nil => exact skipComments_of_start hq more
    | cons c cs => exact skipComments_of_start (hstart c rfl) (cs ++ quote :: more)
  obtain ⟨hdrop, hdrop'⟩ := dropWhile_quoted hfree hnull more
  rw [value?_of_skipGaps source hgaps, if_pos hquote, quotedValue?, hcomments]
  simp only [hdrop, hdrop']
  refine ⟨_, rfl, rfl, rfl, _, _, _, rfl, rfl, rfl, ?_⟩
  have hinner : value ++ quote :: more <:+ source :=
    (List.suffix_cons quote _).trans hsource
  cases value with
  | nil => exact .inl ⟨rfl, if_neg (by simp)⟩
  | cons c cs =>
    have hlt : (quote :: more).length < (c :: cs ++ quote :: more).length := by
      simp only [List.length_append, List.length_cons]
      omega
    exact .inr ⟨by simp, _, if_pos hlt, ruleNode_nodeBetween hinner⟩

end Quoted

/-! ## Tags -/

theorem skipGaps_skipGaps (text : List Char) : skipGaps (skipGaps text) = skipGaps text := by
  fun_induction skipGaps text with
  | case1 => rw [skipGaps]
  | case2 _ _ _ ih => exact ih
  | case3 _ _ _ _ _ ih => exact ih
  | case4 c cs hb hc =>
    rw [skipGaps, if_neg hb]
    split
    · rename_i heq
      rw [hc] at heq
      cases heq
    · rfl

theorem tagAttributes?_congr {text text' : List Char} (h : skipGaps text = skipGaps text')
    (source : List Char) (raw : Bool) :
    tagAttributes? source raw text = tagAttributes? source raw text' := by
  rw [tagAttributes?.eq_def, tagAttributes?.eq_def source raw text', h]

theorem tagAttributes?_of_skipGaps (source : List Char) (raw : Bool) {text cs : List Char}
    {c : Char} (h : skipGaps text = c :: cs) :
    tagAttributes? source raw text =
      if c = '>' then some ([], cs)
      else if isNameChar c then
        let afterName := (c :: cs).dropWhile isNameChar
        match skipGaps afterName with
        | '=' :: more =>
          (value? source more).bind fun (value, rest) =>
            let t := attributeNode source (c :: cs) afterName rest [signNode source more, value]
            (tagAttributes? source raw rest).map fun (ts, after) => (t :: ts, after)
        | rest =>
          let t := attributeNode source (c :: cs) afterName afterName []
          (tagAttributes? source raw rest).map fun (ts, after) => (t :: ts, after)
      else (afterTag? raw (c :: cs)).map ([], ·) := by
  rw [tagAttributes?]
  split
  · rename_i hnil
    rw [h] at hnil
    cases hnil
  · rename_i d ds hd
    rw [h] at hd
    cases hd
    congr 1
    split
    · dsimp only
      split
      · rename_i rest hrest
        rw [hrest]
        split
        · rename_i hv
          simp [hv]
        · rename_i hv
          simp [hv]
      · rename_i hrest
        split
        · rename_i heq
          exact absurd heq (hrest _)
        · rfl
    · rfl

theorem tagAttributes?_end (source : List Char) (raw : Bool) (rest : List Char) :
    tagAttributes? source raw ('>' :: rest) = some ([], rest) := by
  rw [tagAttributes?_of_skipGaps source raw (skipGaps_of_start ⟨by decide, by decide⟩ rest),
    if_pos rfl]

section Named

variable {name : List Char} (hne : name ≠ []) (hname : ∀ c ∈ name, isNameChar c = true)
  (source : List Char) (raw : Bool)

include hne hname

/-- A name is read whole, and then the value after it if an equals sign follows. -/
theorem tagAttributes?_name {more : List Char}
    (hmore : ∀ c ∈ more.head?, isNameChar c = false) :
    tagAttributes? source raw (name ++ more) =
      match skipGaps more with
      | '=' :: rest =>
        (value? source rest).bind fun (value, after) =>
          let t := attributeNode source (name ++ more) more after [signNode source rest, value]
          (tagAttributes? source raw after).map fun (ts, after) => (t :: ts, after)
      | rest =>
        let t := attributeNode source (name ++ more) more more []
        (tagAttributes? source raw rest).map fun (ts, after) => (t :: ts, after) := by
  obtain ⟨c, cs, rfl⟩ := List.exists_cons_of_ne_nil hne
  have hc := hname c List.mem_cons_self
  obtain ⟨hb, hlt, hgt, -⟩ := isValueChar_iff.1 (isValueChar_of_isNameChar hc)
  have hgaps := skipGaps_of_start ⟨hb, hlt⟩ (cs ++ more)
  obtain ⟨-, hdrop⟩ := Text.span_exact hname hmore
  rw [List.cons_append] at hdrop ⊢
  rw [tagAttributes?_of_skipGaps source raw hgaps, if_neg hgt, if_pos hc, hdrop]

theorem tagAttributes?_alone {more : List Char} (hmore : ∀ c ∈ more.head?, isNameChar c = false)
    (hnext : ∀ rest, skipGaps more ≠ '=' :: rest) :
    tagAttributes? source raw (name ++ more) =
      (tagAttributes? source raw more).map fun (ts, after) =>
        (attributeNode source (name ++ more) more more [] :: ts, after) := by
  rw [tagAttributes?_name hne hname source raw hmore]
  split
  · rename_i rest heq
    exact absurd heq (hnext rest)
  · rw [tagAttributes?_congr (skipGaps_skipGaps more)]

theorem tagAttributes?_valued {t : Tree} {more rest : List Char}
    (hvalue : value? source more = some (t, rest)) :
    tagAttributes? source raw (name ++ '=' :: more) =
      (tagAttributes? source raw rest).map fun (ts, after) =>
        (attributeNode source (name ++ '=' :: more) ('=' :: more) rest [signNode source more, t] ::
          ts, after) := by
  have hmore : ∀ c ∈ ('=' :: more).head?, isNameChar c = false := by
    rintro c ⟨⟩
    decide
  rw [tagAttributes?_name hne hname source raw hmore, skipGaps_of_start ⟨by decide, by decide⟩]
  simp only [hvalue, Option.bind_some]

end Named

theorem tail_cons (i : Item) (items : List Item) (rest : List Char) :
    tail (i :: items) rest = i.gap ++ (i.name ++ (i.spelling.text ++ tail items rest)) := by
  simp [tail, Item.text]

/-- After an attribute comes a name or the end of the tag. -/
theorem skipGaps_tail_ne {items : List Item} (h : ∀ i ∈ items, i.WellFormed)
    (rest more : List Char) : skipGaps (tail items rest) ≠ '=' :: more := by
  cases items with
  | nil =>
    rw [tail, List.flatMap_nil, List.nil_append, skipGaps_of_start ⟨by decide, by decide⟩]
    simp
  | cons i items =>
    have hi := h i List.mem_cons_self
    obtain ⟨c, cs, hc⟩ := List.exists_cons_of_ne_nil hi.name_ne
    have hchar := hi.name_chars c (by simp [hc])
    obtain ⟨hb, hlt, -, -, -, heq, -⟩ := isValueChar_iff.1 (isValueChar_of_isNameChar hchar)
    rw [tail_cons, skipGaps_append hi.gap_blank, hc, List.cons_append,
      skipGaps_of_start ⟨hb, hlt⟩]
    simp [heq]

/-- The value of an attribute is read into its nodes, and the attribute is read before what comes
next. -/
theorem tagAttributes?_item {i : Item} (hi : i.WellFormed) {items : List Item}
    (hitems : ∀ j ∈ items, j.WellFormed) {source rest : List Char} (raw : Bool)
    (hsource : i.name ++ (i.spelling.text ++ tail items rest) <:+ source) :
    ∃ t, AttributeNode (String.ofList source) i t ∧
      tagAttributes? source raw (i.name ++ (i.spelling.text ++ tail items rest)) =
        (tagAttributes? source raw (tail items rest)).map fun (ts, after) => (t :: ts, after) := by
  have hend := isValueChar_tail hitems rest
  obtain ⟨gap, name, spelling⟩ := i
  have hspelling : spelling.WellFormed := hi.spelling
  have hmore : spelling.text ++ tail items rest <:+ source := (List.suffix_append _ _).trans hsource
  have hname := @ruleNode_nodeBetween source _ [] "attribute_name" name hsource
  cases spelling with
  | absent =>
    -- the search for an equals sign passes over the blanks before the next attribute
    have hnext : ∀ c ∈ (tail items rest).head?, isNameChar c = false := by
      intro c hc
      simp [isNameChar, hend c hc]
    exact ⟨_, ⟨rfl, rfl, _, _, rfl, hname, .absent⟩,
      tagAttributes?_alone hi.name_ne hi.name_chars source raw hnext (skipGaps_tail_ne hitems rest)⟩
  | plain value =>
    have hvalue : value ++ tail items rest <:+ source := (List.suffix_cons '=' _).trans hmore
    have hread := value?_plain source hspelling.1 hspelling.2 hend
    exact ⟨_, ⟨rfl, rfl, _, _, rfl, hname, .plain rfl (ruleNode_nodeBetween hvalue)⟩,
      tagAttributes?_valued hi.name_ne hi.name_chars source raw hread⟩
  | quoted quote value =>
    obtain ⟨hquote, hfree, hnull, hstart⟩ := hspelling
    simp only [Spelling.text, List.cons_append, List.append_assoc, List.nil_append] at hmore hname ⊢
    obtain ⟨t, hread, ht⟩ := value?_quoted hquote hfree hnull hstart
      ((List.suffix_cons '=' _).trans hmore)
    exact ⟨_, ⟨rfl, rfl, _, _, rfl, hname, .quoted rfl ht⟩,
      tagAttributes?_valued hi.name_ne hi.name_chars source raw hread⟩

/-- **Reading attributes**: those of a tag are read one by one up to its end. -/
theorem tagAttributes?_tail {items : List Item} (h : ∀ i ∈ items, i.WellFormed)
    {source rest : List Char} (raw : Bool) (hsource : tail items rest <:+ source) :
    ∃ ts, tagAttributes? source raw (tail items rest) = some (ts, rest) ∧
      List.Forall₂ (AttributeNode (String.ofList source)) items ts := by
  induction items with
  | nil => exact ⟨[], tagAttributes?_end source raw rest, .nil⟩
  | cons i items ih =>
    have hitems : ∀ j ∈ items, j.WellFormed := fun j hj => h j (List.mem_cons_of_mem _ hj)
    have hi := h i List.mem_cons_self
    rw [tail_cons] at hsource ⊢
    have hname := (List.suffix_append i.gap _).trans hsource
    have htail := (List.suffix_append i.spelling.text _).trans ((List.suffix_append i.name _).trans hname)
    obtain ⟨ts, hread, hnodes⟩ := ih hitems htail
    obtain ⟨t, ht, hitem⟩ := tagAttributes?_item hi hitems raw hname
    refine ⟨t :: ts, ?_, .cons ht hnodes⟩
    rw [tagAttributes?_congr (skipGaps_append hi.gap_blank _), hitem, hread, Option.map_some]

theorem isTagNameChar_toLower (c : Char) : isTagNameChar c.toLower = isTagNameChar c :=
  Text.apply_toLower (by decide) c

theorem afterDoctype?_eq_none {text : List Char} (h : ∀ rest, text ≠ '!' :: rest) :
    afterDoctype? text = none := by
  unfold afterDoctype?
  split
  · exact absurd rfl (h _)
  · rfl

/-- The element of a tag with a name is made of what is read of the tag. -/
theorem firstElementNode?_of_name (source : List Char) {name more : List Char} (hne : name ≠ [])
    (hname : ∀ c ∈ name, isTagNameChar c = true)
    (hmore : ∀ c ∈ more.head?, isTagNameChar c = false) :
    firstElementNode? source ('<' :: (name ++ more)) =
      (tagAttributes? source (elementKind name != "element") more).map fun (attributes, after) =>
        elementNode source ('<' :: (name ++ more)) (name ++ more) more attributes after := by
  obtain ⟨htake, hdrop⟩ := Text.span_exact hname hmore
  obtain ⟨c, cs, rfl⟩ := List.exists_cons_of_ne_nil hne
  have hc := hname c List.mem_cons_self
  have hmark : c ≠ '!' := by rintro rfl; cases hc
  have hstart : Starts c := ⟨isTagBlank_of_isTagNameChar hc, by rintro rfl; cases hc⟩
  rw [List.cons_append] at htake hdrop ⊢
  rw [firstElementNode?, if_pos rfl]
  split
  · rename_i hcomment
    rw [afterComment?_eq_none (by simp [hmark])] at hcomment
    cases hcomment
  · split
    · rename_i hdoc
      rw [afterDoctype?_eq_none (by simp [hmark])] at hdoc
      cases hdoc
    · have hlt : more.length < (c :: (cs ++ more)).length := by
        simp only [List.length_cons, List.length_append]
        omega
      simp only [skipGaps_of_start hstart, htake, hdrop]
      rw [if_pos hlt]

theorem isTagNameChar_of_script {word : List Char} (h : word.map Char.toLower = "script".toList) :
    ∀ c ∈ word, isTagNameChar c = true := by
  intro c hc
  have hmem : c.toLower ∈ "script".toList := by
    rw [← h]
    exact List.mem_map_of_mem hc
  have hall : "script".toList.all isTagNameChar = true := by decide
  rw [← isTagNameChar_toLower]
  exact List.all_eq_true.1 hall _ hmem

theorem isOpening_elementKind {name : List Char} {start stop : Mark} {ts : List Tree} :
    isOpening (.node { kind := elementKind name } start stop ts) = false := by
  simp only [isOpening, Tree.kind, Tree.label, elementKind]
  split
  · rfl
  · split
    · rfl
    · rfl

/-- An element begins with its tag, whatever its kind and its content. -/
theorem begins_elementNode {source : List Char} {items : List Item} {attributes : List Tree}
    (h : List.Forall₂ (AttributeNode (String.ofList source)) items attributes)
    (text name afterName after : List Char) :
    ∃ tag, Begins tag (elementNode source text name afterName attributes after) ∧
      TagNode (String.ofList source) items tag :=
  ⟨_, .inside isOpening_elementKind .self, rfl, _, _, _, _, rfl, rfl, rfl, rfl, h⟩

theorem Begins.document {tag element : Tree} (h : Begins tag element) {source text : List Char} :
    Begins tag (nodeBetween source text [] { kind := "document" } [element]) :=
  .inside rfl h

/-- **The tree of a script element begins with its opening tag**, as it is written. -/
theorem readsTags_tagTree : ReadsTags tagTree := by
  intro word items content hword h _ source
  have hne : word ≠ [] := by
    rintro rfl
    cases hword
  -- what comes after the name of the tag
  let more := tail items (content ++ "</script>".toList)
  have hmore : more <:+ scriptElement word items content :=
    (List.suffix_append word _).trans (List.suffix_cons '<' _)
  obtain ⟨attributes, hread, hnodes⟩ := tagAttributes?_tail h (elementKind word != "element") hmore
  have hfirst := firstElementNode?_of_name (scriptElement word items content) hne
    (isTagNameChar_of_script hword) (isTagNameChar_tail h (content ++ "</script>".toList))
  rw [hread, Option.map_some] at hfirst
  have hroot : tagTree source = _ :=
    congrArg (Option.map _) ((congrArg (fun text => firstElementNode? text text)
      String.toList_ofList).trans hfirst)
  obtain ⟨tag, hbegins, htag⟩ := begins_elementNode hnodes (scriptElement word items content)
    (word ++ more) more (content ++ "</script>".toList)
  exact ⟨_, tag, hroot, hbegins.document, htag⟩

end EmbeddedScripts.Markup
