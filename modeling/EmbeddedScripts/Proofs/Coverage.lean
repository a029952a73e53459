import EmbeddedScripts.Proofs.Flattening
import EmbeddedScripts.Script.Parse
import EmbeddedScripts.Text.Blank
import Mathlib.Data.List.Flatten
import Mathlib.Data.List.Pairwise

/-!
# Tokens and comments lose nothing of the text

* `Tree.leaves`: the nodes without children. Those below the tokens and comments of a tree are leaves
  of the tree, in the same order (`leaves_lexicalTrees_sublist`), and none with text is missing
  (`exists_lexicalTree`).
* `mem_lexicalTrees`, `exists_open_occurrence`: a leaf with text, a literal or a comment that is not
  inside a literal or comment is a token or comment itself, and nothing else is.
* `Covers blank source root`: the leaves of the tree follow each other and leave only characters
  uncovered that are `blank`, and a mark opens each comment and literal, so none of them is empty
  (`Covers.has_text`). So tokens and comments follow each other too (`Covers.successive`), and every
  other character is in one of them (`Covers.exists_covering`).
* `readTree_lossless`: nothing is lost, and nothing is there twice (`Lossless`).
-/

namespace EmbeddedScripts

/-! ## Leaves -/

namespace Tree

/-- The nodes without children, in the order of the text. -/
def leaves (t : Tree) : List Tree := t.nodes.filter (·.children.isEmpty)

variable {t : Tree}

theorem leaves_of_isEmpty (h : t.children.isEmpty) : t.leaves = [t] := by
  simp [leaves, nodes_eq, List.isEmpty_iff.1 h]

theorem leaves_of_not_isEmpty (h : ¬ t.children.isEmpty) :
    t.leaves = t.children.flatMap leaves := by
  have hmore := @List.filter_cons_of_neg Tree (·.children.isEmpty) t (t.children.flatMap nodes) h
  rw [leaves, nodes_eq, hmore, List.filter_flatMap]
  rfl

/-- The node reaches from the first of its leaves to the last. -/
structure Bounded (t : Tree) : Prop where
  inside : ∀ l ∈ t.leaves, t.start.offset ≤ l.start.offset ∧ l.stop.offset ≤ t.stop.offset
  first : ∃ l ∈ t.leaves, l.start.offset = t.start.offset
  last : ∃ l ∈ t.leaves, l.stop.offset = t.stop.offset

instance (t : Tree) : Decidable t.Bounded :=
  decidable_of_iff
    ((∀ l ∈ t.leaves, t.start.offset ≤ l.start.offset ∧ l.stop.offset ≤ t.stop.offset) ∧
      (∃ l ∈ t.leaves, l.start.offset = t.start.offset) ∧
      ∃ l ∈ t.leaves, l.stop.offset = t.stop.offset)
    ⟨fun ⟨hinside, hfirst, hlast⟩ => ⟨hinside, hfirst, hlast⟩,
      fun ⟨hinside, hfirst, hlast⟩ => ⟨hinside, hfirst, hlast⟩⟩

theorem Bounded.of_leaf (h : t.children.isEmpty) : t.Bounded := by
  refine ⟨?_, ?_, ?_⟩
  all_goals simp [leaves_of_isEmpty h]

end Tree

namespace Script

/-- The leaves of tokens and comments are leaves of their tree. -/
theorem leaves_lexicalTrees_sublist (root : Tree) :
    ((lexicalTrees root).flatMap Tree.leaves).Sublist root.leaves := by
  induction root using Tree.induct with
  | step root ih =>
    rw [lexicalTrees_eq]
    split
    · simp
    · split
      · split
        · simp
        · simp
      · rename_i hl
        rw [Tree.leaves_of_not_isEmpty fun h => hl (by simp [h]), List.flatMap_assoc]
        exact List.Sublist.flatMap_right _ ih

/-- **No leaf with text is lost**: it is in some token or comment. -/
theorem exists_lexicalTree {root l : Tree}
    (hatomic : ∀ t ∈ root.nodes, isAtomic t → t.start.offset < t.stop.offset)
    (hl : l ∈ root.leaves) (hlt : l.start.offset < l.stop.offset) :
    ∃ u ∈ lexicalTrees root, l ∈ u.leaves := by
  induction root using Tree.induct with
  | step root ih =>
    rw [lexicalTrees_eq]
    split
    · exact ⟨root, List.mem_singleton_self _, hl⟩
    · split
      · rename_i hcut
        have hroot : root.start.offset < root.stop.offset := by
          rcases Bool.or_eq_true_iff.1 hcut with he | ha
          · rw [Tree.leaves_of_isEmpty he, List.mem_singleton] at hl
            rwa [← hl]
          · exact hatomic root (Tree.mem_nodes_self root) ha
        rw [if_pos hroot]
        exact ⟨root, List.mem_singleton_self _, hl⟩
      · rename_i hcut
        rw [Tree.leaves_of_not_isEmpty fun h => hcut (by simp [h])] at hl
        obtain ⟨c, hc, hl⟩ := List.mem_flatMap.1 hl
        obtain ⟨u, hu, hlu⟩ := ih c hc (fun t ht => hatomic t (Tree.mem_nodes_of_child hc ht)) hl
        exact ⟨u, List.mem_flatMap.2 ⟨c, hc, hu⟩, hlu⟩

/-! ## Nodes outside literals and comments -/

/-- Whether none of the nodes is a comment, a string or a regular expression. -/
def areOpen (above : List Tree) : Bool := above.all fun t => !isComment t && !isAtomic t

theorem areOpen_cons {t : Tree} {above : List Tree} :
    areOpen (t :: above) ↔ isComment t = false ∧ isAtomic t = false ∧ areOpen above := by
  simp [areOpen, and_assoc]

/-- **No token or comment is lost** that is not inside another one. -/
theorem mem_lexicalTrees {root t : Tree} {above above' : List Tree}
    (ho : (above', t) ∈ root.occurrences above) (hopen : areOpen above') (ht : isLexical t) :
    t ∈ lexicalTrees root := by
  induction root using Tree.induct generalizing above with
  | step root ih =>
    rw [Tree.occurrences_eq, List.mem_cons, List.mem_flatMap] at ho
    rw [lexicalTrees_eq]
    rcases ho with ho | ⟨c, hc, ho⟩
    · obtain ⟨-, rfl⟩ := Prod.mk.inj ho
      cases hcomment : isComment t with
      | true => simp
      | false =>
        rw [isLexical, hcomment, Bool.false_or, Bool.and_eq_true] at ht
        rw [if_neg Bool.false_ne_true, if_pos ht.1, if_pos (of_decide_eq_true ht.2)]
        exact List.mem_singleton_self _
    · have hroot := List.all_eq_true.1 hopen root (Tree.mem_above List.mem_cons_self ho)
      rw [Bool.and_eq_true, Bool.not_eq_true', Bool.not_eq_true'] at hroot
      have hne : root.children.isEmpty = false := by
        cases h : root.children with
        | nil => simp [h] at hc
        | cons => rfl
      simp only [hroot.1, hroot.2, hne, Bool.or_self, Bool.false_eq_true, if_false]
      exact List.mem_flatMap.2 ⟨c, hc, ih c hc ho⟩

/-- Nor is anything a token or comment that is inside another one. -/
theorem exists_open_occurrence {root t : Tree} {above : List Tree} (hopen : areOpen above)
    (h : t ∈ lexicalTrees root) :
    ∃ above', (above', t) ∈ root.occurrences above ∧ areOpen above' := by
  induction root using Tree.induct generalizing above with
  | step root ih =>
    rw [Tree.occurrences_eq]
    rw [lexicalTrees_eq] at h
    split at h
    · rw [List.mem_singleton.1 h]
      exact ⟨above, List.mem_cons_self, hopen⟩
    · rename_i hcomment
      split at h
      · split at h
        · rw [List.mem_singleton.1 h]
          exact ⟨above, List.mem_cons_self, hopen⟩
        · simp at h
      · rename_i hcut
        rw [Bool.or_eq_true, not_or] at hcut
        have hroot : areOpen (root :: above) :=
          areOpen_cons.2 ⟨by simpa using hcomment, by simpa using hcut.2, hopen⟩
        obtain ⟨c, hc, h⟩ := List.mem_flatMap.1 h
        obtain ⟨above', ho, hopen'⟩ := ih c hc hroot h
        exact ⟨above', List.mem_cons_of_mem _ (List.mem_flatMap.2 ⟨c, hc, ho⟩), hopen'⟩

theorem isComment_eq_false_of_isAtomic {t : Tree} (h : isAtomic t) : isComment t = false := by
  rw [isAtomic, Bool.or_eq_true, beq_iff_eq, beq_iff_eq] at h
  rcases h with h | h
  · simp [isComment, h]
  · simp [isComment, h]

/-! ## Trees that cover a source -/

/-- The ways for a comment to begin, or else for a string or a regular expression. -/
def openings (t : Tree) : List String :=
  if isComment t then ["//", "/*", "<!--", "-->"] else ["\"", "'", "/"]

theorem openings_ne_nil (t : Tree) : ∀ mark ∈ openings t, mark.toList ≠ [] := by
  unfold openings
  split
  · decide
  · decide

/-- The leaves of the tree follow each other without overlap, and leave only characters of the source
uncovered that are `blank`. -/
structure Covers (blank : Char → Bool) (source : String) (root : Tree) : Prop where
  ordered : root.leaves.Pairwise fun l m => l.stop.offset ≤ m.start.offset
  covered : ∀ c i j, Text.Holds source i j (String.singleton c) → blank c = false →
    ∃ l ∈ root.leaves, l.start.offset ≤ i ∧ j ≤ l.stop.offset
  /-- A comment, a string or a regular expression is made up of its leaves. -/
  bounded : ∀ t ∈ root.nodes, isComment t || isAtomic t → t.Bounded
  /-- The mark that opens it belongs to it. -/
  opened : ∀ t ∈ root.nodes, isComment t || isAtomic t →
    ∃ mark ∈ openings t, mark.toList <+: (t.text source).toList

/-- Nodes with text that follow each other without overlap. -/
structure Successive (ts : List Tree) : Prop where
  have_text : ∀ t ∈ ts, t.start.offset < t.stop.offset
  ordered : ts.Pairwise fun t u => t.stop.offset ≤ u.start.offset

namespace Covers

variable {blank : Char → Bool} {source : String} {root t : Tree}

/-- Comments, strings and regular expressions have text, since a mark opens them. -/
theorem has_text (h : Covers blank source root) (ht : t ∈ root.nodes)
    (hkind : isComment t || isAtomic t) : t.start.offset < t.stop.offset := by
  obtain ⟨mark, hmark, hprefix⟩ := h.opened t ht hkind
  by_contra hle
  rw [Tree.text, Text.slice_eq_empty (Nat.le_of_not_lt hle)] at hprefix
  exact openings_ne_nil t mark hmark (List.prefix_nil.1 hprefix)

theorem has_text_of_mem (h : Covers blank source root) (ht : t ∈ lexicalTrees root) :
    t.start.offset < t.stop.offset := by
  cases hc : isComment t with
  | true => exact h.has_text (mem_nodes_of_mem_lexicalTrees ht) (by simp [hc])
  | false => exact lt_of_mem_lexicalTrees ht hc

theorem bounded_of_mem (h : Covers blank source root) (ht : t ∈ lexicalTrees root) :
    t.Bounded := by
  have hlexical := isLexical_of_mem_lexicalTrees ht
  cases hkind : isComment t || isAtomic t with
  | true => exact h.bounded t (mem_nodes_of_mem_lexicalTrees ht) hkind
  | false =>
    obtain ⟨hc, ha⟩ := Bool.or_eq_false_iff.1 hkind
    rw [isLexical, hc, ha, Bool.false_or, Bool.or_false, Bool.and_eq_true] at hlexical
    exact .of_leaf hlexical.1

/-- **Tokens and comments follow each other** like the leaves that they begin and end with. -/
theorem successive (h : Covers blank source root) : Successive (lexicalTrees root) := by
  have hleaves := h.ordered.sublist (leaves_lexicalTrees_sublist root)
  refine ⟨fun t ht => h.has_text_of_mem ht, ?_⟩
  refine (List.pairwise_flatMap.1 hleaves).2.imp_of_mem fun {t u} ht hu hle => ?_
  obtain ⟨l, hl, hlast⟩ := (h.bounded_of_mem ht).last
  obtain ⟨m, hm, hfirst⟩ := (h.bounded_of_mem hu).first
  rw [← hlast, ← hfirst]
  exact hle l hl m hm

/-- **No character is lost** that is not blank. -/
theorem exists_covering (h : Covers blank source root) {c : Char} {i j : Nat}
    (hc : Text.Holds source i j (String.singleton c)) (hb : blank c = false) :
    ∃ t ∈ lexicalTrees root, t.start.offset ≤ i ∧ i < j ∧ j ≤ t.stop.offset := by
  obtain ⟨l, hl, hi, hj⟩ := h.covered c i j hc hb
  have hij : i < j := by
    have hlen := hc.length_eq
    have hpos := c.utf8Size_pos
    rw [String.toList_singleton, Text.byteLength_cons] at hlen
    omega
  have hatomic : ∀ t ∈ root.nodes, isAtomic t → t.start.offset < t.stop.offset :=
    fun t ht ha => h.has_text ht (by simp [ha])
  obtain ⟨t, ht, hlt⟩ := exists_lexicalTree hatomic hl (by omega)
  have hin := (h.bounded_of_mem ht).inside l hlt
  exact ⟨t, ht, by omega, hij, by omega⟩

end Covers

/-! ## Counting -/

/-- Just one element has a property that no two elements share. -/
theorem countP_eq_one {α : Type} {p : α → Bool} {l : List α}
    (h : l.Pairwise fun a b => p a → p b = false) (he : ∃ a ∈ l, p a) : l.countP p = 1 := by
  induction l with
  | nil => simp at he
  | cons a l ih =>
    obtain ⟨ha, hl⟩ := List.pairwise_cons.1 h
    cases hp : p a with
    | true =>
      rw [List.countP_cons_of_pos hp, List.countP_eq_zero.2 fun b hb => by simp [ha b hb hp]]
    | false =>
      rw [List.countP_cons_of_neg (by simp [hp])]
      obtain ⟨b, hb, hpb⟩ := he
      rcases List.mem_cons.1 hb with rfl | hb
      · simp [hp] at hpb
      · exact ih hl ⟨b, hb, hpb⟩

namespace Successive

variable {ts : List Tree} {t u : Tree}

theorem filter (h : Successive ts) (p : Tree → Bool) : Successive (ts.filter p) :=
  ⟨fun t ht => h.have_text t (List.mem_of_mem_filter ht), h.ordered.filter p⟩

theorem apart (h : Successive ts) (ht : t ∈ ts) (hu : u ∈ ts) (hne : t ≠ u) :
    t.stop.offset ≤ u.start.offset ∨ u.stop.offset ≤ t.start.offset := by
  have hor : ts.Pairwise fun t u =>
      t.stop.offset ≤ u.start.offset ∨ u.stop.offset ≤ t.start.offset := h.ordered.imp .inl
  have : Std.Symm fun t u : Tree =>
      t.stop.offset ≤ u.start.offset ∨ u.stop.offset ≤ t.start.offset := ⟨fun _ _ => Or.symm⟩
  exact hor.forall ht hu hne

/-- Just one node covers what some node does. -/
theorem countP_covering (h : Successive ts) {i j : Nat} (hij : i < j) (ht : t ∈ ts)
    (hi : t.start.offset ≤ i) (hj : j ≤ t.stop.offset) :
    ts.countP (fun t => t.start.offset ≤ i && j ≤ t.stop.offset) = 1 := by
  refine countP_eq_one (h.ordered.imp fun {t u} hle htc => ?_) ⟨t, ht, by simp [hi, hj]⟩
  rw [Bool.and_eq_true, decide_eq_true_eq, decide_eq_true_eq] at htc
  rw [Bool.and_eq_false_iff, decide_eq_false_iff_not]
  left
  omega

/-- What is made of a node, with its span, is made of no other. -/
theorem count_map (h : Successive ts) {α : Type} [DecidableEq α] {s : Source} {f : Tree → α}
    {g : α → Span} (hf : ∀ t, g (f t) = s.span t) (ht : t ∈ ts) : (ts.map f).count (f t) = 1 := by
  rw [List.count, List.countP_map]
  refine countP_eq_one (h.ordered.imp_of_mem fun {u v} hu _ hle hut => ?_) ⟨t, ht, by simp⟩
  refine beq_eq_false_iff_ne.2 fun hvt => ?_
  have hspan : s.span u = s.span v := by
    rw [← hf, ← hf, eq_of_beq hut, hvt]
  have hstart : u.start.offset = v.start.offset := congrArg Span.start hspan
  have := h.have_text u hu
  omega

end Successive

/-! ## Losslessness -/

/-- Tokens and comments that lose nothing of a source. `root` is the tree of the source, and `s` places
its nodes. A literal or comment inside another one is a part of that one. -/
structure Lossless (blank : Char → Bool) (s : Source) (root : Tree) (tokens : List Token)
    (comments : List Comment) : Prop where
  tokens_have_text : ∀ k ∈ tokens, k.span.start < k.span.stop
  comments_have_text : ∀ c ∈ comments, c.span.start < c.span.stop
  tokens_ordered : tokens.Pairwise fun k k' => k.span.stop ≤ k'.span.start
  comments_ordered : comments.Pairwise fun c c' => c.span.stop ≤ c'.span.start
  apart : ∀ k ∈ tokens, ∀ c ∈ comments,
    k.span.stop ≤ c.span.start ∨ c.span.stop ≤ k.span.start
  /-- Every character that is not blank is in just one token or comment. -/
  covered_once : ∀ c i j, Text.Holds s.text i j (String.singleton c) → blank c = false →
    (tokens.map (·.span) ++ comments.map (·.span)).countP (fun u => u.start ≤ i && j ≤ u.stop) = 1
  leaf_once : ∀ above t, (above, t) ∈ root.occurrences [] → areOpen above → t.children = [] →
    isComment t = false → t.start.offset < t.stop.offset → tokens.count (tokenAt s t) = 1
  literal_once : ∀ above t, (above, t) ∈ root.occurrences [] → areOpen above → isAtomic t →
    tokens.count (tokenAt s t) = 1
  comment_once : ∀ above t, (above, t) ∈ root.occurrences [] → areOpen above → isComment t →
    comments.count (commentAt s t) = 1 ∧ ∀ k ∈ tokens, k.span ≠ s.span t
  /-- There are no other tokens. -/
  token_found : ∀ k ∈ tokens, ∃ above t, (above, t) ∈ root.occurrences [] ∧ areOpen above ∧
    isComment t = false ∧ isLexical t ∧ tokenAt s t = k
  /-- There are no other comments. -/
  comment_found : ∀ c ∈ comments, ∃ above t, (above, t) ∈ root.occurrences [] ∧ areOpen above ∧
    isComment t ∧ commentAt s t = c

section

variable {s : Source} {ts : List Tree} {t : Tree} {k : Token} {c : Comment}

theorem mem_tokensOf : k ∈ tokensOf s ts ↔ ∃ t ∈ ts, isComment t = false ∧ tokenAt s t = k := by
  simp [tokensOf, and_assoc]

theorem mem_commentsOf : c ∈ commentsOf s ts ↔ ∃ t ∈ ts, isComment t ∧ commentAt s t = c := by
  simp [commentsOf, and_assoc]

/-- The spans of tokens and comments are those of the nodes that they come from. -/
theorem spans_perm (s : Source) (ts : List Tree) :
    ((tokensOf s ts).map (·.span) ++ (commentsOf s ts).map (·.span)).Perm (ts.map s.span) := by
  have hperm := (List.perm_append_comm.trans (List.filter_append_perm isComment ts)).map s.span
  rw [List.map_append] at hperm
  simpa [tokensOf, commentsOf, Function.comp_def] using hperm

theorem Successive.count_token (h : Successive ts) (ht : t ∈ ts) (hc : isComment t = false) :
    (tokensOf s ts).count (tokenAt s t) = 1 :=
  (h.filter _).count_map (span_tokenAt s) (List.mem_filter.2 ⟨ht, by simp [hc]⟩)

theorem Successive.count_comment (h : Successive ts) (ht : t ∈ ts) (hc : isComment t) :
    (commentsOf s ts).count (commentAt s t) = 1 :=
  (h.filter _).count_map (span_commentAt s) (List.mem_filter.2 ⟨ht, hc⟩)

theorem Successive.token_apart (h : Successive ts) (hk : k ∈ tokensOf s ts)
    (hc : c ∈ commentsOf s ts) : k.span.stop ≤ c.span.start ∨ c.span.stop ≤ k.span.start := by
  obtain ⟨t, ht, htc, rfl⟩ := mem_tokensOf.1 hk
  obtain ⟨u, hu, huc, rfl⟩ := mem_commentsOf.1 hc
  refine h.apart ht hu ?_
  rintro rfl
  simp [huc] at htc

end

/-- **The tokens and comments of a tree that covers its source** lose nothing of the source. -/
theorem Covers.lossless {blank : Char → Bool} {s : Source} {root : Tree}
    (h : Covers blank s.text root) :
    Lossless blank s root (tokensOf s (lexicalTrees root)) (commentsOf s (lexicalTrees root)) := by
  have hsucc := h.successive
  refine ⟨fun k hk => ?_, fun c hc => ?_, List.pairwise_map.2 (hsucc.filter _).ordered,
    List.pairwise_map.2 (hsucc.filter _).ordered, fun k hk c hc => hsucc.token_apart hk hc,
    fun c i j hc hb => ?_, fun above t ho hopen hleaf hc hlt => ?_, fun above t ho hopen ha => ?_,
    fun above t ho hopen hc => ?_, fun k hk => ?_, fun c hc => ?_⟩
  · obtain ⟨t, ht, -, rfl⟩ := mem_tokensOf.1 hk
    exact hsucc.have_text t ht
  · obtain ⟨t, ht, -, rfl⟩ := mem_commentsOf.1 hc
    exact hsucc.have_text t ht
  · obtain ⟨t, ht, hi, hij, hj⟩ := h.exists_covering hc hb
    rw [(spans_perm s _).countP_eq, List.countP_map]
    exact hsucc.countP_covering hij ht hi hj
  · have ht := mem_lexicalTrees ho hopen (by simp [isLexical, hleaf, hlt])
    exact hsucc.count_token ht hc
  · have hlt := h.has_text (List.mem_map.2 ⟨_, ho, rfl⟩) (by simp [ha])
    have ht := mem_lexicalTrees ho hopen (by simp [isLexical, ha, hlt])
    exact hsucc.count_token ht (isComment_eq_false_of_isAtomic ha)
  · have ht := mem_lexicalTrees ho hopen (by simp [isLexical, hc])
    refine ⟨hsucc.count_comment ht hc, fun k hk he => ?_⟩
    -- a token with the span of a comment would overlap it
    have hdisjoint := hsucc.token_apart hk (mem_commentsOf.2 ⟨t, ht, hc, rfl⟩)
    have hlt : (s.span t).start < (s.span t).stop := hsucc.have_text t ht
    rw [he, span_commentAt] at hdisjoint
    omega
  · obtain ⟨t, ht, hc, rfl⟩ := mem_tokensOf.1 hk
    obtain ⟨above, ho, hopen⟩ := @exists_open_occurrence root t [] rfl ht
    exact ⟨above, t, ho, hopen, hc, isLexical_of_mem_lexicalTrees ht, rfl⟩
  · obtain ⟨t, ht, hcomment, rfl⟩ := mem_commentsOf.1 hc
    obtain ⟨above, ho, hopen⟩ := @exists_open_occurrence root t [] rfl ht
    exact ⟨above, t, ho, hopen, hcomment, rfl⟩

/-- **A source that its tree covers is read without loss.** -/
theorem readTree_lossless {blank : Char → Bool} {source : String} {options : ParseOptions}
    {root : Tree} {tree : ParseTree} (h : Covers blank source root)
    (hr : readTree source options root = .ok tree) :
    Lossless blank (.ofString source options.startLine) root tree.tokens.toList
      tree.comments.toList := by
  unfold readTree at hr
  split at hr
  · cases hr
  cases hr
  simp only [tokens_lexicalParts, comments_lexicalParts]
  exact Covers.lossless h

/-- The offsets of a character from its index. -/
theorem exists_index {source : String} {c : Char} {i j : Nat}
    (h : Text.Holds source i j (String.singleton c)) :
    ∃ k : Fin source.toList.length, source.toList[k] = c ∧
      Text.byteLength (source.toList.take k) = i ∧
      Text.byteLength (source.toList.take k) + source.toList[k].utf8Size = j := by
  obtain ⟨before, after, hsplit, rfl, rfl⟩ := h
  rw [String.toList_singleton, List.append_assoc, List.singleton_append] at hsplit
  have hlt : before.length < source.toList.length := by
    simp [hsplit]
  have hc : source.toList[before.length] = c := by
    simp [hsplit]
  have hbefore : source.toList.take before.length = before := by
    rw [hsplit, List.take_left]
  exact ⟨⟨before.length, hlt⟩, hc, congrArg _ hbefore, by simp [hc, hbefore]⟩

theorem calledName_covers : Covers Text.isBlank "#!x\nf('a'/**/,/b/)<!--c" calledName := by
  have hcovered : let text := "#!x\nf('a'/**/,/b/)<!--c".toList
      ∀ k : Fin text.length, Text.isBlank text[k] = false →
        ∃ l ∈ calledName.leaves, l.start.offset ≤ Text.byteLength (text.take k) ∧
          Text.byteLength (text.take k) + text[k].utf8Size ≤ l.stop.offset := by
    decide +kernel
  refine ⟨by decide +kernel, fun c i j hc hb => ?_, by decide +kernel, by decide +kernel⟩
  obtain ⟨k, rfl, rfl, rfl⟩ := exists_index hc
  exact hcovered k hb

theorem readTree_lossless_calledName :
    let source := "#!x\nf('a'/**/,/b/)<!--c"
    ∃ tree, Covers Text.isBlank source calledName ∧ readTree source {} calledName = .ok tree ∧
      tree.tokens.toList.map (·.value) = ["#!x", "f", "(", "'a'", ",", "/b/", ")"] ∧
      tree.comments.toList.map (·.value) = ["", "<!--c"] ∧
      Lossless Text.isBlank (.ofString source 1) calledName tree.tokens.toList
        tree.comments.toList := by
  intro source
  cases hr : readTree source {} calledName with
  | error e =>
    have hok : (readTree source {} calledName).isOk := by decide +kernel
    simp [hr, Except.isOk, Except.toBool] at hok
  | ok tree =>
    have hvalues : (readTree source {} calledName).toOption.map
        (fun tree => (tree.tokens.toList.map (·.value), tree.comments.toList.map (·.value))) =
          some (["#!x", "f", "(", "'a'", ",", "/b/", ")"], ["", "<!--c"]) := by
      decide +kernel
    simp only [hr, Except.toOption, Option.map_some, Option.some.injEq, Prod.mk.injEq] at hvalues
    exact ⟨tree, calledName_covers, rfl, hvalues.1, hvalues.2,
      readTree_lossless calledName_covers hr⟩

end Script

end EmbeddedScripts
