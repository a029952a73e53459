import EmbeddedScripts.Proofs.Flattening
import EmbeddedScripts.Script.Parse

/-!
# Which nodes show their text

A node of the arena shows its text if no child of its node in the tree stands for a rule of the
grammar. Comments stand for a rule, but have no place in the arena, so a node with nothing but comments
below it (`OnlyComments`) has neither a text nor children.

* `mem_flatten_outline`: each node of the arena stands for a node of the tree, and has children if and
  only if that one has parts.
* `stripped`: a tree without its comments; `outline_stripped`, `arena_stripped`: it has the same arena,
  but there every node without children shows its text.
* `readTree_text_iff`: so in the arena of an accepted source a node with a text has no children, and
  one without children has a text unless there are only comments below it.
-/

namespace EmbeddedScripts

/-! ## Texts for all leaves -/

/-- The node with the text of its span, if it has no children. -/
def SyntaxNode.withLeafText (source : String) (n : SyntaxNode) : SyntaxNode :=
  if n.children.isEmpty then { n with text := some (Text.slice source n.span.start n.span.stop) }
  else n

namespace Outline

mutual

/-- The outline with the text of its span at each node without parts. -/
def withLeafText (source : String) : Outline → Outline
  | node kind span text ps =>
    let text := if ps.isEmpty then some (Text.slice source span.start span.stop) else text
    node kind span text (withLeafTexts source ps)

/-- Several outlines with the texts of their leaves. -/
def withLeafTexts (source : String) : List Outline → List Outline
  | [] => []
  | t :: ts => t.withLeafText source :: withLeafTexts source ts

end

theorem withLeafTexts_eq (source : String) (ts : List Outline) :
    withLeafTexts source ts = ts.map (withLeafText source) := by
  induction ts with
  | nil => rfl
  | cons t ts ih => rw [withLeafTexts, ih, List.map_cons]

theorem sizeAll_withLeafTexts (source : String) (ts : List Outline) :
    sizeAll (withLeafTexts source ts) = sizeAll ts := by
  induction ts using induct with
  | nil => rfl
  | cons kind span text ps ts ihp ih =>
    simp only [withLeafTexts, withLeafText, sizeAll, size, ihp, ih]

theorem size_withLeafText (source : String) (t : Outline) :
    (t.withLeafText source).size = t.size := by
  obtain ⟨kind, span, text, ps⟩ := t
  rw [withLeafText, size, size, sizeAll_withLeafTexts]

theorem roots_withLeafTexts (source : String) (base : Nat) (ts : List Outline) :
    roots base (withLeafTexts source ts) = roots base ts := by
  induction ts generalizing base with
  | nil => rfl
  | cons t ts ih => rw [withLeafTexts, roots, roots, size_withLeafText, ih]

theorem isEmpty_roots (base : Nat) (ts : List Outline) :
    (roots base ts).isEmpty = ts.isEmpty := by
  cases ts with
  | nil => rfl
  | cons t ts => rfl

/-- **Flattened outlines** show the texts of their leaves if the outlines do. -/
theorem flattenAll_withLeafTexts (source : String) (base : Nat) (parent : Option Nat)
    (ts : List Outline) :
    flattenAll base parent (withLeafTexts source ts) =
      (flattenAll base parent ts).map (·.withLeafText source) := by
  induction ts using induct generalizing base parent with
  | nil => rfl
  | cons kind span text ps ts ihp ih =>
    have hsize : (withLeafText source (node kind span text ps)).size =
        (node kind span text ps).size := size_withLeafText source _
    rw [withLeafTexts, flattenAll, flattenAll, hsize, ih, List.map_append]
    refine congrArg (· ++ _) ?_
    rw [withLeafText, flatten, flatten, List.map_cons, ihp, roots_withLeafTexts]
    refine congrArg (· :: _) ?_
    rw [SyntaxNode.withLeafText, List.isEmpty_toArray, isEmpty_roots]
    split
    · rfl
    · rfl

/-- A node of several outlines is one of a single outline. -/
theorem mem_flattenAll {n : SyntaxNode} {base : Nat} {parent : Option Nat} {ts : List Outline}
    (h : n ∈ flattenAll base parent ts) : ∃ t ∈ ts, ∃ base', n ∈ t.flatten base' parent := by
  induction ts generalizing base with
  | nil => cases h
  | cons t ts ih =>
    rw [flattenAll, List.mem_append] at h
    rcases h with h | h
    · exact ⟨t, List.mem_cons_self, base, h⟩
    · obtain ⟨u, hu, base', hn⟩ := ih h
      exact ⟨u, List.mem_cons_of_mem _ hu, base', hn⟩

end Outline

namespace Script

/-! ## Nodes and what they stand for -/

/-- **Each node of a flattened outline** stands for a node of the tree, and has children if and only if
that one has parts. -/
theorem mem_flatten_outline {s : Source} {t : Tree} {base : Nat} {parent : Option Nat}
    {n : SyntaxNode} (h : n ∈ (outline s t).flatten base parent) :
    ∃ u ∈ t.nodes, StandsFor s u n ∧ (n.children = #[] ↔ partsOf u = []) := by
  induction t using Tree.induct generalizing base parent with
  | step t ih =>
    rw [outline_eq, Outline.flatten, List.mem_cons] at h
    rcases h with rfl | h
    · refine ⟨t, Tree.mem_nodes_self t, ⟨rfl, rfl, rfl⟩, ?_⟩
      rw [← Array.isEmpty_iff, List.isEmpty_toArray, Outline.isEmpty_roots, List.isEmpty_iff,
        List.map_eq_nil_iff]
    · obtain ⟨o, ho, base', hn⟩ := Outline.mem_flattenAll h
      obtain ⟨c, hc, rfl⟩ := List.mem_map.1 ho
      have hc := mem_partsOf hc
      obtain ⟨u, hu, hstands⟩ := ih c hc hn
      exact ⟨u, Tree.mem_nodes_of_child hc hu, hstands⟩

theorem arena_eq_flattenAll (s : Source) (root : Tree) :
    let ts := (syntacticChildren root).map (outline s)
    arena s root = ⟨(Outline.flattenAll 0 none ts).toArray, (Outline.roots 0 ts).toArray⟩ := by
  rw [arena_eq, outlines_children]
  simp [Arena.attach, Arena.link, Arena.extend]

theorem exists_standsFor {s : Source} {root : Tree} {n : SyntaxNode}
    (h : n ∈ (arena s root).nodes) :
    ∃ t ∈ root.nodes, StandsFor s t n ∧ (n.children = #[] ↔ partsOf t = []) := by
  rw [arena_eq_flattenAll] at h
  obtain ⟨o, ho, base, hn⟩ := Outline.mem_flattenAll (List.mem_toArray.1 h)
  obtain ⟨c, hc, rfl⟩ := List.mem_map.1 ho
  have hc := List.mem_of_mem_filter (List.mem_of_mem_filter hc)
  obtain ⟨t, ht, hstands⟩ := mem_flatten_outline hn
  exact ⟨t, Tree.mem_nodes_of_child hc ht, hstands⟩

/-- The node is not kept whole, and of its children only comments or hash-bang lines stand for a rule,
but at least one. -/
def OnlyComments (t : Tree) : Prop :=
  isAtomic t = false ∧ t.namedChildren ≠ [] ∧ ∀ c ∈ t.namedChildren, isSyntactic c = false

theorem isLeaf_eq_false_iff {t : Tree} :
    isLeaf t = false ↔ t.namedChildren ≠ [] ∧ isAtomic t = false := by
  rw [isLeaf, Bool.or_eq_false_iff, List.isEmpty_eq_false_iff]

theorem partsOf_of_isLeaf {t : Tree} (h : isLeaf t = true) : partsOf t = [] := by
  rw [partsOf, if_pos h]

theorem partsOf_of_not_isLeaf {t : Tree} (h : isLeaf t = false) :
    partsOf t = syntacticChildren t := by
  rw [partsOf, h, if_neg Bool.false_ne_true]

theorem isLeaf_eq_false_of_partsOf {t : Tree} (h : partsOf t ≠ []) : isLeaf t = false := by
  by_contra hleaf
  exact h (partsOf_of_isLeaf (by simpa using hleaf))

/-- Such a node is no leaf, but has no parts. -/
theorem onlyComments_iff {t : Tree} : OnlyComments t ↔ isLeaf t = false ∧ partsOf t = [] := by
  have hnone : syntacticChildren t = [] ↔ ∀ c ∈ t.namedChildren, isSyntactic c = false := by
    simp [syntacticChildren, List.filter_eq_nil_iff]
  constructor
  · rintro ⟨hatomic, hchildren, hcomments⟩
    have hleaf := isLeaf_eq_false_iff.2 ⟨hchildren, hatomic⟩
    exact ⟨hleaf, (partsOf_of_not_isLeaf hleaf).trans (hnone.2 hcomments)⟩
  · rintro ⟨hleaf, hparts⟩
    rw [partsOf_of_not_isLeaf hleaf] at hparts
    obtain ⟨hchildren, hatomic⟩ := isLeaf_eq_false_iff.1 hleaf
    exact ⟨hatomic, hchildren, hnone.1 hparts⟩

/-! ## Trees without comments -/

mutual

/-- The tree without the comments and hash-bang lines below it. -/
def stripped : Tree → Tree
  | .node l a b ts => .node l a b (strippedAll ts)

/-- Those of several trees that are no comments or hash-bang lines, without those below them. -/
def strippedAll : List Tree → List Tree
  | [] => []
  | t :: ts => if isSyntactic t then stripped t :: strippedAll ts else strippedAll ts

end

theorem strippedAll_eq (ts : List Tree) :
    strippedAll ts = (ts.filter isSyntactic).map stripped := by
  induction ts with
  | nil => rfl
  | cons t ts ih =>
    rw [strippedAll, ih]
    split
    · rename_i h
      rw [List.filter_cons_of_pos h, List.map_cons]
    · rename_i h
      rw [List.filter_cons_of_neg h]

section

variable (t : Tree)

@[simp] theorem label_stripped : (stripped t).label = t.label := by
  cases t
  rfl

@[simp] theorem children_stripped :
    (stripped t).children = (t.children.filter isSyntactic).map stripped := by
  cases t
  exact strippedAll_eq _

@[simp] theorem kind_stripped : (stripped t).kind = t.kind := by
  simp [Tree.kind]

@[simp] theorem named_stripped : (stripped t).named = t.named := by
  simp [Tree.named]

@[simp] theorem span_stripped (s : Source) : s.span (stripped t) = s.span t := by
  cases t
  rfl

@[simp] theorem text_stripped (source : String) : (stripped t).text source = t.text source := by
  cases t
  rfl

@[simp] theorem isAtomic_stripped : isAtomic (stripped t) = isAtomic t := by
  simp [isAtomic]

@[simp] theorem isSyntactic_stripped : isSyntactic (stripped t) = isSyntactic t := by
  simp [isSyntactic, isComment]

theorem namedChildren_stripped :
    (stripped t).namedChildren = (syntacticChildren t).map stripped := by
  simp [Tree.namedChildren, syntacticChildren, List.filter_map, Function.comp_def,
    List.filter_filter, Bool.and_comm]

theorem syntacticChildren_stripped :
    syntacticChildren (stripped t) = (syntacticChildren t).map stripped := by
  rw [syntacticChildren, namedChildren_stripped]
  simp [syntacticChildren, List.filter_map, Function.comp_def]

/-- Without comments, a node without parts is a leaf. -/
theorem isLeaf_stripped : isLeaf (stripped t) = (partsOf t).isEmpty := by
  rw [isLeaf, namedChildren_stripped, isAtomic_stripped, List.isEmpty_map]
  cases hleaf : isLeaf t with
  | true =>
    rw [partsOf_of_isLeaf hleaf]
    rw [isLeaf, Bool.or_eq_true, List.isEmpty_iff] at hleaf
    rcases hleaf with hnone | hatomic
    · simp [syntacticChildren, hnone]
    · simp [hatomic]
  | false =>
    rw [partsOf_of_not_isLeaf hleaf, (isLeaf_eq_false_iff.1 hleaf).2, Bool.or_false]

theorem partsOf_stripped : partsOf (stripped t) = (partsOf t).map stripped := by
  rw [partsOf, isLeaf_stripped]
  cases hparts : partsOf t with
  | nil => rfl
  | cons c cs =>
    have hleaf : isLeaf t = false := isLeaf_eq_false_of_partsOf (by simp [hparts])
    rw [List.isEmpty_cons, if_neg Bool.false_ne_true, syntacticChildren_stripped,
      ← partsOf_of_not_isLeaf hleaf, hparts]

end

/-- **The outline of a tree without comments** is that of the tree, with the texts of all leaves. -/
theorem outline_stripped (s : Source) (t : Tree) :
    outline s (stripped t) = (outline s t).withLeafText s.text := by
  induction t using Tree.induct with
  | step t ih =>
    have hparts : (partsOf (stripped t)).map (outline s) =
        Outline.withLeafTexts s.text ((partsOf t).map (outline s)) := by
      rw [partsOf_stripped, Outline.withLeafTexts_eq, List.map_map, List.map_map]
      exact List.map_congr_left fun c hc => ih c (mem_partsOf hc)
    rw [outline_eq, outline_eq s t, Outline.withLeafText, hparts, kind_stripped, span_stripped,
      text_stripped, isLeaf_stripped, List.isEmpty_map]
    cases hempty : (partsOf t).isEmpty with
    | true => rfl
    | false =>
      rw [isLeaf_eq_false_of_partsOf (List.isEmpty_eq_false_iff.1 hempty)]
      rfl

/-- **The arena of a tree without comments** is that of the tree, with the texts of all leaves. -/
theorem arena_stripped (s : Source) (root : Tree) :
    arena s (stripped root) =
      ⟨(arena s root).nodes.map (·.withLeafText s.text), (arena s root).statements⟩ := by
  have houtlines : (syntacticChildren (stripped root)).map (outline s) =
      Outline.withLeafTexts s.text ((syntacticChildren root).map (outline s)) := by
    rw [syntacticChildren_stripped, Outline.withLeafTexts_eq, List.map_map, List.map_map]
    exact List.map_congr_left fun c _ => outline_stripped s c
  rw [arena_eq_flattenAll, arena_eq_flattenAll, houtlines]
  simp only [Outline.flattenAll_withLeafTexts, Outline.roots_withLeafTexts, List.map_toArray]

/-! ## Accepted sources -/

/-- What a node of the arena shows, by the node of the tree that it stands for. -/
theorem StandsFor.text_iff {s : Source} {t : Tree} {n : SyntaxNode} (h : StandsFor s t n)
    (hchildren : n.children = #[] ↔ partsOf t = []) :
    (∀ x, n.text = some x →
        n.children = #[] ∧ x = Text.slice s.text n.span.start n.span.stop) ∧
      ((n.text.isSome ↔ n.children = #[]) ↔ ¬ OnlyComments t) := by
  rw [onlyComments_iff, hchildren, h.text, h.span]
  cases hleaf : isLeaf t with
  | true =>
    have hparts := partsOf_of_isLeaf hleaf
    refine ⟨fun x hx => ⟨hparts, ?_⟩, by simp [hparts]⟩
    exact (Option.some.inj hx).symm
  | false =>
    refine ⟨fun x hx => ?_, by simp⟩
    cases hx

/-- **Which nodes of an accepted source show their text.** A node with a text has no children, and the
text is that of its span. A node without children has a text, unless there is nothing but comments
below it. Were there no comments in the tree, these nodes would show their texts, too, and all else
would be the same. -/
theorem readTree_text_iff {text : String} {options : ParseOptions} {root : Tree} {tree : ParseTree}
    (hr : readTree text options root = .ok tree) :
    let source := Source.ofString text options.startLine
    (∀ n ∈ tree.nodes, ∃ t ∈ root.nodes, StandsFor source t n ∧
      (∀ x, n.text = some x →
        n.children = #[] ∧ x = Text.slice text n.span.start n.span.stop) ∧
      ((n.text.isSome ↔ n.children = #[]) ↔ ¬ OnlyComments t)) ∧
    arena source (stripped root) = ⟨tree.nodes.map (·.withLeafText text), tree.statements⟩ := by
  intro source
  obtain ⟨-, rfl⟩ := readTree_eq_ok_iff.1 hr
  refine ⟨fun n hn => ?_, arena_stripped source root⟩
  obtain ⟨t, ht, hstands, hchildren⟩ := exists_standsFor hn
  exact ⟨t, ht, hstands, hstands.text_iff hchildren⟩

/-- The tree of the text `f(/**/)`: a call of a name with nothing but a comment between parentheses. -/
def commentedCall : Tree :=
  let mark (k : Nat) : Mark := ⟨k, 0, k⟩
  let leaf (kind : String) (named : Bool) (i j : Nat) : Tree :=
    .node { kind, named } (mark i) (mark j) []
  let inner (kind : String) (i j : Nat) (ts : List Tree) : Tree := .node { kind } (mark i) (mark j) ts
  inner "program" 0 7
    [inner "expression_statement" 0 7
      [inner "call_expression" 0 7
        [leaf "identifier" true 0 1,
          inner "arguments" 1 7
            [leaf "(" false 1 2, leaf "comment" true 2 6, leaf ")" false 6 7]]]]

theorem readTree_text_iff_commentedCall :
    let text := "f(/**/)"
    ∃ tree, readTree text {} commentedCall = .ok tree ∧
      tree.nodes.toList.map (fun n => (n.kind, n.text, n.children)) =
        [("expression_statement", none, #[1]), ("call_expression", none, #[2, 3]),
          ("identifier", some "f", #[]), ("arguments", none, #[])] ∧
      (arena (.ofString text 1) (stripped commentedCall)).nodes.toList.map (·.text) =
        [none, none, some "f", some "(/**/)"] ∧
      arena (.ofString text 1) (stripped commentedCall) =
        ⟨tree.nodes.map (·.withLeafText text), tree.statements⟩ := by
  intro text
  obtain ⟨tree, hr, hnodes⟩ : ∃ tree, readTree text {} commentedCall = .ok tree ∧
      tree.nodes.toList.map (fun n => (n.kind, n.text, n.children)) =
        [("expression_statement", none, #[1]), ("call_expression", none, #[2, 3]),
          ("identifier", some "f", #[]), ("arguments", none, #[])] :=
    ⟨_, readTree_eq_ok_iff.2 ⟨by decide +kernel, rfl⟩, by decide +kernel⟩
  exact ⟨tree, hr, hnodes, by decide +kernel, (readTree_text_iff hr).2⟩

/-- A comment between the parentheses of a call takes their text away. -/
theorem parse_commented_arguments :
    let shown (text : String) : Option (Array (String × Option String × Array Nat)) :=
      (parse text {}).toOption.map fun tree =>
        tree.nodes.map fun n => (n.kind, n.text, n.children)
    shown "f()" =
        some #[("expression_statement", none, #[1]), ("call_expression", none, #[2, 3]),
          ("identifier", some "f", #[]), ("arguments", some "()", #[])] ∧
      shown "f(/**/)" =
        some #[("expression_statement", none, #[1]), ("call_expression", none, #[2, 3]),
          ("identifier", some "f", #[]), ("arguments", none, #[])] := by
  decide +kernel

end Script

end EmbeddedScripts
