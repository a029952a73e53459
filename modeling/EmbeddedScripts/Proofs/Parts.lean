import EmbeddedScripts.Proofs.Slices
import EmbeddedScripts.Proofs.Walks
import EmbeddedScripts.Script.Arena

/-!
# The tokens, comments and nodes of a tree

* `lexicalTrees` lists the nodes of a tree that are tokens or comments by recursion on the tree;
  `tokens_lexicalParts` and `comments_lexicalParts`: the walk over the tree finds just these.
* `lexicalTrees_ascend`: in a tree whose nodes are nested in the order of the text (`Tree.Nested`)
  they follow each other without overlap, within the tree.
* `mem_arena`: each node of the arena has the span of a node of the tree, and shows its text or none.
-/

namespace EmbeddedScripts

/-- The children of a node follow each other within it. -/
structure Tree.Nested (t : Tree) : Prop where
  inside : ∀ c ∈ t.children, t.start.offset ≤ c.start.offset ∧ c.stop.offset ≤ t.stop.offset
  ordered : t.children.Pairwise fun c d => c.stop.offset ≤ d.start.offset

instance (t : Tree) : Decidable t.Nested :=
  decidable_of_iff
    ((∀ c ∈ t.children, t.start.offset ≤ c.start.offset ∧ c.stop.offset ≤ t.stop.offset) ∧
      t.children.Pairwise fun c d => c.stop.offset ≤ d.start.offset)
    ⟨fun ⟨hinside, hordered⟩ => ⟨hinside, hordered⟩,
      fun ⟨hinside, hordered⟩ => ⟨hinside, hordered⟩⟩

/-- The children of a node follow each other within it, and all ends fall between characters. -/
structure Tree.Laid (source : String) (t : Tree) : Prop where
  start_boundary : Text.IsBoundary source t.start.offset
  stop_boundary : Text.IsBoundary source t.stop.offset
  start_le_stop : t.start.offset ≤ t.stop.offset
  inside : ∀ c ∈ t.children, t.start.offset ≤ c.start.offset ∧ c.stop.offset ≤ t.stop.offset
  ordered : t.children.Pairwise fun c d => c.stop.offset ≤ d.start.offset

theorem Tree.Laid.nested {source : String} {t : Tree} (h : t.Laid source) : t.Nested :=
  ⟨h.inside, h.ordered⟩

theorem Tree.Laid.holds_text {source : String} {t : Tree} (h : t.Laid source) :
    Text.Holds source t.start.offset t.stop.offset (t.text source) :=
  Text.holds_slice h.start_boundary h.stop_boundary h.start_le_stop

namespace Script

/-- The token that a node is. -/
def tokenAt (s : Source) (t : Tree) : Token := ⟨t.kind, t.text s.text, s.span t⟩

/-- The comment that a node is. -/
def commentAt (s : Source) (t : Tree) : Comment :=
  let (kind, value) := commentOf (t.text s.text).toList
  ⟨kind, String.ofList value, s.span t⟩

@[simp] theorem span_tokenAt (s : Source) (t : Tree) : (tokenAt s t).span = s.span t := rfl

@[simp] theorem span_commentAt (s : Source) (t : Tree) : (commentAt s t).span = s.span t := rfl

mutual

/-- The nodes of a tree that are tokens or comments, in the order of the text. -/
def lexicalTrees : Tree → List Tree
  | .node l a b ts =>
    if isComment (.node l a b ts) then [.node l a b ts]
    else if ts.isEmpty || isAtomic (.node l a b ts) then
      if a.offset < b.offset then [.node l a b ts] else []
    else lexicalTreesAll ts

/-- Those of several trees. -/
def lexicalTreesAll : List Tree → List Tree
  | [] => []
  | t :: ts => lexicalTrees t ++ lexicalTreesAll ts

end

theorem lexicalTreesAll_eq (ts : List Tree) : lexicalTreesAll ts = ts.flatMap lexicalTrees := by
  induction ts with
  | nil => rfl
  | cons t ts ih => rw [lexicalTreesAll, ih, List.flatMap_cons]

theorem lexicalTrees_eq (t : Tree) :
    lexicalTrees t =
      if isComment t then [t]
      else if t.children.isEmpty || isAtomic t then
        if t.start.offset < t.stop.offset then [t] else []
      else t.children.flatMap lexicalTrees := by
  cases t
  rw [lexicalTrees, lexicalTreesAll_eq]
  rfl

/-! ## The walk -/

/-- The tokens among trees that are tokens or comments. -/
def tokensOf (s : Source) (ts : List Tree) : List Token :=
  (ts.filter fun t => !isComment t).map (tokenAt s)

/-- The comments among trees that are tokens or comments. -/
def commentsOf (s : Source) (ts : List Tree) : List Comment :=
  (ts.filter isComment).map (commentAt s)

/-- **The walk over pending places** notes their tokens and comments one by one. -/
theorem traverseAll_visit (s : Source) (parts : LexicalParts) (pending : List Tree.Place) :
    let trees := pending.map Tree.Place.node
    let left := (Tree.traverseAll (fun parts p => parts.visit s p.node) parts pending).state
    left.tokens.toList = parts.tokens.toList ++ tokensOf s (trees.flatMap lexicalTrees) ∧
      left.comments.toList = parts.comments.toList ++ commentsOf s (trees.flatMap lexicalTrees) := by
  induction pending using Tree.inductPending generalizing parts with
  | nil => simp [tokensOf, commentsOf, Tree.Traversal.done]
  | cons p ps ih ihBelow =>
    simp only at ih ihBelow ⊢
    rw [Tree.traverseAll_cons, List.map_cons, List.flatMap_cons, lexicalTrees_eq]
    by_cases hc : isComment p.node = true
    · have hvisit : parts.visit s p.node =
          (.skip, { parts with comments := parts.comments.push (commentAt s p.node) }) := by
        simp [LexicalParts.visit, commentAt, hc]
      simp only [hvisit, Tree.Traversal.after, hc, ↓reduceIte]
      rw [(ih _).1, (ih _).2]
      simp [tokensOf, commentsOf, hc]
    · by_cases hl : (p.node.children.isEmpty || isAtomic p.node) = true
      · by_cases hlt : p.node.start.offset < p.node.stop.offset
        · have hvisit : parts.visit s p.node =
              (.skip, { parts with tokens := parts.tokens.push (tokenAt s p.node) }) := by
            rw [LexicalParts.visit, if_neg hc, if_pos hl, if_pos hlt]
            rfl
          simp only [hvisit, Tree.Traversal.after, hc, hl, hlt, Bool.false_eq_true, ↓reduceIte]
          rw [(ih _).1, (ih _).2]
          simp [tokensOf, commentsOf, hc]
        · have hvisit : parts.visit s p.node = (.skip, parts) := by
            rw [LexicalParts.visit, if_neg hc, if_pos hl, if_neg hlt]
          simp only [hvisit, Tree.Traversal.after, hc, hl, hlt, Bool.false_eq_true, ↓reduceIte]
          rw [(ih _).1, (ih _).2]
          simp
      · have hvisit : parts.visit s p.node = (.descend, parts) := by
          rw [LexicalParts.visit, if_neg hc, if_neg hl]
        have := ihBelow parts
        rw [List.map_append, Tree.Place.map_node_children, List.flatMap_append] at this
        simpa only [hvisit, Tree.Traversal.after, hc, hl, Bool.false_eq_true, ↓reduceIte] using this

/-- **The walk over a tree** notes its tokens and comments. -/
theorem lexicalParts_toList (s : Source) (root : Tree) :
    (lexicalParts s root).tokens.toList = tokensOf s (lexicalTrees root) ∧
      (lexicalParts s root).comments.toList = commentsOf s (lexicalTrees root) := by
  have h := traverseAll_visit s {} [{ node := root }]
  rw [Tree.traverseAll_singleton, ← Tree.walk_eq] at h
  simpa [lexicalParts] using h

theorem tokens_lexicalParts (s : Source) (root : Tree) :
    (lexicalParts s root).tokens.toList = tokensOf s (lexicalTrees root) :=
  (lexicalParts_toList s root).1

theorem comments_lexicalParts (s : Source) (root : Tree) :
    (lexicalParts s root).comments.toList = commentsOf s (lexicalTrees root) :=
  (lexicalParts_toList s root).2

/-! ## The order of the text -/

theorem mem_nodes_of_mem_lexicalTrees {root t : Tree} (h : t ∈ lexicalTrees root) :
    t ∈ root.nodes := by
  induction root using Tree.induct with
  | step root ih =>
    rw [lexicalTrees_eq] at h
    split at h
    · rw [List.mem_singleton.1 h]
      exact Tree.mem_nodes_self root
    · split at h
      · split at h
        · rw [List.mem_singleton.1 h]
          exact Tree.mem_nodes_self root
        · simp at h
      · obtain ⟨c, hc, ht⟩ := List.mem_flatMap.1 h
        exact Tree.mem_nodes_of_child hc (ih c hc ht)

/-- Whether a node is a token or a comment where it is not inside another one. -/
def isLexical (t : Tree) : Bool :=
  isComment t || (t.children.isEmpty || isAtomic t) && t.start.offset < t.stop.offset

theorem isLexical_of_mem_lexicalTrees {root t : Tree} (h : t ∈ lexicalTrees root) :
    isLexical t := by
  induction root using Tree.induct with
  | step root ih =>
    rw [lexicalTrees_eq] at h
    split at h
    · rename_i hc
      rw [List.mem_singleton.1 h]
      simp [isLexical, hc]
    · split at h
      · rename_i hl
        split at h
        · rename_i hlt
          rw [List.mem_singleton.1 h]
          simp only [isLexical, hl, hlt, decide_true, Bool.and_self, Bool.or_true]
        · simp at h
      · obtain ⟨c, hm, ht⟩ := List.mem_flatMap.1 h
        exact ih c hm ht

/-- A token has text. -/
theorem lt_of_mem_lexicalTrees {root t : Tree} (h : t ∈ lexicalTrees root)
    (hc : isComment t = false) : t.start.offset < t.stop.offset := by
  have hlexical := isLexical_of_mem_lexicalTrees h
  rw [isLexical, hc, Bool.false_or, Bool.and_eq_true] at hlexical
  exact of_decide_eq_true hlexical.2

/-- **Tokens and comments follow each other** within their tree. -/
theorem lexicalTrees_ascend {root : Tree} (h : ∀ t ∈ root.nodes, t.Nested) :
    (∀ t ∈ lexicalTrees root,
        root.start.offset ≤ t.start.offset ∧ t.stop.offset ≤ root.stop.offset) ∧
      (lexicalTrees root).Pairwise fun t u => t.stop.offset ≤ u.start.offset := by
  induction root using Tree.induct with
  | step root ih =>
    have hroot := h root (Tree.mem_nodes_self root)
    have hchild := fun c hc => ih c hc fun t ht => h t (Tree.mem_nodes_of_child hc ht)
    rw [lexicalTrees_eq]
    split
    · simp
    · split
      · split
        · simp
        · simp
      · refine ⟨fun t ht => ?_, ?_⟩
        · obtain ⟨c, hc, ht⟩ := List.mem_flatMap.1 ht
          have h1 := hroot.inside c hc
          have h2 := (hchild c hc).1 t ht
          omega
        · refine List.pairwise_flatMap.2 ⟨fun c hc => (hchild c hc).2, ?_⟩
          refine hroot.ordered.imp_of_mem fun {c d} hc hd hle t ht u hu => ?_
          have h1 := (hchild c hc).1 t ht
          have h2 := (hchild d hd).1 u hu
          omega

/-! ## The arena -/

/-- The node of the arena stands for the node `t` of the tree. -/
structure StandsFor (s : Source) (t : Tree) (n : SyntaxNode) : Prop where
  kind : n.kind = t.kind
  span : n.span = s.span t
  text : n.text = if isLeaf t then some (t.text s.text) else none

theorem mem_add {s : Source} {a : Arena} {t : Tree} {parent : Option Nat} {n : SyntaxNode}
    (h : n ∈ (a.add s t parent).nodes) :
    (∃ m ∈ a.nodes, ∃ children, n = { m with children }) ∨ StandsFor s t n := by
  cases parent with
  | none =>
    simp only [Arena.add, Array.mem_push] at h
    rcases h with h | rfl
    · exact .inl ⟨n, h, n.children, rfl⟩
    · exact .inr ⟨rfl, rfl, rfl⟩
  | some p =>
    simp only [Arena.add, Array.mem_push] at h
    rcases h with h | rfl
    · obtain ⟨i, hi, rfl⟩ := Array.mem_iff_getElem.1 h
      rw [Array.getElem_modify]
      rw [Array.size_modify] at hi
      split
      · exact .inl ⟨a.nodes[i], Array.getElem_mem hi, _, rfl⟩
      · exact .inl ⟨a.nodes[i], Array.getElem_mem hi, _, rfl⟩
    · exact .inr ⟨rfl, rfl, rfl⟩

theorem StandsFor.withChildren {s : Source} {t : Tree} {n : SyntaxNode} (h : StandsFor s t n)
    (children : Array Nat) : StandsFor s t { n with children } :=
  ⟨h.kind, h.span, h.text⟩

theorem mem_partsOf {t c : Tree} (h : c ∈ partsOf t) : c ∈ t.children := by
  unfold partsOf at h
  split at h
  · simp at h
  · exact List.mem_of_mem_filter (List.mem_of_mem_filter h)

theorem mem_addAll {s : Source} {a : Arena} {pending : List (Tree × Option Nat)} {n : SyntaxNode}
    (h : n ∈ (a.addAll s pending).nodes) :
    (∃ m ∈ a.nodes, ∃ children, n = { m with children }) ∨
      ∃ p ∈ pending, ∃ t ∈ p.1.nodes, StandsFor s t n := by
  match pending with
  | [] =>
    rw [Arena.addAll] at h
    exact .inl ⟨n, h, n.children, rfl⟩
  | (t, parent) :: rest =>
    rw [Arena.addAll] at h
    rcases mem_addAll h with ⟨m, hm, children, rfl⟩ | ⟨p, hp, u, hu, hs⟩
    · rcases mem_add hm with ⟨m', hm', _, rfl⟩ | hs
      · exact .inl ⟨m', hm', children, rfl⟩
      · exact .inr ⟨(t, parent), List.mem_cons_self, t, Tree.mem_nodes_self t,
          hs.withChildren children⟩
    · rcases List.mem_append.1 hp with hp | hp
      · obtain ⟨c, hc, rfl⟩ := List.mem_map.1 hp
        exact .inr ⟨(t, parent), List.mem_cons_self, u,
          Tree.mem_nodes_of_child (mem_partsOf hc) hu, hs⟩
      · exact .inr ⟨p, List.mem_cons_of_mem _ hp, u, hu, hs⟩
termination_by Tree.sizeAll (pending.map (·.1))
decreasing_by
  have h := sizeAll_partsOf_lt t
  simpa [Tree.sizeAll, Function.comp_def] using h

/-- **Every node of the arena** stands for a node of the tree. -/
theorem mem_arena {s : Source} {root : Tree} {n : SyntaxNode} (h : n ∈ (arena s root).nodes) :
    ∃ t ∈ root.nodes, StandsFor s t n := by
  rcases mem_addAll h with ⟨m, hm, -⟩ | ⟨p, hp, t, ht, hs⟩
  · simp at hm
  · obtain ⟨c, hc, rfl⟩ := List.mem_map.1 hp
    exact ⟨t, Tree.mem_nodes_of_child (List.mem_of_mem_filter (List.mem_of_mem_filter hc)) ht, hs⟩

end Script

end EmbeddedScripts
