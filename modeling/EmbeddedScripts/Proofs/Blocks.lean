import EmbeddedScripts.Proofs.Forests

/-!
# The lists of a merged document

Each tree adds its part to the nodes and to the statements of a merged document. The part depends on
the number of nodes before the tree, since indices are moved by it.

* `nodes_merge`, `statements_merge`: the two lists are the parts of the trees, one after the other.
* `blocks_append`: more trees leave the parts of those before them as they are.
* `merge_inBlocks`: the nodes of a tree are found at the indices from the number of nodes before it
  on.
-/

namespace EmbeddedScripts

section Blocks

variable {α : Type} (part : Nat → ParseTree → List α)

/-- The parts of several trees, one after the other, where `base` nodes come before the first tree. -/
def blocks (base : Nat) : List ParseTree → List α
  | [] => []
  | t :: ts => part base t ++ blocks (base + t.nodes.size) ts

/-- **More trees leave the parts before them as they are.** -/
theorem blocks_append (base : Nat) (ts us : List ParseTree) :
    blocks part base (ts ++ us) =
      blocks part base ts ++ blocks part (base + nodeCount ts) us := by
  induction ts generalizing base with
  | nil => rfl
  | cons t ts ih =>
    rw [List.cons_append, blocks, ih, blocks, List.append_assoc, nodeCount_cons, Nat.add_assoc]

theorem blocks_isPrefix (base : Nat) {ts us : List ParseTree} (h : ts <+: us) :
    blocks part base ts <+: blocks part base us := by
  obtain ⟨more, rfl⟩ := h
  rw [blocks_append]
  exact List.prefix_append _ _

/-- The tree with the index `i` in the parts of all trees. -/
theorem blocks_split {trees : List ParseTree} {i : Nat} {t : ParseTree}
    (h : trees[i]? = some t) :
    ∃ after, blocks part 0 trees =
      blocks part 0 (trees.take i) ++ part (nodeCount (trees.take i)) t ++ after := by
  obtain ⟨hi, rfl⟩ := List.getElem?_eq_some_iff.1 h
  have hsplit := blocks_append part 0 (trees.take i) (trees.drop i)
  rw [List.take_append_drop, List.drop_eq_getElem_cons hi, blocks, Nat.zero_add,
    ← List.append_assoc] at hsplit
  exact ⟨_, hsplit⟩

variable {part}

/-- A list that each tree adds its part to. -/
theorem foldl_append_eq_blocks {f : Document → List α}
    (h : ∀ d t, f (d.append t) = f d ++ part d.program.nodes.size t) (d : Document)
    (ts : List ParseTree) :
    f (ts.foldl Document.append d) = f d ++ blocks part d.program.nodes.size ts := by
  induction ts generalizing d with
  | nil => simp [blocks]
  | cons t ts ih =>
    have hsize : (d.append t).program.nodes.size = d.program.nodes.size + t.nodes.size := by
      simp [Document.append]
    rw [List.foldl_cons, ih, h, hsize, blocks, List.append_assoc]

end Blocks

/-! ## Nodes and statements -/

/-- The nodes of a tree with their relatives moved. -/
def movedNodes (base : Nat) (t : ParseTree) : List SyntaxNode := t.nodes.toList.map (·.shift base)

/-- The indices of the statements of a tree, moved. -/
def movedStatements (base : Nat) (t : ParseTree) : List Nat := t.statements.toList.map (· + base)

theorem nodes_merge (document : String) (outcomes : List Outcome) :
    (merge document outcomes).program.nodes.toList =
      blocks movedNodes 0 (outcomes.filterMap Outcome.tree?) := by
  have hadd : ∀ (d : Document) (t : ParseTree), (d.append t).program.nodes.toList =
      d.program.nodes.toList ++ movedNodes d.program.nodes.size t := by
    intro d t
    simp [Document.append, movedNodes]
  exact foldl_append_eq_blocks (f := (·.program.nodes.toList)) hadd (.ofText document.toList) _

theorem statements_merge (document : String) (outcomes : List Outcome) :
    (merge document outcomes).program.statements.toList =
      blocks movedStatements 0 (outcomes.filterMap Outcome.tree?) := by
  have hadd : ∀ (d : Document) (t : ParseTree), (d.append t).program.statements.toList =
      d.program.statements.toList ++ movedStatements d.program.nodes.size t := by
    intro d t
    simp [Document.append, movedStatements]
  exact foldl_append_eq_blocks (f := (·.program.statements.toList)) hadd
    (.ofText document.toList) _

theorem length_blocks_movedNodes (base : Nat) (ts : List ParseTree) :
    (blocks movedNodes base ts).length = nodeCount ts := by
  induction ts generalizing base with
  | nil => rfl
  | cons t ts ih =>
    rw [blocks, List.length_append, ih, nodeCount_cons]
    simp [movedNodes]

/-- The nodes of the document are those of the trees, a block for each tree in order. -/
def Document.InBlocks (d : Document) (trees : List ParseTree) : Prop :=
  d.program.nodes.size = nodeCount trees ∧
    ∀ i t, trees[i]? = some t →
      let base := nodeCount (trees.take i)
      d.program.nodes.extract base (base + t.nodes.size) = t.nodes.map (·.shift base)

/-- **A merged document has a block of nodes for each tree.** -/
theorem merge_inBlocks (document : String) (outcomes : List Outcome) :
    (merge document outcomes).InBlocks (outcomes.filterMap Outcome.tree?) := by
  have hnodes := nodes_merge document outcomes
  constructor
  · rw [← Array.length_toList, hnodes, length_blocks_movedNodes]
  · intro i t ht base
    obtain ⟨after, hsplit⟩ := blocks_split movedNodes ht
    have hbefore := length_blocks_movedNodes 0 ((outcomes.filterMap Outcome.tree?).take i)
    have hlength : (movedNodes base t).length = t.nodes.size := by
      simp [movedNodes]
    apply Array.toList_inj.1
    rw [Array.toList_extract, hnodes, hsplit, List.extract_eq_take_drop, List.append_assoc,
      List.drop_left' hbefore, Nat.add_sub_cancel_left, List.take_left' hlength, Array.toList_map]
    rfl

end EmbeddedScripts
