import EmbeddedScripts.Proofs.Merging
import Mathlib.Data.List.Nodup
import Mathlib.Logic.Relation

/-!
# Merging keeps forests

The nodes of a parse tree make up a forest in pre-order (`PreorderForest`): parents and children name
each other, a node comes before those below it, and these come right after it with nothing in between.

* `PreorderForest.joined`: a forest followed by another one, the indices of which are moved along, is
  a forest.
* `Document.Joins d trees`: the document is a forest in which each tree has a block of indices of its
  own; no link leaves a block, and with its indices moved back the block is the tree.
* `Document.Joins.append`: one more tree keeps that; `merge_joins`: so merging gives it, whatever
  regions without a tree come in between.
-/

namespace EmbeddedScripts

/-! ## Forests -/

/-- The parent of the node with the index `j`. -/
def parentAt (nodes : Array SyntaxNode) (j : Nat) : Option Nat := nodes[j]?.bind (·.parent)

/-- The children of the node with the index `i`. -/
def childrenAt (nodes : Array SyntaxNode) (i : Nat) : List Nat :=
  (nodes[i]?.map (·.children.toList)).getD []

/-- The node with the index `j` is below that with the index `i`, by one or more steps. -/
def Below (nodes : Array SyntaxNode) : Nat → Nat → Prop :=
  Relation.TransGen fun i j => parentAt nodes j = some i

/-- Nodes in pre-order, and the indices of those at the top. -/
structure PreorderForest (nodes : Array SyntaxNode) (statements : Array Nat) : Prop where
  parent_lt_size : ∀ i j, parentAt nodes j = some i → i < nodes.size
  child_lt_size : ∀ i, ∀ j ∈ childrenAt nodes i, j < nodes.size
  /-- Parents and children name each other. -/
  linked : ∀ i j, parentAt nodes j = some i ↔ j ∈ childrenAt nodes i
  once : ∀ i, ∀ j ∈ childrenAt nodes i, (childrenAt nodes i).count j = 1
  parent_lt : ∀ i j, parentAt nodes j = some i → i < j
  increasing : ∀ i, (childrenAt nodes i).Pairwise (· < ·)
  statements_eq :
    statements.toList = (List.range nodes.size).filter fun j => (parentAt nodes j).isNone
  /-- What is below a node comes right after it. -/
  contiguous : ∀ i < nodes.size, ∃ stop, ∀ j, Below nodes i j ↔ i < j ∧ j < stop

theorem lt_size_of_parentAt {nodes : Array SyntaxNode} {i j : Nat}
    (h : parentAt nodes j = some i) : j < nodes.size := by
  apply Classical.byContradiction
  intro hj
  rw [parentAt, Array.getElem?_eq_none (by omega)] at h
  cases h

theorem Below.lt_size {nodes : Array SyntaxNode} {i j : Nat} (h : Below nodes i j) :
    j < nodes.size := by
  cases h with
  | single h => exact lt_size_of_parentAt h
  | tail _ h => exact lt_size_of_parentAt h

theorem preorderForest_empty : PreorderForest #[] #[] where
  parent_lt_size := by simp [parentAt]
  child_lt_size := by simp [childrenAt]
  linked := by simp [parentAt, childrenAt]
  once := by simp [childrenAt]
  parent_lt := by simp [parentAt]
  increasing := by simp [childrenAt]
  statements_eq := rfl
  contiguous := by simp

theorem PreorderForest.lt_size_of_mem {nodes : Array SyntaxNode} {statements : Array Nat}
    (h : PreorderForest nodes statements) {id : Nat} (hid : id ∈ statements) : id < nodes.size := by
  rw [← Array.mem_toList_iff, h.statements_eq] at hid
  exact List.mem_range.1 (List.mem_of_mem_filter hid)

/-! ## One forest after another -/

/-- The nodes of `a` and then those of `b`, which are moved along. -/
def joined (a b : Array SyntaxNode) : Array SyntaxNode := a ++ b.map (·.shift a.size)

section Joined

variable {a b : Array SyntaxNode} {s t : Array Nat}

@[simp] theorem size_joined (a b : Array SyntaxNode) : (joined a b).size = a.size + b.size := by
  simp [joined]

theorem parentAt_joined_left {j : Nat} (h : j < a.size) : parentAt (joined a b) j = parentAt a j := by
  simp [parentAt, joined, Array.getElem?_append_left h]

theorem parentAt_joined_right (a b : Array SyntaxNode) (j : Nat) :
    parentAt (joined a b) (j + a.size) = (parentAt b j).map (· + a.size) := by
  rw [parentAt, joined, Array.getElem?_append_right (Nat.le_add_left _ _), Nat.add_sub_cancel,
    Array.getElem?_map, parentAt]
  cases b[j]? with
  | none => rfl
  | some n => rfl

theorem childrenAt_joined_left {i : Nat} (h : i < a.size) :
    childrenAt (joined a b) i = childrenAt a i := by
  simp [childrenAt, joined, Array.getElem?_append_left h]

theorem childrenAt_joined_right (a b : Array SyntaxNode) (i : Nat) :
    childrenAt (joined a b) (i + a.size) = (childrenAt b i).map (· + a.size) := by
  rw [childrenAt, joined, Array.getElem?_append_right (Nat.le_add_left _ _), Nat.add_sub_cancel,
    Array.getElem?_map, childrenAt]
  cases b[i]? with
  | none => rfl
  | some n => simp [SyntaxNode.shift]

/-- An index of `joined a b` is one of `a`, or one of `b` moved along. -/
theorem lt_or_exists_add (size j : Nat) : j < size ∨ ∃ k, j = k + size := by
  by_cases h : j < size
  · exact .inl h
  · exact .inr ⟨j - size, by omega⟩

/-- **A link stays in its forest.** -/
theorem parentAt_joined_iff {i j : Nat} :
    parentAt (joined a b) j = some i ↔
      parentAt a j = some i ∨
        ∃ i' j', i = i' + a.size ∧ j = j' + a.size ∧ parentAt b j' = some i' := by
  constructor
  · intro h
    rcases lt_or_exists_add a.size j with hj | ⟨k, rfl⟩
    · rw [parentAt_joined_left hj] at h
      exact .inl h
    · rw [parentAt_joined_right] at h
      obtain ⟨i', hi, rfl⟩ := Option.map_eq_some_iff.1 h
      exact .inr ⟨i', k, rfl, rfl, hi⟩
  · rintro (h | ⟨i', j', rfl, rfl, h⟩)
    · rwa [parentAt_joined_left (lt_size_of_parentAt h)]
    · rw [parentAt_joined_right, h, Option.map_some]

theorem below_joined_left {i j : Nat} (hi : i < a.size) :
    Below (joined a b) i j ↔ Below a i j := by
  constructor
  · intro h
    induction h with
    | single h =>
      rcases parentAt_joined_iff.1 h with hlink | ⟨i', j', rfl, -, -⟩
      · exact .single hlink
      · omega
    | tail _ h ih =>
      have hlt := Below.lt_size ih
      rcases parentAt_joined_iff.1 h with hlink | ⟨i', j', rfl, -, -⟩
      · exact .tail ih hlink
      · omega
  · exact Relation.TransGen.mono (fun _ _ hlink => parentAt_joined_iff.2 (.inl hlink)) i j

theorem below_joined_right (ha : PreorderForest a s) {i j : Nat} :
    Below (joined a b) (i + a.size) j ↔ ∃ k, j = k + a.size ∧ Below b i k := by
  have hlink : ∀ {k j : Nat}, parentAt (joined a b) j = some (k + a.size) →
      ∃ l, j = l + a.size ∧ parentAt b l = some k := by
    intro k j h
    rcases parentAt_joined_iff.1 h with hleft | ⟨i', j', hi, rfl, hright⟩
    · have := ha.parent_lt_size _ _ hleft
      omega
    · obtain rfl : k = i' := by omega
      exact ⟨j', rfl, hright⟩
  constructor
  · intro h
    induction h with
    | single h =>
      obtain ⟨l, rfl, hl⟩ := hlink h
      exact ⟨l, rfl, .single hl⟩
    | tail _ h ih =>
      obtain ⟨k, rfl, hk⟩ := ih
      obtain ⟨l, rfl, hl⟩ := hlink h
      exact ⟨l, rfl, .tail hk hl⟩
  · rintro ⟨k, rfl, h⟩
    exact Relation.TransGen.lift (· + a.size)
      (fun i j hij => parentAt_joined_iff.2 (.inr ⟨i, j, rfl, rfl, hij⟩)) i k h

/-- **A forest and then another one, moved along, are a forest.** -/
theorem PreorderForest.joined (ha : PreorderForest a s) (hb : PreorderForest b t) :
    PreorderForest (joined a b) (s ++ t.map (· + a.size)) := by
  have hincreasing : ∀ i, (childrenAt (EmbeddedScripts.joined a b) i).Pairwise (· < ·) := by
    intro i
    rcases lt_or_exists_add a.size i with hi | ⟨k, rfl⟩
    · rw [childrenAt_joined_left hi]
      exact ha.increasing i
    · rw [childrenAt_joined_right, List.pairwise_map]
      exact (hb.increasing k).imp fun h => Nat.add_lt_add_right h _
  have hlinked : ∀ i j, parentAt (EmbeddedScripts.joined a b) j = some i ↔
      j ∈ childrenAt (EmbeddedScripts.joined a b) i := by
    intro i j
    rw [parentAt_joined_iff]
    rcases lt_or_exists_add a.size i with hi | ⟨k, rfl⟩
    · rw [childrenAt_joined_left hi, ← ha.linked]
      refine ⟨?_, .inl⟩
      rintro (h | ⟨i', j', rfl, -, -⟩)
      · exact h
      · omega
    · rw [childrenAt_joined_right, List.mem_map]
      constructor
      · rintro (h | ⟨i', j', hi, rfl, h⟩)
        · have := ha.parent_lt_size _ _ h
          omega
        · obtain rfl : k = i' := by omega
          exact ⟨j', (hb.linked _ _).1 h, rfl⟩
      · rintro ⟨j', hj, rfl⟩
        exact .inr ⟨k, j', rfl, rfl, (hb.linked _ _).2 hj⟩
  refine ⟨fun i j h => ?_, fun i j h => ?_, hlinked, fun i j h => ?_, fun i j h => ?_, hincreasing,
    ?_, fun i hi => ?_⟩
  · rw [size_joined]
    rcases parentAt_joined_iff.1 h with hleft | ⟨i', j', rfl, -, hright⟩
    · have := ha.parent_lt_size _ _ hleft
      omega
    · have := hb.parent_lt_size _ _ hright
      omega
  · exact lt_size_of_parentAt ((hlinked i j).2 h)
  · exact List.count_eq_one_of_mem ((hincreasing i).imp Nat.ne_of_lt) h
  · rcases parentAt_joined_iff.1 h with hleft | ⟨i', j', rfl, rfl, hright⟩
    · exact ha.parent_lt _ _ hleft
    · exact Nat.add_lt_add_right (hb.parent_lt _ _ hright) _
  · rw [size_joined, List.range_add, List.filter_append, Array.toList_append, Array.toList_map,
      ha.statements_eq, hb.statements_eq, List.filter_map]
    congr 1
    · refine List.filter_congr fun j hj => ?_
      rw [parentAt_joined_left (List.mem_range.1 hj)]
    · have hcomm : (fun j => a.size + j) = (· + a.size) := by
        funext j
        exact Nat.add_comm _ _
      rw [hcomm]
      congr 1
      refine List.filter_congr fun j _ => ?_
      simp [parentAt_joined_right]
  · rcases lt_or_exists_add a.size i with hlt | ⟨k, rfl⟩
    · obtain ⟨stop, hstop⟩ := ha.contiguous i hlt
      exact ⟨stop, fun j => (below_joined_left hlt).trans (hstop j)⟩
    · rw [size_joined] at hi
      obtain ⟨stop, hstop⟩ := hb.contiguous k (by omega)
      refine ⟨stop + a.size, fun j => (below_joined_right ha).trans ?_⟩
      constructor
      · rintro ⟨l, rfl, hl⟩
        have := (hstop l).1 hl
        omega
      · rintro ⟨h1, h2⟩
        exact ⟨j - a.size, by omega, (hstop _).2 (by omega)⟩

end Joined

/-! ## Blocks -/

/-- The node with all its relatives moved back by `base` places. -/
def SyntaxNode.unshift (base : Nat) (n : SyntaxNode) : SyntaxNode :=
  { n with parent := n.parent.map (· - base), children := n.children.map (· - base) }

@[simp] theorem SyntaxNode.unshift_shift (base : Nat) (n : SyntaxNode) :
    (n.shift base).unshift base = n := by
  simp [shift, unshift, Function.comp_def]

/-- The number of nodes of several trees. -/
def nodeCount : List ParseTree → Nat
  | [] => 0
  | t :: ts => t.nodes.size + nodeCount ts

@[simp] theorem nodeCount_cons (t : ParseTree) (ts : List ParseTree) :
    nodeCount (t :: ts) = t.nodes.size + nodeCount ts := rfl

@[simp] theorem nodeCount_append (ts us : List ParseTree) :
    nodeCount (ts ++ us) = nodeCount ts + nodeCount us := by
  induction ts with
  | nil => simp [nodeCount]
  | cons t ts ih => simp [ih, Nat.add_assoc]

/-- The indices of the nodes of the tree `t` in a document where `base` nodes come before it. -/
def InBlock (base : Nat) (t : ParseTree) (id : Nat) : Prop := base ≤ id ∧ id < base + t.nodes.size

instance (base : Nat) (t : ParseTree) (id : Nat) : Decidable (InBlock base t id) :=
  inferInstanceAs (Decidable (_ ∧ _))

/-- The nodes of the block of `t`, moved back. -/
def Document.blockNodes (d : Document) (base : Nat) (t : ParseTree) : Array SyntaxNode :=
  (d.program.nodes.extract base (base + t.nodes.size)).map (·.unshift base)

/-- The statements of the block of `t`, moved back. -/
def Document.blockStatements (d : Document) (base : Nat) (t : ParseTree) : Array Nat :=
  (d.program.statements.filter fun id => InBlock base t id).map (· - base)

/-- The document is made of the trees, one after the other. -/
structure Document.Joins (d : Document) (trees : List ParseTree) : Prop where
  forest : PreorderForest d.program.nodes d.program.statements
  /-- Each statement has its node. -/
  statements_found : d.statements.toList.map some = d.program.statements.toList.map d.node?
  size : d.program.nodes.size = nodeCount trees
  /-- A link, from a child or from a parent, leads to a node of the same tree. -/
  within : ∀ i j, parentAt d.program.nodes j = some i ∨ j ∈ childrenAt d.program.nodes i →
    ∃ k t, trees[k]? = some t ∧ InBlock (nodeCount (trees.take k)) t i ∧
      InBlock (nodeCount (trees.take k)) t j
  /-- The block of a tree is the tree. -/
  blocks : ∀ k t, trees[k]? = some t →
    d.blockNodes (nodeCount (trees.take k)) t = t.nodes ∧
      d.blockStatements (nodeCount (trees.take k)) t = t.statements
  comments : d.comments.toList = trees.flatMap (·.comments.toList)
  tokens : d.tokens.toList = trees.flatMap (·.tokens.toList)

theorem nodeCount_take_add_le {trees : List ParseTree} {k : Nat} {t : ParseTree}
    (h : trees[k]? = some t) : nodeCount (trees.take k) + t.nodes.size ≤ nodeCount trees := by
  obtain ⟨hk, rfl⟩ := List.getElem?_eq_some_iff.1 h
  have hsplit := List.take_append_drop k trees
  rw [List.drop_eq_getElem_cons hk] at hsplit
  conv => rhs; rw [← hsplit]
  rw [nodeCount_append, nodeCount_cons]
  omega

theorem PreorderForest.statements_found {d : Document}
    (h : PreorderForest d.program.nodes d.program.statements) :
    d.statements.toList.map some = d.program.statements.toList.map d.node? := by
  rw [Document.statements, Array.toList_filterMap, List.map_filterMap_some_eq_filter_map_isSome]
  refine List.filter_eq_self.2 fun n hn => ?_
  obtain ⟨id, hid, rfl⟩ := List.mem_map.1 hn
  have := h.lt_size_of_mem (Array.mem_toList_iff.1 hid)
  simp [this]

namespace Document

variable {d : Document} {t : ParseTree} {trees : List ParseTree}

/-- An earlier block is not touched by a later tree. -/
theorem block_append_of_le {base : Nat} {u : ParseTree}
    (h : base + u.nodes.size ≤ d.program.nodes.size) :
    (d.append t).blockNodes base u = d.blockNodes base u ∧
      (d.append t).blockStatements base u = d.blockStatements base u := by
  constructor
  · simp only [blockNodes, append]
    rw [Array.extract_append, Nat.sub_eq_zero_of_le h]
    simp
  · have hnone : (t.statements.map (· + d.program.nodes.size)).filter
        (fun id => InBlock base u id) = #[] := by
      rw [Array.filter_eq_empty_iff]
      intro id hid
      obtain ⟨k, -, rfl⟩ := Array.mem_map.1 hid
      rw [decide_eq_true_eq]
      rintro ⟨-, hlt⟩
      omega
    simp only [blockStatements, append]
    rw [Array.filter_append Array.size_append, hnone, Array.append_empty]

/-- The last block is the last tree. -/
theorem block_append_self (hd : PreorderForest d.program.nodes d.program.statements)
    (ht : PreorderForest t.nodes t.statements) :
    (d.append t).blockNodes d.program.nodes.size t = t.nodes ∧
      (d.append t).blockStatements d.program.nodes.size t = t.statements := by
  constructor
  · simp only [blockNodes, append]
    rw [Array.extract_append_right]
    simp [Function.comp_def]
  · have hnone : d.program.statements.filter
        (fun id => InBlock d.program.nodes.size t id) = #[] := by
      rw [Array.filter_eq_empty_iff]
      intro id hid
      have := hd.lt_size_of_mem hid
      rw [decide_eq_true_eq]
      rintro ⟨hle, -⟩
      omega
    have hall : (t.statements.map (· + d.program.nodes.size)).filter
        (fun id => InBlock d.program.nodes.size t id) =
          t.statements.map (· + d.program.nodes.size) := by
      rw [Array.filter_eq_self]
      intro id hid
      obtain ⟨k, hk, rfl⟩ := Array.mem_map.1 hid
      have := ht.lt_size_of_mem hk
      rw [decide_eq_true_eq]
      exact ⟨by omega, by omega⟩
    simp only [blockStatements, append]
    rw [Array.filter_append Array.size_append, hnone, hall, Array.empty_append]
    simp [Function.comp_def]

/-- **One more tree.** -/
theorem Joins.append (h : d.Joins trees) (ht : PreorderForest t.nodes t.statements) :
    (d.append t).Joins (trees ++ [t]) := by
  have hforest : PreorderForest (d.append t).program.nodes (d.append t).program.statements :=
    h.forest.joined ht
  have hlast : (trees ++ [t])[trees.length]? = some t := by simp
  have hbase : nodeCount ((trees ++ [t]).take trees.length) = d.program.nodes.size := by
    rw [List.take_left, h.size]
  have hearlier : ∀ {k u}, trees[k]? = some u → (trees ++ [t])[k]? = some u ∧
      nodeCount ((trees ++ [t]).take k) = nodeCount (trees.take k) := by
    intro k u hk
    obtain ⟨hlt, -⟩ := List.getElem?_eq_some_iff.1 hk
    rw [List.getElem?_append_left hlt, List.take_append_of_le_length (Nat.le_of_lt hlt)]
    exact ⟨hk, rfl⟩
  refine ⟨hforest, hforest.statements_found, ?_, fun i j hij => ?_, fun k u hk => ?_, ?_, ?_⟩
  · rw [nodeCount_append, ← h.size]
    exact size_joined _ _
  · have hlink : parentAt (joined d.program.nodes t.nodes) j = some i := by
      rcases hij with hij | hij
      · exact hij
      · exact (hforest.linked i j).2 hij
    rcases parentAt_joined_iff.1 hlink with hleft | ⟨i', j', rfl, rfl, hright⟩
    · obtain ⟨k, u, hk, hi, hj⟩ := h.within i j (.inl hleft)
      obtain ⟨hget, hcount⟩ := hearlier hk
      exact ⟨k, u, hget, hcount ▸ hi, hcount ▸ hj⟩
    · have hi := ht.parent_lt_size _ _ hright
      have hj := lt_size_of_parentAt hright
      refine ⟨trees.length, t, hlast, ?_, ?_⟩
      · rw [hbase]
        exact ⟨by omega, by omega⟩
      · rw [hbase]
        exact ⟨by omega, by omega⟩
  · rcases Nat.lt_or_ge k trees.length with hlt | hge
    · rw [List.getElem?_append_left hlt] at hk
      obtain ⟨-, hcount⟩ := hearlier hk
      have hle := nodeCount_take_add_le hk
      rw [← h.size] at hle
      obtain ⟨hnodes, hstatements⟩ := h.blocks k u hk
      obtain ⟨hn, hs⟩ := block_append_of_le (t := t) hle
      rw [hcount, hn, hs]
      exact ⟨hnodes, hstatements⟩
    · rw [List.getElem?_append_right hge] at hk
      obtain ⟨hzero, rfl⟩ : k = trees.length ∧ t = u := by
        rcases Nat.eq_zero_or_pos (k - trees.length) with h0 | hpos
        · rw [h0] at hk
          exact ⟨by omega, by simpa using hk⟩
        · rw [List.getElem?_eq_none hpos] at hk
          cases hk
      rw [hzero, hbase]
      exact block_append_self h.forest ht
  · rw [List.flatMap_append, ← h.comments]
    simp [Document.append]
  · rw [List.flatMap_append, ← h.tokens]
    simp [Document.append]

/-- Any number of trees more. -/
theorem Joins.foldl_append {more : List ParseTree} (h : d.Joins trees)
    (hmore : ∀ t ∈ more, PreorderForest t.nodes t.statements) :
    (more.foldl Document.append d).Joins (trees ++ more) := by
  induction more generalizing d trees with
  | nil => simpa using h
  | cons t more ih =>
    rw [List.foldl_cons, List.append_cons]
    exact ih (h.append (hmore t List.mem_cons_self)) fun u hu => hmore u (List.mem_cons_of_mem _ hu)

theorem joins_ofText (text : List Char) : (ofText text).Joins [] where
  forest := preorderForest_empty
  statements_found := rfl
  size := rfl
  within := by simp [ofText, parentAt, childrenAt]
  blocks := by simp
  comments := rfl
  tokens := rfl

end Document

/-! ## Merging -/

/-- Outcomes without a tree leave nothing. -/
theorem filterMap_tree?_filter (outcomes : List Outcome) :
    (outcomes.filter Outcome.isPresent).filterMap Outcome.tree? =
      outcomes.filterMap Outcome.tree? := by
  induction outcomes with
  | nil => rfl
  | cons o outcomes ih =>
    cases o with
    | present t =>
      have ht : Outcome.tree? (.present t) = some t := rfl
      rw [List.filter_cons_of_pos rfl, List.filterMap_cons_some ht, List.filterMap_cons_some ht, ih]
    | absent reason =>
      have ht : Outcome.tree? (.absent reason) = none := rfl
      rw [List.filter_cons_of_neg (by simp [Outcome.isPresent]), List.filterMap_cons_none ht, ih]

/-- **Merging joins forests.** If each tree is a forest in pre-order, the merged document is one, made
of a block for each tree; and outcomes without a tree, however many and wherever they stand, change
nothing. -/
theorem merge_joins (document : String) {outcomes : List Outcome}
    (h : ∀ t, .present t ∈ outcomes → PreorderForest t.nodes t.statements) :
    (merge document outcomes).Joins (outcomes.filterMap Outcome.tree?) ∧
      ∀ others, others.filter Outcome.isPresent = outcomes.filter Outcome.isPresent →
        merge document others = merge document outcomes := by
  constructor
  · have hforests : ∀ t ∈ outcomes.filterMap Outcome.tree?, PreorderForest t.nodes t.statements :=
      fun t ht => h t (mem_filterMap_tree?.1 ht)
    have := (Document.joins_ofText document.toList).foldl_append hforests
    rwa [List.nil_append] at this
  · intro others hothers
    unfold merge
    rw [← filterMap_tree?_filter others, hothers, filterMap_tree?_filter]

/-- The tree of a statement that is a name. -/
def nameStatement : ParseTree :=
  { nodes := #[{ kind := "expression_statement", span := default, children := #[1] },
      { kind := "identifier", span := default, text := some "a", parent := some 0 }]
    statements := #[0]
    tokens := #[⟨"identifier", "a", default⟩]
    span := default }

theorem nameStatement_forest :
    PreorderForest nameStatement.nodes nameStatement.statements := by
  have hparent : ∀ j, parentAt nameStatement.nodes j = if j = 1 then some 0 else none
    | 0 => rfl
    | 1 => rfl
    | _ + 2 => rfl
  have hchildren : ∀ i, childrenAt nameStatement.nodes i = if i = 0 then [1] else []
    | 0 => rfl
    | 1 => rfl
    | _ + 2 => rfl
  have hbelow : ∀ {i j}, Below nameStatement.nodes i j ↔ i = 0 ∧ j = 1 := by
    intro i j
    constructor
    · intro h
      induction h with
      | single h => simp_all
      | tail _ h ih => simp_all
    · rintro ⟨rfl, rfl⟩
      exact .single rfl
  have hsize : nameStatement.nodes.size = 2 := rfl
  refine ⟨?_, ?_, ?_, ?_, ?_, ?_, rfl, fun i hi => ⟨2 - i, fun j => ?_⟩⟩
  · simp [hparent, hsize]
  · simp [hchildren, hsize]
  · intro i j
    rw [hparent, hchildren]
    split
    · split
      · simp_all
      · simp_all [eq_comm]
    · split
      · simp_all
      · simp
  · intro i j hj
    rw [hchildren] at hj ⊢
    split
    · simp_all
    · simp_all
  · simp [hparent]
  · intro i
    rw [hchildren]
    split
    · simp
    · simp
  · rw [hbelow]
    omega

theorem merge_joins_nameStatements :
    let outcomes : List Outcome :=
      [.present nameStatement, .absent .empty, .present { span := default }, .present nameStatement]
    (∀ t, .present t ∈ outcomes → PreorderForest t.nodes t.statements) ∧
      (merge "a a" outcomes).program.nodes.map (fun n => (n.parent, n.children)) =
        #[(none, #[1]), (some 0, #[]), (none, #[3]), (some 2, #[])] ∧
      (merge "a a" outcomes).program.statements = #[0, 2] ∧
      (merge "a a" outcomes).Joins (outcomes.filterMap Outcome.tree?) ∧
      ∀ others, others.filter Outcome.isPresent = outcomes.filter Outcome.isPresent →
        merge "a a" others = merge "a a" outcomes := by
  intro outcomes
  have h : ∀ t, .present t ∈ outcomes → PreorderForest t.nodes t.statements := by
    intro t ht
    simp only [outcomes, List.mem_cons, Outcome.present.injEq, reduceCtorEq, false_or,
      List.not_mem_nil, or_false] at ht
    rcases ht with rfl | rfl | rfl
    · exact nameStatement_forest
    · exact preorderForest_empty
    · exact nameStatement_forest
  exact ⟨h, by decide +kernel, by decide +kernel, merge_joins "a a" h⟩

end EmbeddedScripts
