import EmbeddedScripts.Proofs.Forests

/-!
# Outlines and their flattening

An `Outline` is a tree of nodes, each with what a node of an arena says of itself. `flattenAll` lists
the nodes of several outlines in pre-order, with links by index.

* `PreorderForest.planted`: a forest under one more node is a forest; so with `PreorderForest.joined`
  the flattening of outlines is one (`forest_flattenAll`).
* `rebuild`: reads outlines off an arena by following the links to children;
  `rebuild_flattenAll`: that undoes the flattening, so that outlines with the same nodes are the same
  (`flattenAll_inj`).
* `Outline.Nested`, `PreorderForest.spansNested`: if spans are nested in the outlines of an arena, they
  are nested in the arena.
-/

namespace EmbeddedScripts

/-! ## A forest under one more node -/

/-- The node moved by `base` places, and put under `parent` if it has no parent of its own. -/
def SyntaxNode.hang (base : Nat) (parent : Option Nat) (n : SyntaxNode) : SyntaxNode :=
  { n with
    parent := n.parent.elim parent fun p => some (p + base)
    children := n.children.map (· + base) }

theorem SyntaxNode.hang_none (base : Nat) (n : SyntaxNode) : n.hang base none = n.shift base := by
  cases h : n.parent with
  | none => simp [hang, shift, h]
  | some p => simp [hang, shift, h]

theorem SyntaxNode.hang_hang (base base' : Nat) (parent : Option Nat) (p : Nat) (n : SyntaxNode) :
    (n.hang base (some p)).hang base' parent = n.hang (base + base') (some (p + base')) := by
  cases h : n.parent with
  | none => simp [hang, h, Function.comp_def, Nat.add_assoc]
  | some q => simp [hang, h, Function.comp_def, Nat.add_assoc]

/-- The node that has the statements `s` of the nodes `b` below it, and then these nodes. -/
def planted (root : SyntaxNode) (b : Array SyntaxNode) (s : Array Nat) : Array SyntaxNode :=
  #[{ root with parent := none, children := s.map (· + 1) }] ++ b.map (·.hang 1 (some 0))

section Planted

variable {root : SyntaxNode} {b : Array SyntaxNode} {s : Array Nat}

theorem size_planted (root : SyntaxNode) (b : Array SyntaxNode) (s : Array Nat) :
    (planted root b s).size = b.size + 1 := by
  simp [planted, Nat.add_comm]

theorem getElem?_planted_succ (i : Nat) :
    (planted root b s)[i + 1]? = b[i]?.map (·.hang 1 (some 0)) := by
  simp [planted, Array.getElem?_append]

theorem getElem?_planted_zero :
    (planted root b s)[0]? = some { root with parent := none, children := s.map (· + 1) } := by
  rw [planted, Array.getElem?_append_left (Nat.zero_lt_one)]
  rfl

theorem parentAt_planted_zero : parentAt (planted root b s) 0 = none := by
  rw [parentAt, getElem?_planted_zero]
  rfl

theorem childrenAt_planted_zero :
    childrenAt (planted root b s) 0 = s.toList.map (· + 1) := by
  rw [childrenAt, getElem?_planted_zero]
  exact Array.toList_map

theorem childrenAt_planted_succ (i : Nat) :
    childrenAt (planted root b s) (i + 1) = (childrenAt b i).map (· + 1) := by
  rw [childrenAt, getElem?_planted_succ, childrenAt]
  cases b[i]? with
  | none => rfl
  | some n => simp [SyntaxNode.hang]

/-- **Links of a planted forest**: those of the forest, and one to the new node from each node that
had no parent. -/
theorem parentAt_planted_iff {i j : Nat} :
    parentAt (planted root b s) j = some i ↔
      ∃ k, j = k + 1 ∧ k < b.size ∧
        (i = 0 ∧ parentAt b k = none ∨ ∃ i', i = i' + 1 ∧ parentAt b k = some i') := by
  cases j with
  | zero => simp [parentAt_planted_zero]
  | succ k =>
    simp only [parentAt, getElem?_planted_succ]
    by_cases hk : k < b.size
    · cases hp : b[k].parent with
      | none => simp [hk, hp, SyntaxNode.hang, eq_comm]
      | some p => simp [hk, hp, SyntaxNode.hang, eq_comm]
    · rw [Array.getElem?_eq_none (by omega)]
      simp only [Option.map_none, Option.bind_none, reduceCtorEq, false_iff]
      rintro ⟨k', hk', hlt, -⟩
      omega

theorem below_planted_zero (hb : PreorderForest b s) {j : Nat} :
    Below (planted root b s) 0 j ↔ 0 < j ∧ j < b.size + 1 := by
  constructor
  · intro h
    have hlt := h.lt_size
    rw [size_planted] at hlt
    refine ⟨?_, hlt⟩
    rcases Nat.eq_zero_or_pos j with rfl | hpos
    · rcases Relation.TransGen.tail'_iff.1 h with ⟨i, -, hlink⟩
      rw [parentAt_planted_zero] at hlink
      cases hlink
    · exact hpos
  · rintro ⟨hpos, hlt⟩
    -- up from the node: its parent comes before it, and the last one is the new node
    induction j using Nat.strongRecOn with
    | ind j ih =>
      obtain ⟨k, rfl⟩ : ∃ k, j = k + 1 := ⟨j - 1, by omega⟩
      cases hp : parentAt b k with
      | none => exact .single (parentAt_planted_iff.2 ⟨k, rfl, by omega, .inl ⟨rfl, hp⟩⟩)
      | some p =>
        have hlink : parentAt (planted root b s) (k + 1) = some (p + 1) :=
          parentAt_planted_iff.2 ⟨k, rfl, by omega, .inr ⟨p, rfl, hp⟩⟩
        have hpk := hb.parent_lt _ _ hp
        exact .tail (ih (p + 1) (by omega) (by omega) (by omega)) hlink

theorem below_planted_succ {i j : Nat} :
    Below (planted root b s) (i + 1) j ↔ ∃ k, j = k + 1 ∧ Below b i k := by
  have hlink : ∀ {i j : Nat}, parentAt (planted root b s) j = some (i + 1) →
      ∃ k, j = k + 1 ∧ parentAt b k = some i := by
    intro i j h
    obtain ⟨k, rfl, -, h | ⟨i', hi, hp⟩⟩ := parentAt_planted_iff.1 h
    · cases h.1
    · cases hi
      exact ⟨k, rfl, hp⟩
  constructor
  · intro h
    induction h with
    | single h =>
      obtain ⟨k, rfl, hk⟩ := hlink h
      exact ⟨k, rfl, .single hk⟩
    | tail _ h ih =>
      obtain ⟨k, rfl, hk⟩ := ih
      obtain ⟨l, rfl, hl⟩ := hlink h
      exact ⟨l, rfl, .tail hk hl⟩
  · rintro ⟨k, rfl, h⟩
    refine Relation.TransGen.lift (· + 1) (fun i j hij => ?_) i k h
    exact parentAt_planted_iff.2 ⟨j, rfl, lt_size_of_parentAt hij, .inr ⟨i, rfl, hij⟩⟩

theorem PreorderForest.mem_statements_iff (hb : PreorderForest b s) {k : Nat} :
    k ∈ s.toList ↔ k < b.size ∧ parentAt b k = none := by
  rw [hb.statements_eq, List.mem_filter, List.mem_range, Option.isNone_iff_eq_none]

theorem linked_planted (hb : PreorderForest b s) {i j : Nat} :
    parentAt (planted root b s) j = some i ↔ j ∈ childrenAt (planted root b s) i := by
  rw [parentAt_planted_iff]
  cases i with
  | zero =>
    simp only [childrenAt_planted_zero, List.mem_map, hb.mem_statements_iff]
    constructor
    · rintro ⟨k, rfl, hk, ⟨-, hp⟩ | ⟨i', hi, -⟩⟩
      · exact ⟨k, ⟨hk, hp⟩, rfl⟩
      · cases hi
    · rintro ⟨k, ⟨hk, hp⟩, rfl⟩
      exact ⟨k, rfl, hk, .inl ⟨trivial, hp⟩⟩
  | succ i =>
    simp only [childrenAt_planted_succ, List.mem_map, ← hb.linked]
    constructor
    · rintro ⟨k, rfl, -, ⟨hi, -⟩ | ⟨i', hi, hp⟩⟩
      · cases hi
      · cases hi
        exact ⟨k, hp, rfl⟩
    · rintro ⟨k, hp, rfl⟩
      exact ⟨k, rfl, lt_size_of_parentAt hp, .inr ⟨i, rfl, hp⟩⟩

theorem lt_of_parentAt_planted (hb : PreorderForest b s) {i j : Nat}
    (h : parentAt (planted root b s) j = some i) : i < j := by
  obtain ⟨k, rfl, -, ⟨rfl, -⟩ | ⟨i', rfl, hp⟩⟩ := parentAt_planted_iff.1 h
  · exact Nat.zero_lt_succ k
  · exact Nat.add_lt_add_right (hb.parent_lt _ _ hp) 1

theorem pairwise_childrenAt_planted (hb : PreorderForest b s) (i : Nat) :
    (childrenAt (planted root b s) i).Pairwise (· < ·) := by
  cases i with
  | zero =>
    rw [childrenAt_planted_zero, List.pairwise_map, hb.statements_eq]
    exact (List.pairwise_lt_range.filter _).imp fun h => Nat.add_lt_add_right h 1
  | succ i =>
    rw [childrenAt_planted_succ, List.pairwise_map]
    exact (hb.increasing i).imp fun h => Nat.add_lt_add_right h 1

/-- Only the new node is without a parent. -/
theorem exists_parentAt_planted {k : Nat} (hk : k < b.size) :
    ∃ i, parentAt (planted root b s) (k + 1) = some i := by
  cases hp : parentAt b k with
  | none => exact ⟨0, parentAt_planted_iff.2 ⟨k, rfl, hk, .inl ⟨rfl, hp⟩⟩⟩
  | some p => exact ⟨p + 1, parentAt_planted_iff.2 ⟨k, rfl, hk, .inr ⟨p, rfl, hp⟩⟩⟩

/-- **A forest under one more node is a forest.** -/
theorem PreorderForest.planted (hb : PreorderForest b s) :
    PreorderForest (planted root b s) #[0] := by
  refine ⟨fun i j h => ?_, fun i j h => ?_, fun i j => linked_planted hb, fun i j h => ?_,
    fun i j h => lt_of_parentAt_planted hb h, pairwise_childrenAt_planted hb, ?_, fun i hi => ?_⟩
  · exact Nat.lt_trans (lt_of_parentAt_planted hb h) (lt_size_of_parentAt h)
  · exact lt_size_of_parentAt ((linked_planted hb).2 h)
  · exact List.count_eq_one_of_mem ((pairwise_childrenAt_planted hb i).imp Nat.ne_of_lt) h
  · rw [size_planted, List.range_succ_eq_map, List.filter_cons_of_pos (by simp [parentAt_planted_zero])]
    refine congrArg (0 :: ·) (List.filter_eq_nil_iff.2 fun j hj => ?_).symm
    obtain ⟨k, hk, rfl⟩ := List.mem_map.1 hj
    obtain ⟨i, hi⟩ := @exists_parentAt_planted root b s k (List.mem_range.1 hk)
    simp [hi]
  · rw [size_planted] at hi
    cases i with
    | zero => exact ⟨b.size + 1, fun j => below_planted_zero hb⟩
    | succ i =>
      obtain ⟨stop, hstop⟩ := hb.contiguous i (by omega)
      refine ⟨stop + 1, fun j => below_planted_succ.trans ?_⟩
      constructor
      · rintro ⟨k, rfl, hk⟩
        have := (hstop k).1 hk
        omega
      · rintro ⟨h1, h2⟩
        exact ⟨j - 1, by omega, (hstop _).2 (by omega)⟩

end Planted

/-! ## Outlines -/

/-- A tree of nodes as an arena shows them. -/
inductive Outline where
  | node (kind : String) (span : Span) (text : Option String) (parts : List Outline)
deriving Repr, Inhabited

namespace Outline

def span : Outline → Span
  | node _ s _ _ => s

def parts : Outline → List Outline
  | node _ _ _ ps => ps

mutual

/-- The number of nodes of an outline. -/
def size : Outline → Nat
  | node _ _ _ ps => 1 + sizeAll ps

/-- The number of nodes of several outlines. -/
def sizeAll : List Outline → Nat
  | [] => 0
  | t :: ts => t.size + sizeAll ts

end

/-- The indices of the outlines themselves where the nodes of several outlines follow each other from
the index `base` on. -/
def roots (base : Nat) : List Outline → List Nat
  | [] => []
  | t :: ts => base :: roots (base + t.size) ts

mutual

/-- The nodes of an outline in pre-order, from the index `base` on, below `parent`. -/
def flatten (base : Nat) (parent : Option Nat) : Outline → List SyntaxNode
  | node kind span text ps =>
    { kind, span, text, parent, children := (roots (base + 1) ps).toArray } ::
      flattenAll (base + 1) (some base) ps

/-- The nodes of several outlines below the same parent. -/
def flattenAll (base : Nat) (parent : Option Nat) : List Outline → List SyntaxNode
  | [] => []
  | t :: ts => t.flatten base parent ++ flattenAll (base + t.size) parent ts

end

/-- What holds of outlines if it holds of the parts of the first, and of the others, holds of any. -/
@[elab_as_elim]
theorem induct {motive : List Outline → Prop} (nil : motive [])
    (cons : ∀ kind span text ps ts, motive ps → motive ts →
      motive (node kind span text ps :: ts)) : ∀ ts, motive ts
  | [] => nil
  | node kind span text ps :: ts =>
    cons kind span text ps ts (induct nil cons ps) (induct nil cons ts)

/-! ## Indices -/

theorem length_flattenAll (base : Nat) (parent : Option Nat) (ts : List Outline) :
    (flattenAll base parent ts).length = sizeAll ts := by
  induction ts using induct generalizing base parent with
  | nil => rfl
  | cons kind span text ps ts ihp ih =>
    simp only [flattenAll, flatten, sizeAll, size, List.length_append, List.length_cons, ihp, ih]
    omega

theorem mem_roots {base i : Nat} {ts : List Outline} (h : i ∈ roots base ts) :
    base ≤ i ∧ i < base + sizeAll ts := by
  induction ts generalizing base with
  | nil => simp [roots] at h
  | cons t ts ih =>
    have hsize : 0 < t.size := by
      cases t
      simp only [size]
      omega
    simp only [roots, List.mem_cons] at h
    simp only [sizeAll]
    rcases h with rfl | h
    · omega
    · have := ih h
      omega

theorem roots_add (base k : Nat) (ts : List Outline) :
    roots (base + k) ts = (roots base ts).map (· + k) := by
  induction ts generalizing base with
  | nil => rfl
  | cons t ts ih =>
    simp only [roots, List.map_cons]
    rw [← ih, Nat.add_right_comm]

/-- **Flattening further on** moves the indices. -/
theorem flattenAll_hang (base : Nat) (parent : Option Nat) (ts : List Outline) :
    flattenAll base parent ts = (flattenAll 0 none ts).map (·.hang base parent) := by
  induction ts using induct generalizing base parent with
  | nil => rfl
  | cons kind span text ps ts ihp ih =>
    have hps : flattenAll (base + 1) (some base) ps =
        (flattenAll 1 (some 0) ps).map (·.hang base parent) := by
      rw [ihp (base + 1), ihp 1, List.map_map]
      refine List.map_congr_left fun n _ => ?_
      rw [Function.comp_apply, SyntaxNode.hang_hang, Nat.zero_add, Nat.add_comm 1]
    have hts : ∀ k, flattenAll (base + k) parent ts =
        (flattenAll k none ts).map (·.hang base parent) := by
      intro k
      rw [ih (base + k), ih k, List.map_map]
      refine List.map_congr_left fun n _ => ?_
      cases hn : n.parent with
      | none => simp [SyntaxNode.hang, hn, Function.comp_def, Nat.add_assoc, Nat.add_comm k]
      | some p => simp [SyntaxNode.hang, hn, Function.comp_def, Nat.add_assoc, Nat.add_comm k]
    have hroots : roots (base + 1) ps = (roots 1 ps).map (· + base) := by
      rw [Nat.add_comm base, roots_add]
    simp only [flattenAll, flatten, List.cons_append, List.map_cons, List.map_append, hps, hts,
      hroots, Nat.zero_add]
    simp [SyntaxNode.hang]

/-- An outline and those after it, flattened. -/
theorem flattenAll_cons (kind : String) (span : Span) (text : Option String)
    (ps ts : List Outline) :
    (flattenAll 0 none (node kind span text ps :: ts)).toArray =
      joined (planted { kind, span, text } (flattenAll 0 none ps).toArray (roots 0 ps).toArray)
        (flattenAll 0 none ts).toArray := by
  have hsize : (flattenAll 0 none ps).length + 1 = size (node kind span text ps) := by
    rw [length_flattenAll, size, Nat.add_comm]
  have hroots : roots 1 ps = (roots 0 ps).map (· + 1) := roots_add 0 1 ps
  apply Array.toList_inj.1
  simp only [flattenAll, flatten, Nat.zero_add, joined, size_planted, List.size_toArray, hsize]
  rw [flattenAll_hang 1 (some 0) ps, flattenAll_hang (size _) none ts, hroots]
  simp [planted, SyntaxNode.hang_none]

/-- **Flattened outlines are a forest in pre-order.** -/
theorem forest_flattenAll (ts : List Outline) :
    PreorderForest (flattenAll 0 none ts).toArray (roots 0 ts).toArray := by
  induction ts using induct with
  | nil => exact preorderForest_empty
  | cons kind span text ps ts ihp ih =>
    have hplanted := @PreorderForest.planted { kind, span, text } _ _ ihp
    have hsize : (planted { kind, span, text } (flattenAll 0 none ps).toArray
        (roots 0 ps).toArray).size = size (node kind span text ps) := by
      rw [size_planted, List.size_toArray, length_flattenAll, size, Nat.add_comm]
    have hjoined := hplanted.joined ih
    rw [← flattenAll_cons, hsize] at hjoined
    rw [roots, roots_add]
    simpa using hjoined

/-! ## Reading outlines off an arena -/

/-- The outline of the node with the index `id`. Links that lead back or out of the arena are passed
over. -/
def rebuildAt (nodes : Array SyntaxNode) (id : Nat) : Outline :=
  match nodes[id]? with
  | none => default
  | some n =>
    .node n.kind n.span n.text
      ((n.children.toList.filter fun c => id < c ∧ c < nodes.size).attach.map
        fun c => rebuildAt nodes c.1)
termination_by nodes.size - id
decreasing_by
  have hc := (List.mem_filter.1 c.2).2
  simp only [decide_eq_true_eq] at hc
  omega

/-- The outlines of the statements. -/
def rebuild (nodes : Array SyntaxNode) (statements : Array Nat) : List Outline :=
  statements.toList.map (rebuildAt nodes)

theorem rebuildAt_eq {nodes : Array SyntaxNode} {id : Nat} {n : SyntaxNode}
    (h : nodes[id]? = some n) (hchildren : ∀ c ∈ n.children.toList, id < c ∧ c < nodes.size) :
    rebuildAt nodes id =
      .node n.kind n.span n.text (n.children.toList.map (rebuildAt nodes)) := by
  have hall : (n.children.toList.filter fun c => id < c ∧ c < nodes.size) = n.children.toList :=
    List.filter_eq_self.2 fun c hc => by simpa using hchildren c hc
  rw [rebuildAt, h]
  simp only [List.attach_map_val, hall]

/-- **Flattened outlines are read off again**, whatever nodes stand before and after them. -/
theorem map_rebuildAt_roots (nodes : Array SyntaxNode) (parent : Option Nat) (ts : List Outline)
    {before after : List SyntaxNode}
    (h : nodes.toList = before ++ flattenAll before.length parent ts ++ after) :
    (roots before.length ts).map (rebuildAt nodes) = ts := by
  induction ts using induct generalizing parent before after with
  | nil => rfl
  | cons kind span text ps ts ihp ih =>
    generalize hn : SyntaxNode.mk kind span text parent (roots (before.length + 1) ps).toArray = n
    simp only [flattenAll, flatten, hn] at h
    have hget : nodes[before.length]? = some n := by
      rw [← Array.getElem?_toList, h]
      simp
    have hlength : nodes.size = before.length + (1 + sizeAll ps) + sizeAll ts + after.length := by
      rw [← Array.length_toList, h]
      simp only [List.length_append, List.length_cons, length_flattenAll]
      omega
    have hps : (roots (before.length + 1) ps).map (rebuildAt nodes) = ps := by
      have := @ihp (some before.length) (before ++ [n])
        (flattenAll (before.length + (1 + sizeAll ps)) parent ts ++ after)
      simp only [List.length_append, List.length_singleton] at this
      exact this (by rw [h]; simp [size])
    have hts : (roots (before.length + (1 + sizeAll ps)) ts).map (rebuildAt nodes) = ts := by
      have := @ih parent (before ++ n :: flattenAll (before.length + 1) (some before.length) ps) after
      simp only [List.length_append, List.length_cons, length_flattenAll,
        Nat.add_comm (sizeAll ps)] at this
      exact this (by rw [h]; simp [size])
    have hroot : rebuildAt nodes before.length = node kind span text ps := by
      rw [rebuildAt_eq hget]
      · subst hn
        rw [hps]
      · intro c hc
        rw [← hn] at hc
        have := mem_roots hc
        omega
    rw [roots, List.map_cons, hroot, size, hts]

theorem rebuild_flattenAll (ts : List Outline) :
    rebuild (flattenAll 0 none ts).toArray (roots 0 ts).toArray = ts :=
  @map_rebuildAt_roots _ none ts [] [] (by simp)

/-- Outlines with the same nodes are the same. -/
theorem flattenAll_inj {ts us : List Outline} (h : flattenAll 0 none ts = flattenAll 0 none us) :
    ts = us := by
  have hroots : (roots 0 ts).toArray = (roots 0 us).toArray := by
    apply Array.toList_inj.1
    rw [(forest_flattenAll ts).statements_eq, (forest_flattenAll us).statements_eq, h]
  rw [← rebuild_flattenAll ts, ← rebuild_flattenAll us, h, hroots]

/-! ## Spans -/

/-- The spans of the parts lie within that of their outline, in order and apart, all the way down. -/
inductive Nested : Outline → Prop
  | intro {t : Outline}
    (inside : ∀ p ∈ t.parts, t.span.start ≤ p.span.start ∧ p.span.stop ≤ t.span.stop)
    (ordered : t.parts.Pairwise fun p q => p.span.stop ≤ q.span.start)
    (parts : ∀ p ∈ t.parts, p.Nested) : t.Nested

end Outline

/-- The span of the first node ends before that of the second one starts. -/
def Precedes (nodes : Array SyntaxNode) (i j : Nat) : Prop :=
  ∃ n m, nodes[i]? = some n ∧ nodes[j]? = some m ∧ n.span.stop ≤ m.span.start

/-- The spans of children lie within that of their parent, and those of siblings are in order and
apart. -/
structure SpansNested (nodes : Array SyntaxNode) (statements : Array Nat) : Prop where
  inside : ∀ i j, parentAt nodes j = some i → ∃ n m, nodes[i]? = some n ∧ nodes[j]? = some m ∧
    n.span.start ≤ m.span.start ∧ m.span.stop ≤ n.span.stop
  siblings : ∀ i, (childrenAt nodes i).Pairwise (Precedes nodes)
  statements : statements.toList.Pairwise (Precedes nodes)

namespace PreorderForest

open Outline (rebuildAt rebuild)

variable {nodes : Array SyntaxNode} {statements : Array Nat}
  (hf : PreorderForest nodes statements)
include hf

theorem rebuildAt_eq {i : Nat} {n : SyntaxNode} (h : nodes[i]? = some n) :
    (rebuildAt nodes i).span = n.span ∧
      (rebuildAt nodes i).parts = (childrenAt nodes i).map (rebuildAt nodes) := by
  have hchildren : childrenAt nodes i = n.children.toList := by
    rw [childrenAt, h]
    rfl
  rw [hchildren, Outline.rebuildAt_eq h]
  · exact ⟨rfl, rfl⟩
  · intro c hc
    rw [← hchildren] at hc
    exact ⟨hf.parent_lt _ _ ((hf.linked i c).2 hc), hf.child_lt_size i c hc⟩

theorem rebuildAt_nested (h : ∀ t ∈ rebuild nodes statements, t.Nested) {i : Nat}
    (hi : i < nodes.size) : (rebuildAt nodes i).Nested := by
  -- a node without a parent is a statement, and any other is a part of its parent, which comes before
  induction i using Nat.strongRecOn with
  | ind i ih =>
    cases hp : parentAt nodes i with
    | none =>
      have hmem : i ∈ statements.toList := hf.mem_statements_iff.2 ⟨hi, hp⟩
      exact h _ (List.mem_map_of_mem hmem)
    | some p =>
      have hlt := hf.parent_lt _ _ hp
      have hsize := hf.parent_lt_size _ _ hp
      obtain ⟨-, hparts⟩ := hf.rebuildAt_eq (Array.getElem?_eq_getElem hsize)
      have hmem := List.mem_map_of_mem (f := rebuildAt nodes) ((hf.linked p i).1 hp)
      rw [← hparts] at hmem
      cases ih p hlt hsize with
      | intro _ _ hnested => exact hnested _ hmem

/-- Nodes whose outlines are in order are in order. -/
theorem pairwise_precedes {ids : List Nat} (hids : ∀ i ∈ ids, i < nodes.size)
    (h : (ids.map (rebuildAt nodes)).Pairwise fun p q => p.span.stop ≤ q.span.start) :
    ids.Pairwise (Precedes nodes) := by
  refine (List.pairwise_map.1 h).imp_of_mem fun {i j} hi hj hle => ?_
  have hn := Array.getElem?_eq_getElem (hids i hi)
  have hm := Array.getElem?_eq_getElem (hids j hj)
  rw [(hf.rebuildAt_eq hn).1, (hf.rebuildAt_eq hm).1] at hle
  exact ⟨_, _, hn, hm, hle⟩

/-- **If spans are nested in the outlines of an arena, they are nested in the arena.** -/
theorem spansNested (h : ∀ t ∈ rebuild nodes statements, t.Nested)
    (htop : (rebuild nodes statements).Pairwise fun p q => p.span.stop ≤ q.span.start) :
    SpansNested nodes statements := by
  refine ⟨fun i j hp => ?_, fun i => ?_, ?_⟩
  · have hi := hf.parent_lt_size _ _ hp
    have hj := lt_size_of_parentAt hp
    have hn := Array.getElem?_eq_getElem hi
    have hm := Array.getElem?_eq_getElem hj
    obtain ⟨hspan, hparts⟩ := hf.rebuildAt_eq hn
    have hmem := List.mem_map_of_mem (f := rebuildAt nodes) ((hf.linked i j).1 hp)
    rw [← hparts] at hmem
    cases hf.rebuildAt_nested h hi with
    | intro hinside _ _ =>
      have hin := hinside _ hmem
      rw [hspan, (hf.rebuildAt_eq hm).1] at hin
      exact ⟨_, _, hn, hm, hin⟩
  · by_cases hi : i < nodes.size
    · obtain ⟨-, hparts⟩ := hf.rebuildAt_eq (Array.getElem?_eq_getElem hi)
      cases hf.rebuildAt_nested h hi with
      | intro _ hordered _ =>
        rw [hparts] at hordered
        exact hf.pairwise_precedes (hf.child_lt_size i) hordered
    · rw [childrenAt, Array.getElem?_eq_none (by omega)]
      exact .nil
  · refine hf.pairwise_precedes (fun i hi => ?_) htop
    exact hf.lt_size_of_mem (Array.mem_toList_iff.1 hi)

end PreorderForest

end EmbeddedScripts
