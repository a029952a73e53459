import EmbeddedScripts.Proofs.Outlines
import EmbeddedScripts.Proofs.Parts

/-!
# The arena of a tree is its flattened outline

`outlines` is what is left of a tree for its arena: of the nodes that stand for rules of the grammar
comments and hash-bang lines are removed with all below them, and strings and regular expressions have
nothing below them.

* `Arena.attach a parent ts`: the arena with outlines flattened at its end, below `parent`. To add one
  node and then attach its parts is to attach its outline (`attach_add`).
* `addAll_append`: so the loop over pending trees attaches the outlines of the first few of them before
  it comes to the others.
* `arena_flattens`: the arena is the flattening of the outlines of its tree, a forest in pre-order with
  nested spans, and the outlines can be read off it.
-/

namespace EmbeddedScripts.Script

/-! ## Outlines of trees -/

mutual

/-- The outline of a tree. -/
def outline (s : Source) : Tree → Outline
  | .node l a b ts =>
    let t := Tree.node l a b ts
    if isLeaf t then .node t.kind (s.span t) (some (t.text s.text)) []
    else .node t.kind (s.span t) none (outlines s ts)

/-- The outlines of those of several trees that have a place in the arena. -/
def outlines (s : Source) : List Tree → List Outline
  | [] => []
  | t :: ts => if t.named && isSyntactic t then outline s t :: outlines s ts else outlines s ts

end

theorem outlines_eq (s : Source) (ts : List Tree) :
    outlines s ts = ((ts.filter (·.named)).filter isSyntactic).map (outline s) := by
  induction ts with
  | nil => rfl
  | cons t ts ih =>
    rw [outlines, ih]
    cases hn : t.named with
    | false => simp [hn]
    | true =>
      cases hs : isSyntactic t with
      | false => simp [hn, hs]
      | true => simp [hn, hs]

theorem outlines_children (s : Source) (t : Tree) :
    outlines s t.children = (syntacticChildren t).map (outline s) :=
  outlines_eq s t.children

theorem outline_eq (s : Source) (t : Tree) :
    outline s t = .node t.kind (s.span t) (if isLeaf t then some (t.text s.text) else none)
      ((partsOf t).map (outline s)) := by
  obtain ⟨l, a, b, ts⟩ := t
  rw [outline, partsOf]
  split
  · rfl
  · rw [← outlines_children]
    rfl

@[simp] theorem span_outline (s : Source) (t : Tree) : (outline s t).span = s.span t := by
  rw [outline_eq]
  rfl

@[simp] theorem parts_outline (s : Source) (t : Tree) :
    (outline s t).parts = (partsOf t).map (outline s) := by
  rw [outline_eq]
  rfl

/-- The parts of a node are some of its children, in order. -/
theorem partsOf_sublist (t : Tree) : (partsOf t).Sublist t.children := by
  unfold partsOf
  split
  · exact List.nil_sublist _
  · exact List.filter_sublist.trans List.filter_sublist

theorem pairwise_outlines {s : Source} {ts children : List Tree} (hts : ts.Sublist children)
    (h : children.Pairwise fun c d => c.stop.offset ≤ d.start.offset) :
    (ts.map (outline s)).Pairwise fun p q => p.span.stop ≤ q.span.start := by
  rw [List.pairwise_map]
  refine (h.sublist hts).imp fun hle => ?_
  rw [span_outline, span_outline]
  exact hle

/-- **The outline of a nested tree is nested.** -/
theorem outline_nested {s : Source} {t : Tree} (h : ∀ u ∈ t.nodes, u.Nested) :
    (outline s t).Nested := by
  induction t using Tree.induct with
  | step t ih =>
    have ht := h t (Tree.mem_nodes_self t)
    refine .intro (fun p hp => ?_) ?_ (fun p hp => ?_)
    · rw [parts_outline] at hp
      obtain ⟨c, hc, rfl⟩ := List.mem_map.1 hp
      rw [span_outline, span_outline]
      exact ht.inside c (mem_partsOf hc)
    · rw [parts_outline]
      exact pairwise_outlines (partsOf_sublist t) ht.ordered
    · rw [parts_outline] at hp
      obtain ⟨c, hc, rfl⟩ := List.mem_map.1 hp
      have hc := mem_partsOf hc
      exact ih c hc fun u hu => h u (Tree.mem_nodes_of_child hc hu)

/-! ## Attaching outlines -/

namespace Arena

/-- Notes indices at their parent, or among the statements. -/
def link (a : Arena) (parent : Option Nat) (ids : List Nat) : Arena :=
  match parent with
  | some p =>
    { a with nodes := a.nodes.modify p fun n => { n with children := n.children ++ ids.toArray } }
  | none => { a with statements := a.statements ++ ids.toArray }

/-- Puts nodes at the end. -/
def extend (a : Arena) (ns : List SyntaxNode) : Arena := { a with nodes := a.nodes ++ ns.toArray }

variable {a : Arena} {parent : Option Nat}

@[simp] theorem size_link (a : Arena) (parent : Option Nat) (ids : List Nat) :
    (a.link parent ids).nodes.size = a.nodes.size := by
  cases parent with
  | none => rfl
  | some p => simp [link]

@[simp] theorem size_extend (a : Arena) (ns : List SyntaxNode) :
    (a.extend ns).nodes.size = a.nodes.size + ns.length := by
  simp [extend]

theorem link_nil (a : Arena) (parent : Option Nat) : a.link parent [] = a := by
  cases parent with
  | none => simp [link]
  | some p =>
    have hmodify : (a.nodes.modify p fun n => n) = a.nodes := by
      refine Array.ext (by simp) fun i h h' => ?_
      rw [Array.getElem_modify]
      split
      · rfl
      · rfl
    simp [link, hmodify]

theorem link_link (a : Arena) (parent : Option Nat) (ids ids' : List Nat) :
    (a.link parent ids).link parent ids' = a.link parent (ids ++ ids') := by
  cases parent with
  | none => simp [link]
  | some p =>
    simp only [link, Arena.mk.injEq, and_true]
    refine Array.ext (by simp) fun i h h' => ?_
    simp only [Array.getElem_modify]
    split
    · simp
    · rfl

theorem extend_extend (a : Arena) (ns ms : List SyntaxNode) :
    (a.extend ns).extend ms = a.extend (ns ++ ms) := by
  simp [extend]

theorem link_extend (h : ∀ p, parent = some p → p < a.nodes.size) (ns : List SyntaxNode)
    (ids : List Nat) : (a.extend ns).link parent ids = (a.link parent ids).extend ns := by
  cases parent with
  | none => rfl
  | some p =>
    have hp := h p rfl
    simp only [link, extend, Arena.mk.injEq, and_true]
    refine Array.ext (by simp) fun i h h' => ?_
    simp only [Array.getElem_modify, Array.getElem_append, Array.size_modify]
    grind

/-- The children of a node that was just put at the end are noted in it. -/
theorem link_last (a : Arena) (n : SyntaxNode) (ids : List Nat) :
    (a.extend [n]).link (some a.nodes.size) ids =
      a.extend [{ n with children := n.children ++ ids.toArray }] := by
  simp only [link, extend, Arena.mk.injEq, and_true]
  refine Array.ext (by simp) fun i h h' => ?_
  simp only [Array.getElem_modify, Array.getElem_append]
  grind

/-- The arena with the nodes of outlines at its end, below `parent`. -/
def attach (a : Arena) (parent : Option Nat) (ts : List Outline) : Arena :=
  (a.link parent (Outline.roots a.nodes.size ts)).extend
    (Outline.flattenAll a.nodes.size parent ts)

theorem attach_nil (a : Arena) (parent : Option Nat) : a.attach parent [] = a := by
  simp [attach, Outline.roots, Outline.flattenAll, link_nil, extend]

theorem size_attach (a : Arena) (parent : Option Nat) (ts : List Outline) :
    (a.attach parent ts).nodes.size = a.nodes.size + Outline.sizeAll ts := by
  rw [attach, size_extend, size_link, Outline.length_flattenAll]

theorem attach_cons (h : ∀ p, parent = some p → p < a.nodes.size) (t : Outline)
    (ts : List Outline) : (a.attach parent [t]).attach parent ts = a.attach parent (t :: ts) := by
  have hsize : (a.attach parent [t]).nodes.size = a.nodes.size + t.size := by
    rw [size_attach]
    simp [Outline.sizeAll]
  have hlink : ∀ p, parent = some p → p < (a.link parent [a.nodes.size]).nodes.size := by
    simpa using h
  rw [attach, hsize]
  simp only [attach, Outline.roots, Outline.flattenAll, List.append_nil]
  rw [link_extend hlink, link_link, extend_extend]
  rfl

/-- **To add a node and then to attach its parts** is to attach its outline. -/
theorem attach_add (s : Source) (h : ∀ p, parent = some p → p < a.nodes.size) (t : Tree) :
    (a.add s t parent).attach (some a.nodes.size) ((partsOf t).map (outline s)) =
      a.attach parent [outline s t] := by
  generalize hn : SyntaxNode.mk t.kind (s.span t)
    (if isLeaf t then some (t.text s.text) else none) parent #[] = n
  have hadd : a.add s t parent = (a.link parent [a.nodes.size]).extend [n] := by
    subst hn
    cases parent with
    | none => simp [add, link, extend]
    | some p => simp [add, link, extend]
  have hlast := link_last (a.link parent [a.nodes.size]) n
    (Outline.roots (a.nodes.size + 1) ((partsOf t).map (outline s)))
  rw [size_link] at hlast
  rw [hadd, attach, size_extend, size_link, List.length_singleton, hlast, extend_extend, attach,
    outline_eq]
  subst hn
  simp [Outline.roots, Outline.flattenAll, Outline.flatten]

theorem size_add (s : Source) (a : Arena) (t : Tree) (parent : Option Nat) :
    (a.add s t parent).nodes.size = a.nodes.size + 1 := by
  cases parent with
  | none => simp [add]
  | some p => simp [add]

/-- **The loop over pending trees** attaches the outlines of those below one parent, and then goes on
with the others. -/
theorem addAll_append (s : Source) (a : Arena) {parent : Option Nat}
    (h : ∀ p, parent = some p → p < a.nodes.size) (ts : List Tree)
    (rest : List (Tree × Option Nat)) :
    Arena.addAll s a (ts.map (·, parent) ++ rest) =
      Arena.addAll s (a.attach parent (ts.map (outline s))) rest := by
  match ts with
  | [] => rw [List.map_nil, List.map_nil, attach_nil, List.nil_append]
  | t :: ts =>
    have hparts : ∀ p, some a.nodes.size = some p → p < (a.add s t parent).nodes.size := by
      intro p hp
      cases hp
      rw [size_add]
      exact Nat.lt_succ_self _
    have hmore : ∀ p, parent = some p → p < (a.attach parent [outline s t]).nodes.size := by
      intro p hp
      rw [size_attach]
      exact Nat.lt_of_lt_of_le (h p hp) (Nat.le_add_right _ _)
    rw [List.map_cons, List.cons_append, Arena.addAll]
    rw [addAll_append s _ hparts (partsOf t), attach_add s h, addAll_append s _ hmore ts,
      attach_cons h, List.map_cons]
termination_by Tree.sizeAll ts
decreasing_by
  · have := sizeAll_partsOf_lt t
    simp only [Tree.sizeAll]
    omega
  · rw [Tree.sizeAll, Tree.size_eq]
    omega

end Arena

theorem arena_eq (s : Source) (root : Tree) :
    arena s root = Arena.attach {} none (outlines s root.children) := by
  have h := @Arena.addAll_append s {} none (by simp) (syntacticChildren root) []
  rwa [List.append_nil, Arena.addAll, ← outlines_children] at h

/-- The arena has the nodes of the outlines in pre-order, with all that goes with it. -/
structure Arena.Flattens (a : Arena) (ts : List Outline) : Prop where
  nodes_eq : a.nodes.toList = Outline.flattenAll 0 none ts
  statements_eq : a.statements.toList = Outline.roots 0 ts
  forest : PreorderForest a.nodes a.statements
  spans : SpansNested a.nodes a.statements
  /-- The outlines can be read off the arena. -/
  rebuild_eq : Outline.rebuild a.nodes a.statements = ts
  /-- No other outlines have these nodes. -/
  unique : ∀ us, Outline.flattenAll 0 none us = a.nodes.toList → us = ts

/-- **The arena of a nested tree** is the flattening of what is left of the tree below its root. -/
theorem arena_flattens (s : Source) {root : Tree} (h : ∀ t ∈ root.nodes, t.Nested) :
    (arena s root).Flattens (outlines s root.children) := by
  generalize hts : outlines s root.children = ts
  have hnodes : (arena s root).nodes = (Outline.flattenAll 0 none ts).toArray := by
    rw [arena_eq, hts]
    simp [Arena.attach, Arena.link, Arena.extend]
  have hstatements : (arena s root).statements = (Outline.roots 0 ts).toArray := by
    rw [arena_eq, hts]
    simp [Arena.attach, Arena.link, Arena.extend]
  have hforest := Outline.forest_flattenAll ts
  have hrebuild := Outline.rebuild_flattenAll ts
  have hspans : SpansNested (Outline.flattenAll 0 none ts).toArray (Outline.roots 0 ts).toArray := by
    refine hforest.spansNested ?_ ?_
    · rw [hrebuild, ← hts, outlines_children]
      intro t ht
      obtain ⟨c, hc, rfl⟩ := List.mem_map.1 ht
      have hc := List.mem_of_mem_filter (List.mem_of_mem_filter hc)
      exact outline_nested fun u hu => h u (Tree.mem_nodes_of_child hc hu)
    · rw [hrebuild, ← hts, outlines_children]
      exact pairwise_outlines (List.filter_sublist.trans List.filter_sublist)
        (h root (Tree.mem_nodes_self root)).ordered
  rw [← hnodes, ← hstatements] at hforest hrebuild hspans
  refine ⟨?_, ?_, hforest, hspans, hrebuild, fun us hus => ?_⟩
  · rw [hnodes]
  · rw [hstatements]
  · rw [hnodes] at hus
    exact Outline.flattenAll_inj hus

/-- The tree of the text `#!x⏎f('a'/**/,/b/)<!--c`: a hash-bang line, a call of a name with a string, a
comment and a regular expression, and another comment. -/
def calledName : Tree :=
  let text := "#!x\nf('a'/**/,/b/)<!--c".toList
  let mark (k : Nat) : Mark := Mark.zero.advanceAll (text.take k)
  let leaf (kind : String) (named : Bool) (i j : Nat) : Tree :=
    .node { kind, named } (mark i) (mark j) []
  let inner (kind : String) (i j : Nat) (ts : List Tree) : Tree := .node { kind } (mark i) (mark j) ts
  inner "program" 0 23
    [leaf "hash_bang_line" true 0 3,
      inner "expression_statement" 4 18
        [inner "call_expression" 4 18
          [leaf "identifier" true 4 5,
            inner "arguments" 5 18
              [leaf "(" false 5 6,
                inner "string" 6 9
                  [leaf "'" false 6 7, leaf "string_fragment" true 7 8, leaf "'" false 8 9],
                leaf "comment" true 9 13, leaf "," false 13 14,
                inner "regex" 14 17
                  [leaf "/" false 14 15, leaf "regex_pattern" true 15 16, leaf "/" false 16 17],
                leaf ")" false 17 18]]],
      leaf "html_comment" true 18 23]

theorem arena_flattens_calledName :
    let s := Source.ofString "#!x\nf('a'/**/,/b/)<!--c" 1
    (∀ t ∈ calledName.nodes, t.Nested) ∧
      (arena s calledName).nodes.toList.map (fun n => (n.kind, n.text, n.parent, n.children)) =
        [("expression_statement", none, none, #[1]), ("call_expression", none, some 0, #[2, 3]),
          ("identifier", some "f", some 1, #[]), ("arguments", none, some 1, #[4, 5]),
          ("string", some "'a'", some 3, #[]), ("regex", some "/b/", some 3, #[])] ∧
      (arena s calledName).Flattens (outlines s calledName.children) := by
  intro s
  have h : ∀ t ∈ calledName.nodes, t.Nested := by decide +kernel
  exact ⟨h, by decide +kernel, arena_flattens s h⟩

end EmbeddedScripts.Script
