import EmbeddedScripts.Tree.Walk
import Mathlib.Data.List.Basic

/-!
# The nodes of a tree and what is above them

`Tree.occurrences` lists the nodes of a tree in the order of the text, a node before those below it,
each with the nodes above it; `Tree.nodes` lists the nodes alone. A property of all trees follows from
its children by `Tree.induct`.
-/

namespace EmbeddedScripts.Tree

theorem size_lt_of_mem {t c : Tree} (h : c ∈ t.children) : c.size < t.size := by
  have hle : ∀ {ts : List Tree}, c ∈ ts → c.size ≤ sizeAll ts := by
    intro ts hm
    induction ts with
    | nil => simp at hm
    | cons u us ih =>
      rw [sizeAll]
      rcases List.mem_cons.1 hm with rfl | hm
      · omega
      · have := ih hm
        omega
  rw [size_eq t]
  have := hle h
  omega

/-- What holds of a tree if it holds of its children holds of all trees. -/
@[elab_as_elim]
theorem induct {motive : Tree → Prop} (step : ∀ t : Tree, (∀ c ∈ t.children, motive c) → motive t)
    (t : Tree) : motive t :=
  step t fun c _ => induct step c
termination_by t.size
decreasing_by exact size_lt_of_mem ‹_›

mutual

/-- The nodes of a tree in pre-order, each with the nodes above it, the nearest first. `above` are the
nodes above the tree itself. -/
def occurrences (above : List Tree) : Tree → List (List Tree × Tree)
  | node l a b ts => (above, node l a b ts) :: occurrencesAll (node l a b ts :: above) ts

/-- The nodes of several trees below the same nodes. -/
def occurrencesAll (above : List Tree) : List Tree → List (List Tree × Tree)
  | [] => []
  | t :: ts => t.occurrences above ++ occurrencesAll above ts

end

theorem occurrencesAll_eq (above : List Tree) (ts : List Tree) :
    occurrencesAll above ts = ts.flatMap (·.occurrences above) := by
  induction ts with
  | nil => rfl
  | cons t ts ih => rw [occurrencesAll, ih, List.flatMap_cons]

theorem occurrences_eq (above : List Tree) (t : Tree) :
    t.occurrences above = (above, t) :: t.children.flatMap (·.occurrences (t :: above)) := by
  cases t
  rw [occurrences, occurrencesAll_eq]
  rfl

/-- What is above a tree is above its nodes. -/
theorem mem_above {above : List Tree} {t u : Tree} {o : List Tree × Tree} (hu : u ∈ above)
    (ho : o ∈ t.occurrences above) : u ∈ o.1 := by
  induction t using induct generalizing above with
  | step t ih =>
    rw [occurrences_eq, List.mem_cons, List.mem_flatMap] at ho
    rcases ho with rfl | ⟨c, hc, ho⟩
    · exact hu
    · exact ih c hc (List.mem_cons_of_mem _ hu) ho

/-- Only the tree itself has nothing above it. -/
theorem eq_of_mem_occurrences_nil {root t : Tree} (h : ([], t) ∈ root.occurrences []) :
    t = root := by
  rw [occurrences_eq, List.mem_cons, List.mem_flatMap] at h
  rcases h with h | ⟨c, -, h⟩
  · exact (Prod.mk.inj h).2
  · exact absurd (mem_above List.mem_cons_self h) List.not_mem_nil

theorem mem_occurrences_self (above : List Tree) (t : Tree) : (above, t) ∈ t.occurrences above := by
  rw [occurrences_eq]
  exact List.mem_cons_self

/-- The nodes of a tree in pre-order. -/
def nodes (t : Tree) : List Tree := (t.occurrences []).map Prod.snd

theorem map_snd_occurrences (above : List Tree) (t : Tree) :
    (t.occurrences above).map Prod.snd = t.nodes := by
  induction t using induct generalizing above with
  | step t ih =>
    have hmore : ∀ above', (t.children.flatMap (·.occurrences above')).map Prod.snd =
        t.children.flatMap nodes := by
      intro above'
      rw [List.map_flatMap]
      exact List.flatMap_congr fun c hc => ih c hc above'
    rw [nodes, occurrences_eq, occurrences_eq, List.map_cons, List.map_cons, hmore, hmore]

theorem nodes_eq (t : Tree) : t.nodes = t :: t.children.flatMap nodes := by
  rw [nodes, occurrences_eq, List.map_cons, List.map_flatMap]
  simp only [map_snd_occurrences]

theorem mem_nodes_self (t : Tree) : t ∈ t.nodes := by
  rw [nodes_eq]
  exact List.mem_cons_self

theorem mem_nodes_of_child {t c u : Tree} (hc : c ∈ t.children) (hu : u ∈ c.nodes) :
    u ∈ t.nodes := by
  rw [nodes_eq]
  exact List.mem_cons_of_mem _ (List.mem_flatMap.2 ⟨c, hc, hu⟩)

theorem exists_occurrence {root t : Tree} (h : t ∈ root.nodes) :
    ∃ above, (above, t) ∈ root.occurrences [] := by
  obtain ⟨⟨above, u⟩, ho, rfl⟩ := List.mem_map.1 h
  exact ⟨above, ho⟩

end EmbeddedScripts.Tree
