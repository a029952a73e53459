import EmbeddedScripts.Proofs.Occurrences
import Mathlib.Data.List.Nodup

/-!
# The order of a walk

`traverse` is the traversal in pre-order by recursion on the tree: it visits a place and, where the
visitor says so, the places of its children one after the other, until the visitor ends it.

* `traverseAll_cons`: of several places the first one is visited, and its children and the other places
  are left.
* `walkFrom_eq`: a walk does from a cursor what the traversal does with its pending places, move by
  move (`state_traverseAll_pending`).
* `traverseAll_noting`: a visitor that notes its calls is called at the visited places in their order.
* `visited_sublist`: these are some of the places of the tree in pre-order (`Place.all`), none of which
  has the path of another one (`Place.nodup_all`).
* `walk_visits`: the walk of a tree is its traversal.
-/

namespace EmbeddedScripts.Tree

/-- What a traversal did: the places that the visitor was called at, the state that it was left in, and
whether it ended the traversal. -/
structure Traversal (σ : Type) where
  visited : List Place
  state : σ
  stopped : Bool

namespace Traversal

variable {σ : Type}

/-- The traversal that visits nothing. -/
def done (s : σ) : Traversal σ := ⟨[], s, false⟩

/-- The traversal that visits `p` first. -/
def after (p : Place) (t : Traversal σ) : Traversal σ := { t with visited := p :: t.visited }

/-- Goes on with `next`, unless the traversal was ended. -/
def andThen (t : Traversal σ) (next : σ → Traversal σ) : Traversal σ :=
  if t.stopped then t
  else
    let rest := next t.state
    { rest with visited := t.visited ++ rest.visited }

theorem after_andThen (p : Place) (t : Traversal σ) (next : σ → Traversal σ) :
    (t.after p).andThen next = (t.andThen next).after p := by
  unfold andThen after
  split
  · rfl
  · rfl

theorem andThen_done (t : Traversal σ) : t.andThen done = t := by
  unfold andThen
  split
  · rfl
  · rename_i hgo
    obtain ⟨visited, s, stopped⟩ := t
    simpa [done] using hgo

theorem andThen_assoc (t : Traversal σ) (next more : σ → Traversal σ) :
    (t.andThen next).andThen more = t.andThen fun s => (next s).andThen more := by
  unfold andThen
  by_cases ht : t.stopped = true
  · simp [ht]
  · by_cases hn : (next t.state).stopped = true
    · simp [ht, hn]
    · simp [ht, hn]

end Traversal

open Traversal

/-! ## Recursion on the tree -/

section

variable {σ : Type} (visit : σ → Place → Visit × σ)

mutual

/-- Visits a place and then, if the visitor answers to descend, the places below it. Where the visitor
answers to stop, nothing more is visited. -/
def traverse (s : σ) (p : Place) : Traversal σ :=
  match visit s p with
  | (.stop, s) => ⟨[p], s, true⟩
  | (.skip, s) => ⟨[p], s, false⟩
  | (.descend, s) => (traverseAll s p.children).after p
termination_by 2 * p.node.size
decreasing_by
  rw [Place.map_node_children, size_eq p.node]
  omega

/-- Visits several places one after the other, each with those below it. -/
def traverseAll (s : σ) (ps : List Place) : Traversal σ :=
  match ps with
  | [] => done s
  | p :: ps => (traverse s p).andThen fun s => traverseAll s ps
termination_by 2 * sizeAll (ps.map Place.node) + 1
decreasing_by
  all_goals simp only [List.map_cons, sizeAll, size_eq p.node]
  all_goals omega

end

@[simp] theorem traverseAll_nil (s : σ) : traverseAll visit s [] = done s := by
  rw [traverseAll]

theorem traverseAll_append (s : σ) (ps qs : List Place) :
    traverseAll visit s (ps ++ qs) =
      (traverseAll visit s ps).andThen fun s => traverseAll visit s qs := by
  induction ps generalizing s with
  | nil =>
    rw [traverseAll_nil]
    rfl
  | cons p ps ih =>
    rw [List.cons_append, traverseAll, traverseAll, andThen_assoc]
    simp only [ih]

/-- **One visit**: where the visitor answers to descend, the children come before the other places. -/
theorem traverseAll_cons (s : σ) (p : Place) (ps : List Place) :
    traverseAll visit s (p :: ps) =
      match visit s p with
      | (.stop, s) => ⟨[p], s, true⟩
      | (.skip, s) => (traverseAll visit s ps).after p
      | (.descend, s) => (traverseAll visit s (p.children ++ ps)).after p := by
  rw [traverseAll, traverse]
  obtain ⟨answer, s'⟩ := visit s p
  cases answer with
  | stop => rfl
  | skip => rfl
  | descend =>
    show ((traverseAll visit s' p.children).after p).andThen _ = _
    rw [after_andThen, ← traverseAll_append]

end

/-- What holds of no places, and of some if it holds of the others with and without the children of the
first, holds of all lists of places. -/
@[elab_as_elim]
theorem inductPending {motive : List Place → Prop} (nil : motive [])
    (cons : ∀ p ps, motive ps → motive (p.children ++ ps) → motive (p :: ps)) (ps : List Place) :
    motive ps :=
  match ps with
  | [] => nil
  | p :: ps => cons p ps (inductPending nil cons ps) (inductPending nil cons (p.children ++ ps))
termination_by sizeAll (ps.map Place.node)
decreasing_by
  · simp only [List.map_cons, sizeAll, size_eq p.node]
    omega
  · simp only [List.map_cons, List.map_append, Place.map_node_children, sizeAll_append, sizeAll,
      size_eq p.node]
    omega

/-! ## The walk -/

section

variable {σ : Type} (visit : σ → Place → Visit × σ)

/-- **One move**: after the visit, the traversal of the pending places is that of what the move
leaves. -/
theorem state_traverseAll_pending (s : σ) (c : Cursor) :
    (traverseAll visit s c.pending).state =
      let (answer, s') := visit s c.place
      (traverseAll visit s' (Cursor.toVisit (c.advance? answer))).state := by
  rw [Cursor.pending, traverseAll_cons]
  obtain ⟨answer, s'⟩ := visit s c.place
  cases answer with
  | stop =>
    show s' = (traverseAll visit s' []).state
    rw [traverseAll_nil]
    rfl
  | skip =>
    show _ = (traverseAll visit s' (Cursor.toVisit c.next?)).state
    rw [Cursor.toVisit_next?]
    rfl
  | descend =>
    show _ = (traverseAll visit s' (Cursor.toVisit (c.advance? .descend))).state
    rw [Cursor.toVisit_descend]
    rfl

theorem walkFrom_step (s : σ) (c : Cursor) :
    walkFrom visit s c =
      let (answer, s') := visit s c.place
      (c.advance? answer).elim s' (walkFrom visit s') := by
  rw [walkFrom]
  obtain ⟨answer, s'⟩ := visit s c.place
  simp only
  split
  · rename_i c' hnext
    rw [hnext, Option.elim_some]
  · rename_i hnext
    rw [hnext, Option.elim_none]

/-- **A walk goes on as the traversal** of the pending places does. -/
theorem walkFrom_eq (s : σ) (c : Cursor) :
    walkFrom visit s c = (traverseAll visit s c.pending).state := by
  induction s, c using walkFrom.induct visit with
  | case1 s c answer s' hvisit c' hnext ih =>
    rw [walkFrom_step, state_traverseAll_pending, hvisit]
    simp only [hnext, Option.elim_some, ih, Cursor.toVisit]
  | case2 s c answer s' hvisit hnext =>
    rw [walkFrom_step, state_traverseAll_pending, hvisit]
    simp only [hnext, Option.elim_none, Cursor.toVisit, traverseAll_nil, done]

theorem traverseAll_singleton (s : σ) (p : Place) :
    traverseAll visit s [p] = traverse visit s p := by
  rw [traverseAll]
  simp only [traverseAll_nil]
  exact andThen_done _

/-- A walk leaves the visitor in the state in which the traversal does. -/
theorem walk_eq (s : σ) (root : Tree) :
    walk visit s root = (traverse visit s { node := root }).state := by
  rw [walk, walkFrom_eq]
  exact congrArg Traversal.state (traverseAll_singleton visit s { node := root })

/-! ## Calls -/

/-- The visitor that notes the places at which it is called, and answers as `visit` does. -/
def noting (noted : List Place × σ) (p : Place) : Visit × (List Place × σ) :=
  let (answer, s) := visit noted.2 p
  (answer, noted.1 ++ [p], s)

/-- **The visitor is called at the visited places**, in their order. -/
theorem traverseAll_noting (s : σ) (noted : List Place) (ps : List Place) :
    traverseAll (noting visit) (noted, s) ps =
      let t := traverseAll visit s ps
      ⟨t.visited, (noted ++ t.visited, t.state), t.stopped⟩ := by
  induction ps using inductPending generalizing s noted with
  | nil => simp [done]
  | cons p ps ih ihBelow =>
    rw [traverseAll_cons, traverseAll_cons, noting]
    obtain ⟨answer, s'⟩ := visit s p
    cases answer with
    | stop => rfl
    | skip =>
      simp only [ih]
      simp [after]
    | descend =>
      simp only [ihBelow]
      simp [after]

theorem traverse_noting (s : σ) (p : Place) :
    traverse (noting visit) ([], s) p =
      let t := traverse visit s p
      ⟨t.visited, (t.visited, t.state), t.stopped⟩ := by
  have h := traverseAll_noting visit s [] [p]
  simpa only [traverseAll_singleton, List.nil_append] using h

end

/-! ## Places -/

mutual

/-- The places of a tree that is at `path`, in pre-order. -/
def placesAt (path : List Nat) : Tree → List Place
  | node l a b ts => ⟨path, node l a b ts⟩ :: placesAll path 0 ts

/-- The places of the trees that are children at `path`, from the child `i` on. -/
def placesAll (path : List Nat) (i : Nat) : List Tree → List Place
  | [] => []
  | t :: ts => placesAt (i :: path) t ++ placesAll path (i + 1) ts

end

/-- The place and those below it, in pre-order. -/
def Place.all (p : Place) : List Place := placesAt p.path p.node

theorem placesAll_eq (path : List Nat) (i : Nat) (ts : List Tree) :
    placesAll path i ts =
      ((ts.zipIdx i).map fun (t, i) => (⟨i :: path, t⟩ : Place)).flatMap Place.all := by
  induction ts generalizing i with
  | nil => rfl
  | cons t ts ih =>
    rw [placesAll, ih]
    rfl

theorem Place.all_eq (p : Place) : p.all = p :: p.children.flatMap all := by
  obtain ⟨path, _, _, _, _⟩ := p
  rw [all, placesAt, placesAll_eq]
  rfl

namespace Place

theorem mem_children {p c : Place} :
    c ∈ p.children ↔ ∃ i, p.node.children[i]? = some c.node ∧ c.path = i :: p.path := by
  obtain ⟨path, t⟩ := c
  simp only [children, List.mem_map, Prod.exists, List.mem_zipIdx_iff_getElem?, mk.injEq]
  constructor
  · rintro ⟨t, i, ht, rfl, rfl⟩
    exact ⟨i, ht, rfl⟩
  · rintro ⟨i, ht, rfl⟩
    exact ⟨t, i, ht, rfl, rfl⟩

/-- What holds of a place if it holds of those of its children holds of all places. -/
@[elab_as_elim]
theorem induct {motive : Place → Prop}
    (step : ∀ p : Place, (∀ c ∈ p.children, motive c) → motive p) (p : Place) : motive p :=
  step p fun c _ => induct step c
termination_by p.node.size
decreasing_by
  obtain ⟨i, hi, -⟩ := mem_children.1 ‹_›
  exact size_lt_of_mem (List.mem_of_getElem? hi)

/-- The way to a place leads through the places above it. -/
theorem path_suffix {p q : Place} (h : q ∈ p.all) : p.path <:+ q.path := by
  induction p using induct with
  | step p ih =>
    rw [all_eq, List.mem_cons, List.mem_flatMap] at h
    rcases h with rfl | ⟨c, hc, hq⟩
    · exact List.suffix_refl _
    · obtain ⟨i, -, hpath⟩ := mem_children.1 hc
      have hsuffix := ih c hc hq
      rw [hpath] at hsuffix
      exact (List.suffix_cons i p.path).trans hsuffix

/-- The children of a node have different paths. -/
theorem pairwise_children (p : Place) : p.children.Pairwise fun c d => c.path ≠ d.path := by
  have hpaths : p.children.map path = (List.range p.node.children.length).map (· :: p.path) := by
    rw [List.range_eq_range', ← List.zipIdx_map_snd, children, List.map_map, List.map_map]
    rfl
  have hnodup : (p.children.map path).Nodup := by
    rw [hpaths]
    exact List.nodup_range.map fun i j hij => (List.cons.inj hij).1
  exact List.pairwise_map.1 hnodup

/-- **No place comes twice** among a place and those below it. -/
theorem nodup_all (p : Place) : (p.all.map path).Nodup := by
  induction p using induct with
  | step p ih =>
    rw [all_eq, List.map_cons, List.map_flatMap, List.nodup_cons]
    refine ⟨fun h => ?_, List.nodup_flatMap.2 ⟨ih, ?_⟩⟩
    · -- below the place the paths are longer
      obtain ⟨c, hc, h⟩ := List.mem_flatMap.1 h
      obtain ⟨q, hq, hpath⟩ := List.mem_map.1 h
      obtain ⟨i, -, hcpath⟩ := mem_children.1 hc
      have hlength := (path_suffix hq).length_le
      rw [hpath, hcpath, List.length_cons] at hlength
      omega
    · refine p.pairwise_children.imp_of_mem fun {c d} hc hd hne => ?_
      obtain ⟨i, -, hcpath⟩ := mem_children.1 hc
      obtain ⟨j, -, hdpath⟩ := mem_children.1 hd
      intro path hpc hpd
      obtain ⟨q, hq, rfl⟩ := List.mem_map.1 hpc
      obtain ⟨r, hr, hrpath⟩ := List.mem_map.1 hpd
      -- both children are on the way, and as far from the root
      have hcq := path_suffix hq
      have hdq := path_suffix hr
      rw [hrpath] at hdq
      refine hne (List.IsSuffix.eq_of_length (List.suffix_of_suffix_length_le hcq hdq ?_) ?_)
      · rw [hcpath, hdpath]
        exact Nat.le_refl _
      · rw [hcpath, hdpath]
        rfl

end Place

/-- The node that a path leads to from the root. -/
def at? (root : Tree) : List Nat → Option Tree
  | [] => some root
  | i :: path => (root.at? path).bind fun t => t.children[i]?

/-- What is below a place of a tree is in the tree. -/
theorem at?_of_mem_all {root : Tree} {p q : Place} (hp : root.at? p.path = some p.node)
    (hq : q ∈ p.all) : root.at? q.path = some q.node := by
  induction p using Place.induct with
  | step p ih =>
    rw [Place.all_eq, List.mem_cons, List.mem_flatMap] at hq
    rcases hq with rfl | ⟨c, hc, hq⟩
    · exact hp
    · refine ih c hc ?_ hq
      obtain ⟨i, hi, hpath⟩ := Place.mem_children.1 hc
      rw [hpath, at?, hp, Option.bind_some, hi]

section

variable {σ : Type} (visit : σ → Place → Visit × σ)

/-- **The visited places** are some of the places and those below them, in that order. -/
theorem visited_sublist (s : σ) (ps : List Place) :
    (traverseAll visit s ps).visited.Sublist (ps.flatMap Place.all) := by
  induction ps using inductPending generalizing s with
  | nil =>
    rw [traverseAll_nil]
    exact List.nil_sublist _
  | cons p ps ih ihBelow =>
    rw [traverseAll_cons, List.flatMap_cons, Place.all_eq, List.cons_append]
    obtain ⟨answer, s'⟩ := visit s p
    cases answer with
    | stop => exact (List.nil_sublist _).cons_cons p
    | skip => exact ((ih s').trans (List.sublist_append_right _ _)).cons_cons p
    | descend =>
      have hbelow := ihBelow s'
      rw [List.flatMap_append] at hbelow
      exact hbelow.cons_cons p

/-- The visitor is called at most once for each node. -/
theorem length_visited_le (s : σ) (ps : List Place) :
    (traverseAll visit s ps).visited.length ≤ sizeAll (ps.map Place.node) := by
  induction ps using inductPending generalizing s with
  | nil =>
    rw [traverseAll_nil]
    exact Nat.zero_le _
  | cons p ps ih ihBelow =>
    rw [traverseAll_cons, List.map_cons, sizeAll, size_eq]
    obtain ⟨answer, s'⟩ := visit s p
    cases answer with
    | stop =>
      show 1 ≤ _
      omega
    | skip =>
      have := ih s'
      simp only [after, List.length_cons]
      omega
    | descend =>
      have := ihBelow s'
      rw [List.map_append, sizeAll_append, Place.map_node_children] at this
      simp only [after, List.length_cons]
      omega

end

/-- **A walk is the traversal in pre-order**, whatever the visitor answers. It leaves the visitor in the
same state, and calls it at the visited places in their order. These are different places, each of them
in the tree, and so no more than there are nodes. -/
theorem walk_visits {σ : Type} (visit : σ → Place → Visit × σ) (s : σ) (root : Tree) :
    let t := traverse visit s { node := root }
    walk visit s root = t.state ∧
      walk (noting visit) ([], s) root = (t.visited, t.state) ∧
      t.visited.length ≤ root.size ∧
      (t.visited.map Place.path).Nodup ∧
      ∀ p ∈ t.visited, root.at? p.path = some p.node := by
  intro t
  have hsublist := visited_sublist visit s [{ node := root }]
  have hlength := length_visited_le visit s [{ node := root }]
  rw [traverseAll_singleton] at hsublist hlength
  simp only [List.flatMap_cons, List.flatMap_nil, List.append_nil] at hsublist
  refine ⟨walk_eq visit s root, ?_, by simpa [sizeAll] using hlength, ?_, fun p hp => ?_⟩
  · rw [walk_eq, traverse_noting]
  · exact (Place.nodup_all _).sublist (hsublist.map Place.path)
  · exact at?_of_mem_all rfl (hsublist.subset hp)

/-- One leaf at four places; the visitor counts its calls, passes one node and ends the walk at
another. -/
theorem walk_visits_passedAndEnded :
    let leaf : Tree := .node { kind := "leaf" } .zero .zero []
    let root : Tree := .node { kind := "root" } .zero .zero
      [.node { kind := "open" } .zero .zero [leaf, leaf],
        .node { kind := "passed" } .zero .zero [leaf],
        .node { kind := "last" } .zero .zero [leaf]]
    let visit (calls : Nat) (p : Place) : Visit × Nat :=
      (if p.node.kind = "passed" then .skip else if p.node.kind = "last" then .stop else .descend,
        calls + 1)
    let t := traverse visit 0 { node := root }
    (t.visited.map Place.path = [[], [0], [0, 0], [1, 0], [1], [2]] ∧ t.state = 6) ∧
      walk visit 0 root = 6 ∧
      walk (noting visit) ([], 0) root = (t.visited, 6) ∧
      t.visited.length ≤ root.size ∧
      (t.visited.map Place.path).Nodup ∧
      ∃ p ∈ t.visited, p.path = [1, 0] ∧ root.at? [1, 0] = some p.node := by
  intro leaf root visit t
  have hpaths : t.visited.map Place.path = [[], [0], [0, 0], [1, 0], [1], [2]] := by
    decide +kernel
  have hstate : t.state = 6 := by decide +kernel
  obtain ⟨hwalk, hnoted, hlength, hnodup, hinside⟩ := walk_visits visit 0 root
  have hmem : [1, 0] ∈ t.visited.map Place.path := by
    rw [hpaths]
    decide
  obtain ⟨p, hp, hpath⟩ := List.mem_map.1 hmem
  refine ⟨⟨hpaths, hstate⟩, hwalk.trans hstate, ?_, hlength, hnodup, p, hp, hpath, ?_⟩
  · rw [← hstate]
    exact hnoted
  · rw [← hpath]
    exact hinside p hp

end EmbeddedScripts.Tree
