import EmbeddedScripts.Tree.Cursor

/-!
# Walking a tree

`walk` visits the nodes of a tree in the order of the text with a stateful visitor that says of each
node whether to go below it, to pass it, or to end. It moves one cursor, so that nesting never reaches
the call stack. What a cursor has still to visit are its `pending` places, each with all below it:
`toVisit_next?` and `toVisit_descend` say what is left of them after a move.
-/

namespace EmbeddedScripts

namespace Tree

mutual

/-- The number of nodes of a tree. -/
def size : Tree → Nat
  | node _ _ _ ts => 1 + sizeAll ts

/-- The number of nodes of several trees. -/
def sizeAll : List Tree → Nat
  | [] => 0
  | t :: ts => t.size + sizeAll ts

end

theorem size_eq (t : Tree) : t.size = 1 + sizeAll t.children := by
  cases t
  simp [size, children]

@[simp] theorem sizeAll_append (ts us : List Tree) :
    sizeAll (ts ++ us) = sizeAll ts + sizeAll us := by
  induction ts with
  | nil => simp [sizeAll]
  | cons t ts ih => simp [sizeAll, ih, Nat.add_assoc]

theorem sizeAll_filter_le (p : Tree → Bool) (ts : List Tree) :
    sizeAll (ts.filter p) ≤ sizeAll ts := by
  induction ts with
  | nil => simp
  | cons t ts ih =>
    by_cases h : p t
    · simp only [List.filter_cons_of_pos h, sizeAll]
      omega
    · simp only [List.filter_cons_of_neg h, sizeAll]
      omega

/-- What a visitor answers to a node. -/
inductive Visit where
  /-- Go below the node. -/
  | descend
  /-- Pass the node with all below it. -/
  | skip
  /-- End the walk. -/
  | stop
deriving DecidableEq, Repr

/-! ## Moving on -/

namespace Cursor

theorem length_above_parent? {c c' : Cursor} (h : c.parent? = some c') :
    c'.above.length < c.above.length := by
  unfold parent? at h
  split at h
  · cases h
  · rename_i habove
    cases h
    rw [habove]
    exact Nat.lt_succ_self _

/-- The cursor at the next sibling of the node, or of the nearest node above that has one. -/
def next? (c : Cursor) : Option Cursor :=
  match c.nextSibling? with
  | some c' => some c'
  | none =>
    match _h : c.parent? with
    | some c' => c'.next?
    | none => none
termination_by c.above.length
decreasing_by exact length_above_parent? _h

/-- Where the walk goes on after the visitor's answer to the node. -/
def advance? (c : Cursor) : Visit → Option Cursor
  | .stop => none
  | .skip => c.next?
  | .descend => c.firstChild? <|> c.next?

/-! ## What is left -/

/-- The places that follow the node and are not below it. -/
def following (c : Cursor) : List Place := c.later ++ c.above.flatMap (·.2)

/-- The place of the cursor and those that follow. -/
def pending (c : Cursor) : List Place := c.place :: c.following

/-- What is still to visit after a move; nothing if there was nowhere to move. -/
def toVisit (c : Option Cursor) : List Place := c.elim [] pending

/-- **Moving past a node** leaves what follows it. -/
theorem toVisit_next? (c : Cursor) : toVisit c.next? = c.following := by
  obtain ⟨p, later, above⟩ := c
  -- without a later sibling the cursor is as if it stood at the parent
  induction above generalizing p later with
  | nil =>
    rw [next?]
    cases later with
    | nil => rfl
    | cons q qs => rfl
  | cons frame above ih =>
    obtain ⟨parent, siblings⟩ := frame
    rw [next?]
    cases later with
    | nil => exact ih parent siblings
    | cons q qs => rfl

/-- **Moving on below a node** leaves its children and what follows it. -/
theorem toVisit_descend (c : Cursor) :
    toVisit (c.advance? .descend) = c.place.children ++ c.following := by
  rw [advance?, firstChild?]
  cases c.place.children with
  | nil => exact toVisit_next? c
  | cons p ps => rfl

end Cursor

/-! ## Walking -/

namespace Place

theorem map_node_children (p : Place) : p.children.map node = p.node.children := by
  simp [children, Function.comp_def]

end Place

theorem Cursor.sizeAll_advance? {c c' : Cursor} {answer : Visit}
    (h : c.advance? answer = some c') :
    sizeAll (c'.pending.map Place.node) < sizeAll (c.pending.map Place.node) := by
  have hsize := size_eq c.place.node
  have hpending : sizeAll (c.pending.map Place.node) =
      c.place.node.size + sizeAll (c.following.map Place.node) := rfl
  have hleft : toVisit (c.advance? answer) = c'.pending := by rw [h]; rfl
  cases answer with
  | stop => cases h
  | skip =>
    rw [← hleft, advance?, toVisit_next?]
    omega
  | descend =>
    rw [← hleft, toVisit_descend, List.map_append, Place.map_node_children, sizeAll_append]
    omega

/-- Visits the place of the cursor and goes on from there; gives the last state of the visitor. -/
def walkFrom {σ : Type} (visit : σ → Place → Visit × σ) (s : σ) (c : Cursor) : σ :=
  let (answer, s) := visit s c.place
  match _h : c.advance? answer with
  | some c' => walkFrom visit s c'
  | none => s
termination_by sizeAll (c.pending.map Place.node)
decreasing_by exact Cursor.sizeAll_advance? _h

/-- Visits the nodes of a tree; gives the last state of the visitor. -/
def walk {σ : Type} (visit : σ → Place → Visit × σ) (s : σ) (root : Tree) : σ :=
  walkFrom visit s (.ofRoot root)

end Tree

end EmbeddedScripts
