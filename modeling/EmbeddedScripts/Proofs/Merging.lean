import EmbeddedScripts.Document

/-!
# What merging keeps

The tokens and the comments of a merged document are those of its trees, one tree after the other
(`tokens_merge`, `comments_merge`), and each of its nodes is a node of a tree with its relatives moved
(`mem_nodes_merge`).
-/

namespace EmbeddedScripts

theorem mem_filterMap_tree? {outcomes : List Outcome} {t : ParseTree} :
    t ∈ outcomes.filterMap Outcome.tree? ↔ .present t ∈ outcomes := by
  rw [List.mem_filterMap]
  constructor
  · rintro ⟨o, ho, ht⟩
    cases o with
    | present u =>
      cases ht
      exact ho
    | absent reason => cases ht
  · intro h
    exact ⟨.present t, h, rfl⟩

/-- A list that each tree adds its own to. -/
theorem foldl_append_eq {α : Type} {f : Document → List α} {g : ParseTree → List α}
    (h : ∀ d t, f (d.append t) = f d ++ g t) (d : Document) (ts : List ParseTree) :
    f (ts.foldl Document.append d) = f d ++ ts.flatMap g := by
  induction ts generalizing d with
  | nil => simp
  | cons t ts ih => rw [List.foldl_cons, ih, h, List.append_assoc, List.flatMap_cons]

theorem mem_nodes_foldl_append {d : Document} {ts : List ParseTree} {n : SyntaxNode}
    (h : n ∈ (ts.foldl Document.append d).program.nodes) :
    n ∈ d.program.nodes ∨ ∃ t ∈ ts, ∃ m ∈ t.nodes, ∃ base, n = m.shift base := by
  induction ts generalizing d with
  | nil => exact .inl h
  | cons t ts ih =>
    rw [List.foldl_cons] at h
    rcases ih h with h | ⟨u, hu, m, hm, base, rfl⟩
    · simp only [Document.append, Array.mem_append, Array.mem_map] at h
      rcases h with h | ⟨m, hm, rfl⟩
      · exact .inl h
      · exact .inr ⟨t, List.mem_cons_self, m, hm, _, rfl⟩
    · exact .inr ⟨u, List.mem_cons_of_mem _ hu, m, hm, base, rfl⟩

theorem tokens_merge (document : String) (outcomes : List Outcome) :
    (merge document outcomes).tokens.toList =
      (outcomes.filterMap Outcome.tree?).flatMap (·.tokens.toList) :=
  foldl_append_eq (f := (·.tokens.toList)) (fun _ _ => Array.toList_append) _ _

theorem comments_merge (document : String) (outcomes : List Outcome) :
    (merge document outcomes).comments.toList =
      (outcomes.filterMap Outcome.tree?).flatMap (·.comments.toList) :=
  foldl_append_eq (f := (·.comments.toList)) (fun _ _ => Array.toList_append) _ _

theorem mem_nodes_merge {document : String} {outcomes : List Outcome} {n : SyntaxNode}
    (h : n ∈ (merge document outcomes).program.nodes) :
    ∃ t ∈ outcomes.filterMap Outcome.tree?, ∃ m ∈ t.nodes, ∃ base, n = m.shift base := by
  rcases mem_nodes_foldl_append h with h | h
  · simp [Document.ofText] at h
  · exact h

end EmbeddedScripts
