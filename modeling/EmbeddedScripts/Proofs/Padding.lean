import EmbeddedScripts.Proofs.Positions

/-!
# Reading a text behind spaces

A region is parsed with spaces before its content. They move the places of the concrete syntax tree;
what is read of it, and whether it is accepted, is as without them.

* `Tree.pad k t`: the tree with its places moved on by `k` bytes, columns on the first row only.
* `firstViolation?_pad`, `lexicalTrees_pad`, `addAll_pad`: the first violation, the tokens and comments
  and the nodes of a moved tree are those of the tree.
* `ParseTree.mapSpans f`: a parse tree with other spans and all else as it is.
* `readTree_pad`: what is read of a moved tree differs in its spans only.
-/

namespace EmbeddedScripts

/-! ## Texts with spaces before them -/

/-- What is cut out of a text is cut out behind spaces put before it, too. -/
theorem Text.slice_spaces (k : Nat) (s : String) (start stop : Nat) :
    slice (spaces k ++ s) (start + k) (stop + k) = slice s start stop := by
  have hlist : ∀ n, spaces n ++ s = String.ofList (List.replicate n ' ' ++ s.toList) := by
    intro n
    rw [← String.toList_inj, String.toList_append, toList_spaces, String.toList_ofList]
  rw [hlist]
  induction k with
  | zero => simp
  | succ k ih => exact (String.extract_cons_addChar ' ' _ ⟨start + k⟩ ⟨stop + k⟩).trans ih

/-- Spaces do not make a text blank, nor keep it from being blank. -/
theorem Text.isBlankText_spaces (k : Nat) (s : String) :
    isBlankText (spaces k ++ s) = isBlankText s := by
  have hspaces : (List.replicate k ' ').all isBlank = true := by
    rw [List.all_replicate]
    simp [show isBlank ' ' = true by decide]
  rw [isBlankText, String.toList_append, List.all_append, toList_spaces, hspaces, Bool.true_and]
  rfl

/-! ## Trees with spaces before them -/

/-- The place in a text with `k` spaces put before it. -/
def Mark.pad (k : Nat) (m : Mark) : Mark :=
  ⟨m.offset + k, m.row, if m.row = 0 then m.column + k else m.column⟩

@[simp] theorem Mark.offset_pad (k : Nat) (m : Mark) : (m.pad k).offset = m.offset + k := rfl

namespace Tree

mutual

/-- The tree with all its places moved by `k` spaces put before the text. -/
def pad (k : Nat) : Tree → Tree
  | node l a b ts => node l (a.pad k) (b.pad k) (padAll k ts)

/-- Several trees, moved. -/
def padAll (k : Nat) : List Tree → List Tree
  | [] => []
  | t :: ts => t.pad k :: padAll k ts

end

theorem padAll_eq (k : Nat) (ts : List Tree) : padAll k ts = ts.map (pad k) := by
  induction ts with
  | nil => rfl
  | cons t ts ih => rw [padAll, ih, List.map_cons]

variable (k : Nat) (t : Tree)

@[simp] theorem label_pad : (t.pad k).label = t.label := by
  cases t
  rfl

@[simp] theorem start_pad : (t.pad k).start = t.start.pad k := by
  cases t
  rfl

@[simp] theorem stop_pad : (t.pad k).stop = t.stop.pad k := by
  cases t
  rfl

@[simp] theorem children_pad : (t.pad k).children = t.children.map (pad k) := by
  cases t
  exact padAll_eq k _

@[simp] theorem kind_pad : (t.pad k).kind = t.kind := by
  simp [kind]

@[simp] theorem named_pad : (t.pad k).named = t.named := by
  simp [named]

@[simp] theorem hasChild_pad (kind : String) : (t.pad k).hasChild kind = t.hasChild kind := by
  simp [hasChild, Function.comp_def]

@[simp] theorem namedChildren_pad : (t.pad k).namedChildren = t.namedChildren.map (pad k) := by
  simp [namedChildren, List.filter_map, Function.comp_def]

@[simp] theorem childByField?_pad (field : String) :
    (t.pad k).childByField? field = (t.childByField? field).map (pad k) := by
  rw [childByField?, children_pad, List.find?_map, childByField?]
  simp only [Function.comp_def, label_pad]

@[simp] theorem text_pad (s : String) : (t.pad k).text (Text.spaces k ++ s) = t.text s := by
  simp [text, Text.slice_spaces]

end Tree

namespace Script

/-! ## Checks -/

section Checks

variable (s : String) (k : Nat)

@[simp] theorem boundName?_pad (t : Tree) :
    boundName? (Text.spaces k ++ s) (t.pad k) = boundName? s t := by
  unfold boundName?
  rw [Tree.childByField?_pad]
  cases t.childByField? "name" with
  | none => rfl
  | some name => simp

theorem declarators_pad (t : Tree) : declarators (t.pad k) = (declarators t).map (Tree.pad k) := by
  simp [declarators, List.filter_map, Function.comp_def]

theorem statementDeclarations_pad (t : Tree) :
    statementDeclarations (Text.spaces k ++ s) (t.pad k) = statementDeclarations s t := by
  simp [statementDeclarations, declarators_pad, List.filterMap_map]

theorem redeclaredName?_pad (t : Tree) :
    redeclaredName? (Text.spaces k ++ s) (t.pad k) = redeclaredName? s t := by
  simp [redeclaredName?_eq, declarations, List.flatMap_map, statementDeclarations_pad]

theorem violation?_pad (mode : SourceMode) (c : Context) (t : Tree) :
    violation? mode (Text.spaces k ++ s) c (t.pad k) = violation? mode s c t := by
  simp only [violation?, Tree.label_pad, Tree.kind_pad, Tree.hasChild_pad, Tree.text_pad,
    redeclaredName?_pad]

theorem enter_pad (c : Context) (t : Tree) : c.enter (t.pad k) = c.enter t := by
  simp [Context.enter, opensFunction, isGenerator]

/-- **The first violation is that of the tree that was not moved.** -/
theorem firstViolation?_pad (mode : SourceMode) (pending : List (Tree × Context)) :
    firstViolation? mode (Text.spaces k ++ s) (pending.map fun p => (p.1.pad k, p.2)) =
      (firstViolation? mode s pending).map fun p => (p.1.pad k, p.2) := by
  match pending with
  | [] =>
    rw [List.map_nil, firstViolation?, firstViolation?]
    rfl
  | (t, c) :: rest =>
    rw [List.map_cons, firstViolation?, firstViolation?, violation?_pad]
    split
    · rename_i v hv
      simp [hv]
    · rename_i hv
      have ih := firstViolation?_pad mode (t.children.map (·, c.enter t) ++ rest)
      simp only [List.map_append, List.map_map, Function.comp_def] at ih
      simpa [hv, enter_pad, Function.comp_def] using ih
termination_by pendingSize pending
decreasing_by
  simp [pendingSize, Tree.sizeAll, Tree.size_eq t, Function.comp_def]

end Checks

/-! ## Tokens and comments -/

section Parts

variable (k : Nat)

@[simp] theorem isComment_pad (t : Tree) : isComment (t.pad k) = isComment t := by
  simp [isComment]

@[simp] theorem isAtomic_pad (t : Tree) : isAtomic (t.pad k) = isAtomic t := by
  simp [isAtomic]

theorem lexicalTrees_pad (t : Tree) :
    lexicalTrees (t.pad k) = (lexicalTrees t).map (Tree.pad k) := by
  induction t using Tree.induct with
  | step t ih =>
    have hchildren : (t.children.map (Tree.pad k)).flatMap lexicalTrees =
        (t.children.flatMap lexicalTrees).map (Tree.pad k) := by
      rw [List.flatMap_map, List.map_flatMap]
      exact List.flatMap_congr ih
    rw [lexicalTrees_eq, lexicalTrees_eq, Tree.children_pad, hchildren]
    simp only [isComment_pad, isAtomic_pad, List.isEmpty_map, Tree.start_pad, Tree.stop_pad,
      Mark.offset_pad, Nat.add_lt_add_iff_right]
    split
    · rfl
    · split
      · split
        · rfl
        · rfl
      · rfl

@[simp] theorem isLeaf_pad (t : Tree) : isLeaf (t.pad k) = isLeaf t := by
  simp [isLeaf]

@[simp] theorem isSyntactic_pad (t : Tree) : isSyntactic (t.pad k) = isSyntactic t := by
  simp [isSyntactic]

theorem syntacticChildren_pad (t : Tree) :
    syntacticChildren (t.pad k) = (syntacticChildren t).map (Tree.pad k) := by
  simp [syntacticChildren, List.filter_map, Function.comp_def]

theorem partsOf_pad (t : Tree) : partsOf (t.pad k) = (partsOf t).map (Tree.pad k) := by
  unfold partsOf
  rw [isLeaf_pad, syntacticChildren_pad]
  split
  · rfl
  · rfl

end Parts

end Script

/-! ## Parse trees with other spans -/

/-- The node with another span. -/
def SyntaxNode.mapSpan (f : Span → Span) (n : SyntaxNode) : SyntaxNode :=
  { n with span := f n.span }

/-- The comment with another span. -/
def Comment.mapSpan (f : Span → Span) (c : Comment) : Comment := { c with span := f c.span }

/-- The token with another span. -/
def Token.mapSpan (f : Span → Span) (k : Token) : Token := { k with span := f k.span }

/-- The tree with other spans, and all else as it is: kinds, texts, values, links, statements. -/
def ParseTree.mapSpans (f : Span → Span) (t : ParseTree) : ParseTree :=
  { nodes := t.nodes.map (·.mapSpan f)
    statements := t.statements
    comments := t.comments.map (·.mapSpan f)
    tokens := t.tokens.map (·.mapSpan f)
    span := f t.span }

theorem ParseTree.relocate_eq_mapSpans (t : ParseTree) (base padding firstLine : Nat) :
    t.relocate base padding firstLine = t.mapSpans (Span.relocate base padding firstLine) := rfl

theorem ParseTree.mapSpans_mapSpans (f g : Span → Span) (t : ParseTree) :
    (t.mapSpans f).mapSpans g = t.mapSpans (g ∘ f) := by
  simp only [mapSpans, Array.map_map]
  rfl

namespace Script

/-! ## Nodes -/

/-- The node that stands for `t` below `parent`. -/
def nodeAt (s : Source) (t : Tree) (parent : Option Nat) : SyntaxNode :=
  { kind := t.kind, span := s.span t, text := if isLeaf t then some (t.text s.text) else none, parent }

namespace Arena

/-- The arena with other spans. -/
def mapSpans (f : Span → Span) (a : Arena) : Arena :=
  { a with nodes := a.nodes.map (·.mapSpan f) }

/-- The arena with one more node, which is noted at its parent or among the statements. -/
def insert (a : Arena) (n : SyntaxNode) : Arena :=
  let id := a.nodes.size
  match n.parent with
  | some p =>
    { a with nodes := (a.nodes.modify p fun m => { m with children := m.children.push id }).push n }
  | none => ⟨a.nodes.push n, a.statements.push id⟩

theorem add_eq_insert (s : Source) (a : Arena) (t : Tree) (parent : Option Nat) :
    a.add s t parent = a.insert (nodeAt s t parent) := by
  cases parent with
  | none => rfl
  | some p => rfl

/-- Links do not depend on spans. -/
theorem mapSpans_insert (f : Span → Span) (a : Arena) (n : SyntaxNode) :
    (a.insert n).mapSpans f = (a.mapSpans f).insert (n.mapSpan f) := by
  cases hp : n.parent with
  | none => simp [insert, mapSpans, SyntaxNode.mapSpan, hp]
  | some p =>
    have hmodify : (a.nodes.modify p fun m =>
          { m with children := m.children.push a.nodes.size }).map (·.mapSpan f) =
        (a.nodes.map (·.mapSpan f)).modify p fun m =>
          { m with children := m.children.push a.nodes.size } := by
      refine Array.ext (by simp) fun i h h' => ?_
      simp only [Array.getElem_map, Array.getElem_modify]
      split
      · rfl
      · rfl
    simp only [insert, mapSpans, SyntaxNode.mapSpan, hp, Array.map_push, Array.size_map]
      at hmodify ⊢
    rw [hmodify]

end Arena

/-! ## Reading a moved tree -/

section Reading

@[simp] theorem Source.text_ofString (s : String) (line : Nat) :
    (Source.ofString s line).text = s := rfl

variable {s : String} {k line line' : Nat} {f g : Span → Span}

/-- The span of `t`, moved by `k` spaces and with lines counted from `line'`, becomes by `f` what its
span in `s` becomes by `g`. -/
def SpanMatches (s : String) (k line line' : Nat) (f g : Span → Span) (t : Tree) : Prop :=
  f ((Source.ofString (Text.spaces k ++ s) line').span (t.pad k)) =
    g ((Source.ofString s line).span t)

theorem nodeAt_pad {t : Tree} (h : SpanMatches s k line line' f g t) (parent : Option Nat) :
    (nodeAt (.ofString (Text.spaces k ++ s) line') (t.pad k) parent).mapSpan f =
      (nodeAt (.ofString s line) t parent).mapSpan g := by
  unfold nodeAt SyntaxNode.mapSpan
  simp only [Tree.kind_pad, isLeaf_pad, Source.text_ofString, Tree.text_pad,
    SyntaxNode.mk.injEq, true_and, and_true]
  exact h

theorem tokenAt_pad {t : Tree} (h : SpanMatches s k line line' f g t) :
    (tokenAt (.ofString (Text.spaces k ++ s) line') (t.pad k)).mapSpan f =
      (tokenAt (.ofString s line) t).mapSpan g := by
  unfold tokenAt Token.mapSpan
  simp only [Tree.kind_pad, Source.text_ofString, Tree.text_pad, Token.mk.injEq, true_and]
  exact h

theorem commentAt_pad {t : Tree} (h : SpanMatches s k line line' f g t) :
    (commentAt (.ofString (Text.spaces k ++ s) line') (t.pad k)).mapSpan f =
      (commentAt (.ofString s line) t).mapSpan g := by
  unfold commentAt Comment.mapSpan
  simp only [Source.text_ofString, Tree.text_pad, Comment.mk.injEq, true_and]
  exact h

/-- **The nodes of a moved tree** are those of the tree, but for their spans. -/
theorem addAll_pad {pending : List (Tree × Option Nat)} {a a' : Arena}
    (h : ∀ p ∈ pending, ∀ t ∈ p.1.nodes, SpanMatches s k line line' f g t)
    (ha : a'.mapSpans f = a.mapSpans g) :
    (a'.addAll (.ofString (Text.spaces k ++ s) line')
        (pending.map fun p => (p.1.pad k, p.2))).mapSpans f =
      (a.addAll (.ofString s line) pending).mapSpans g := by
  match pending with
  | [] =>
    rw [List.map_nil, Arena.addAll, Arena.addAll]
    exact ha
  | (t, parent) :: rest =>
    -- the parts of `t` refer to it by the same index, since other spans leave the size as it is
    have hsize : a'.nodes.size = a.nodes.size := by
      have := congrArg (fun b => b.nodes.size) ha
      simpa [Arena.mapSpans] using this
    have hadd : (a'.add (.ofString (Text.spaces k ++ s) line') (t.pad k) parent).mapSpans f =
        (a.add (.ofString s line) t parent).mapSpans g := by
      rw [Arena.add_eq_insert, Arena.add_eq_insert, Arena.mapSpans_insert, Arena.mapSpans_insert,
        ha, nodeAt_pad (h _ List.mem_cons_self t (Tree.mem_nodes_self t))]
    have hmore : ∀ p ∈ (partsOf t).map (·, some a.nodes.size) ++ rest, ∀ u ∈ p.1.nodes,
        SpanMatches s k line line' f g u := by
      intro p hp u hu
      rcases List.mem_append.1 hp with hp | hp
      · obtain ⟨c, hc, rfl⟩ := List.mem_map.1 hp
        exact h _ List.mem_cons_self u (Tree.mem_nodes_of_child (mem_partsOf hc) hu)
      · exact h p (List.mem_cons_of_mem _ hp) u hu
    have ih := addAll_pad hmore hadd
    rw [List.map_cons, Arena.addAll, Arena.addAll, hsize]
    simpa [partsOf_pad, Function.comp_def] using ih
termination_by Tree.sizeAll (pending.map (·.1))
decreasing_by
  have h := sizeAll_partsOf_lt t
  simpa [Tree.sizeAll, Function.comp_def] using h

theorem arena_pad {root : Tree} (h : ∀ t ∈ root.nodes, SpanMatches s k line line' f g t) :
    (arena (.ofString (Text.spaces k ++ s) line') (root.pad k)).mapSpans f =
      (arena (.ofString s line) root).mapSpans g := by
  have hpending : ∀ p ∈ (syntacticChildren root).map (·, (none : Option Nat)), ∀ t ∈ p.1.nodes,
      SpanMatches s k line line' f g t := by
    intro p hp t ht
    obtain ⟨c, hc, rfl⟩ := List.mem_map.1 hp
    exact h t (Tree.mem_nodes_of_child (List.mem_of_mem_filter (List.mem_of_mem_filter hc)) ht)
  have hempty : Arena.mapSpans f {} = Arena.mapSpans g {} := by simp [Arena.mapSpans]
  have hall := addAll_pad hpending hempty
  unfold arena
  simpa [syntacticChildren_pad, Function.comp_def] using hall

theorem tokens_pad {root : Tree} (h : ∀ t ∈ root.nodes, SpanMatches s k line line' f g t) :
    (lexicalParts (.ofString (Text.spaces k ++ s) line') (root.pad k)).tokens.map (·.mapSpan f) =
      (lexicalParts (.ofString s line) root).tokens.map (·.mapSpan g) := by
  apply Array.toList_inj.1
  rw [Array.toList_map, Array.toList_map, tokens_lexicalParts, tokens_lexicalParts,
    lexicalTrees_pad, tokensOf, tokensOf, List.filter_map, List.map_map, List.map_map, List.map_map]
  simp only [Function.comp_def, isComment_pad]
  refine List.map_congr_left fun t ht => ?_
  exact tokenAt_pad (h t (mem_nodes_of_mem_lexicalTrees (List.mem_of_mem_filter ht)))

theorem comments_pad {root : Tree} (h : ∀ t ∈ root.nodes, SpanMatches s k line line' f g t) :
    (lexicalParts (.ofString (Text.spaces k ++ s) line') (root.pad k)).comments.map (·.mapSpan f) =
      (lexicalParts (.ofString s line) root).comments.map (·.mapSpan g) := by
  apply Array.toList_inj.1
  rw [Array.toList_map, Array.toList_map, comments_lexicalParts, comments_lexicalParts,
    lexicalTrees_pad, commentsOf, commentsOf, List.filter_map, List.map_map, List.map_map,
    List.map_map]
  simp only [Function.comp_def, isComment_pad]
  refine List.map_congr_left fun t ht => ?_
  exact commentAt_pad (h t (mem_nodes_of_mem_lexicalTrees (List.mem_of_mem_filter ht)))

/-- **A moved tree is read alike**: it is accepted if and only if the tree is, and what is read
differs in its spans only. -/
theorem readTree_pad {root : Tree} (h : ∀ t ∈ root.nodes, SpanMatches s k line line' f g t)
    (mode : SourceMode) :
    (readTree (Text.spaces k ++ s) ⟨mode, line'⟩ (root.pad k)).toOption.map (·.mapSpans f) =
      (readTree s ⟨mode, line⟩ root).toOption.map (·.mapSpans g) := by
  have hviolation := firstViolation?_pad s k mode [(root, .top mode)]
  rw [List.map_cons, List.map_nil] at hviolation
  unfold readTree
  simp only [hviolation]
  cases firstViolation? mode s [(root, .top mode)] with
  | some p => rfl
  | none =>
    have hnodes := arena_pad h
    simp only [Arena.mapSpans, Arena.mk.injEq] at hnodes
    show some (ParseTree.mapSpans f _) = some (ParseTree.mapSpans g _)
    rw [Option.some.injEq]
    unfold ParseTree.mapSpans
    rw [ParseTree.mk.injEq]
    exact ⟨hnodes.1, hnodes.2, comments_pad h, tokens_pad h, h root (Tree.mem_nodes_self root)⟩

end Reading

end Script

end EmbeddedScripts
