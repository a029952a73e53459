import EmbeddedScripts.Proofs.Leaves
import Mathlib.Data.List.Flatten
import Mathlib.Data.List.Forall2

/-!
# Tokens and nodes agree

The tokens of a source and the nodes of its arena are found by two walks over one tree, which leave out
different things and take different nodes for leaves.

* `syntacticTrees` lists the nodes of a tree that have a place in the arena by recursion on the tree;
  `standsFor_arena`: the nodes of the arena stand for just these, in order.
* `isWord`: whether a node with text is a leaf or a literal. `filter_lexicalTrees`: in a tree of the
  grammar (`Grammatical`) the tokens that stand for rules, hash-bang lines apart, come from the same
  nodes as the words among the nodes of the arena.
* `tokens_agree_nodes`: so these tokens and these nodes have the same kinds, texts and spans.
-/

namespace EmbeddedScripts.Script

/-! ## The nodes behind an arena -/

/-- Whether a node has a place in the arena, if it is not below a leaf. -/
def isPlaced (t : Tree) : Bool := t.named && isSyntactic t

mutual

/-- A tree and the nodes below it that have a place in the arena, in pre-order. -/
def syntacticTrees : Tree → List Tree
  | .node l a b ts =>
    .node l a b ts :: if isLeaf (.node l a b ts) then [] else syntacticTreesAll ts

/-- The nodes of several trees that have a place in the arena. -/
def syntacticTreesAll : List Tree → List Tree
  | [] => []
  | t :: ts =>
    if isPlaced t then syntacticTrees t ++ syntacticTreesAll ts else syntacticTreesAll ts

end

theorem syntacticChildren_eq (t : Tree) : syntacticChildren t = t.children.filter isPlaced := by
  unfold syntacticChildren Tree.namedChildren
  rw [List.filter_filter]
  refine List.filter_congr fun c _ => ?_
  rw [isPlaced, Bool.and_comm]

theorem syntacticTreesAll_eq (ts : List Tree) :
    syntacticTreesAll ts = (ts.filter isPlaced).flatMap syntacticTrees := by
  induction ts with
  | nil => rfl
  | cons t ts ih =>
    rw [syntacticTreesAll, ih]
    split
    · rename_i h
      rw [List.filter_cons_of_pos h, List.flatMap_cons]
    · rename_i h
      rw [List.filter_cons_of_neg h]

theorem syntacticTrees_eq (t : Tree) :
    syntacticTrees t = t :: (partsOf t).flatMap syntacticTrees := by
  cases h : isLeaf t with
  | true =>
    rw [partsOf_of_isLeaf h]
    cases t
    simp [syntacticTrees, h]
  | false =>
    rw [partsOf_of_not_isLeaf h, syntacticChildren_eq, ← syntacticTreesAll_eq]
    cases t
    simp [syntacticTrees, h, Tree.children]

theorem standsFor_flattenAll {s : Source} {ts : List Tree}
    (h : ∀ t ∈ ts, ∀ base parent,
      List.Forall₂ (StandsFor s) (syntacticTrees t) ((outline s t).flatten base parent))
    (base : Nat) (parent : Option Nat) :
    List.Forall₂ (StandsFor s) (ts.flatMap syntacticTrees)
      (Outline.flattenAll base parent (ts.map (outline s))) := by
  induction ts generalizing base with
  | nil => exact .nil
  | cons t ts ih =>
    rw [List.flatMap_cons, List.map_cons, Outline.flattenAll]
    have hmore := ih (fun u hu => h u (List.mem_cons_of_mem _ hu)) (base + (outline s t).size)
    exact List.rel_append (h t List.mem_cons_self base parent) hmore

theorem standsFor_flatten (s : Source) (t : Tree) (base : Nat) (parent : Option Nat) :
    List.Forall₂ (StandsFor s) (syntacticTrees t) ((outline s t).flatten base parent) := by
  induction t using Tree.induct generalizing base parent with
  | step t ih =>
    rw [syntacticTrees_eq, outline_eq, Outline.flatten]
    refine .cons ⟨rfl, rfl, rfl⟩ ?_
    exact standsFor_flattenAll (fun c hc => ih c (mem_partsOf hc)) (base + 1) (some base)

/-- **The nodes of an arena** stand for the nodes of the tree that have a place in it, in order. -/
theorem standsFor_arena (s : Source) (root : Tree) :
    List.Forall₂ (StandsFor s) (syntacticTreesAll root.children) (arena s root).nodes.toList := by
  rw [arena_eq_flattenAll, syntacticTreesAll_eq, ← syntacticChildren_eq]
  exact standsFor_flattenAll (fun t _ => standsFor_flatten s t) 0 none

/-! ## The order of the tree -/

theorem flatMap_sublist_nodes {t : Tree} {f : Tree → List Tree}
    (h : ∀ c ∈ t.children, (f c).Sublist c.nodes) {ts : List Tree} (hts : ts.Sublist t.children) :
    (ts.flatMap f).Sublist (t.children.flatMap Tree.nodes) :=
  (List.Sublist.flatMap_right _ fun c hc => h c (hts.subset hc)).trans (hts.flatMap _)

theorem syntacticTrees_sublist (t : Tree) : (syntacticTrees t).Sublist t.nodes := by
  induction t using Tree.induct with
  | step t ih =>
    rw [syntacticTrees_eq, Tree.nodes_eq]
    exact (flatMap_sublist_nodes ih (partsOf_sublist t)).cons_cons t

theorem syntacticTreesAll_sublist (root : Tree) :
    (syntacticTreesAll root.children).Sublist root.nodes := by
  rw [syntacticTreesAll_eq, Tree.nodes_eq]
  have hchildren := fun c (_ : c ∈ root.children) => syntacticTrees_sublist c
  exact (flatMap_sublist_nodes hchildren List.filter_sublist).cons root

theorem lexicalTrees_sublist (root : Tree) : (lexicalTrees root).Sublist root.nodes := by
  induction root using Tree.induct with
  | step root ih =>
    have hroot : [root].Sublist root.nodes := by
      rw [Tree.nodes_eq]
      exact (List.nil_sublist _).cons_cons root
    rw [lexicalTrees_eq]
    split
    · exact hroot
    · split
      · split
        · exact hroot
        · exact List.nil_sublist _
      · rw [Tree.nodes_eq]
        exact (flatMap_sublist_nodes ih (List.Sublist.refl _)).cons root

/-! ## Words -/

/-- Whether a node with text has no children, or is kept whole. -/
def isWord (t : Tree) : Bool :=
  (t.children.isEmpty || isAtomic t) && t.start.offset < t.stop.offset

theorem isLeaf_of_cut {t : Tree} (h : (t.children.isEmpty || isAtomic t) = true) :
    isLeaf t = true := by
  rw [isLeaf, Bool.or_eq_true]
  rcases Bool.or_eq_true_iff.1 h with he | ha
  · left
    simp [Tree.namedChildren, List.isEmpty_iff.1 he]
  · exact .inr ha

/-- A node that is not kept whole has its syntactic children as parts, even if it has none. -/
theorem partsOf_of_not_isAtomic {t : Tree} (h : isAtomic t = false) :
    partsOf t = syntacticChildren t := by
  cases hleaf : isLeaf t with
  | false => exact partsOf_of_not_isLeaf hleaf
  | true =>
    rw [isLeaf, h, Bool.or_false, List.isEmpty_iff] at hleaf
    rw [partsOf_of_isLeaf (by simp [isLeaf, hleaf]), syntacticChildren, hleaf, List.filter_nil]

/-- What the grammar makes of every text: fixed spellings and hash-bang lines have nothing below them,
and the whole is a program, which has no text if there is nothing in it. -/
structure Grammatical (root : Tree) : Prop where
  spelling_leaf : ∀ t ∈ root.nodes, t.named = false → t.children = []
  hash_bang_leaf : ∀ t ∈ root.nodes, t.kind = "hash_bang_line" → t.children = []
  program : root.kind = "program"
  empty_program : root.children = [] → root.start.offset = root.stop.offset

/-- A node with children is placed in the arena unless it is a comment. -/
theorem isPlaced_of_children {t : Tree} (hspelling : t.named = false → t.children = [])
    (hbang : t.kind = "hash_bang_line" → t.children = []) (hc : isComment t = false)
    (hne : t.children.isEmpty = false) : isPlaced t = true := by
  have hchildren : t.children ≠ [] := List.isEmpty_eq_false_iff.1 hne
  have hnamed : t.named = true := by
    by_contra hn
    exact hchildren (hspelling (by simpa using hn))
  have hkind : t.kind ≠ "hash_bang_line" := fun hk => hchildren (hbang hk)
  simp [isPlaced, isSyntactic, hnamed, hc, hkind]

theorem flatMap_ite {α β : Type} (p : α → Bool) (f : α → List β) (as : List α) :
    (as.flatMap fun a => if p a then f a else []) = (as.filter p).flatMap f := by
  induction as with
  | nil => rfl
  | cons a as ih =>
    rw [List.flatMap_cons, ih]
    split
    · rename_i h
      rw [List.filter_cons_of_pos h, List.flatMap_cons]
    · rename_i h
      rw [List.filter_cons_of_neg h, List.nil_append]

/-- **Both walks find the same words** below a node that has a place in the arena, and none of those
tokens is below any other node. -/
theorem filter_lexicalTrees {t : Tree}
    (hspelling : ∀ u ∈ t.nodes, u.named = false → u.children = [])
    (hbang : ∀ u ∈ t.nodes, u.kind = "hash_bang_line" → u.children = []) :
    (lexicalTrees t).filter isPlaced =
      if isPlaced t then (syntacticTrees t).filter isWord else [] := by
  induction t using Tree.induct with
  | step t ih =>
    rw [lexicalTrees_eq, syntacticTrees_eq]
    cases hc : isComment t with
    | true =>
      have hnot : isPlaced t = false := by simp [isPlaced, isSyntactic, hc]
      simp [hnot]
    | false =>
      cases hcut : t.children.isEmpty || isAtomic t with
      | true =>
        -- nothing is below the node in either walk
        rw [partsOf_of_isLeaf (isLeaf_of_cut hcut)]
        have hword : isWord t = decide (t.start.offset < t.stop.offset) := by
          rw [isWord, hcut, Bool.true_and]
        by_cases hlt : t.start.offset < t.stop.offset
        · cases hp : isPlaced t with
          | true => simp [hlt, hp, hword]
          | false => simp [hlt, hp]
        · simp [hlt, hword]
      | false =>
        -- a node with children has a place, and the words are below its children
        obtain ⟨hne, hatomic⟩ := Bool.or_eq_false_iff.1 hcut
        have hself := Tree.mem_nodes_self t
        have hplaced := isPlaced_of_children (hspelling t hself) (hbang t hself) hc hne
        have hword : ¬ isWord t = true := by simp [isWord, hcut]
        have hbelow : ∀ c ∈ t.children, (lexicalTrees c).filter isPlaced =
            if isPlaced c then (syntacticTrees c).filter isWord else [] := fun c hm =>
          ih c hm (fun u hu => hspelling u (Tree.mem_nodes_of_child hm hu))
            (fun u hu => hbang u (Tree.mem_nodes_of_child hm hu))
        rw [if_neg Bool.false_ne_true, if_neg Bool.false_ne_true, if_pos hplaced,
          List.filter_cons_of_neg hword, partsOf_of_not_isAtomic hatomic, syntacticChildren_eq,
          List.filter_flatMap, List.filter_flatMap, List.flatMap_congr hbelow, flatMap_ite]

/-- **Both walks find the same words** in a tree of the grammar. -/
theorem Grammatical.filter_lexicalTrees {root : Tree} (h : Grammatical root) :
    (lexicalTrees root).filter isPlaced = (syntacticTreesAll root.children).filter isWord := by
  have hc : isComment root = false := by simp [isComment, h.program]
  have ha : isAtomic root = false := by simp [isAtomic, h.program]
  rw [lexicalTrees_eq, hc, ha, Bool.or_false, if_neg Bool.false_ne_true]
  cases hne : root.children.isEmpty with
  | true =>
    have hnil := List.isEmpty_iff.1 hne
    rw [if_pos rfl, if_neg (by rw [h.empty_program hnil]; omega), hnil]
    rfl
  | false =>
    rw [if_neg Bool.false_ne_true, syntacticTreesAll_eq, List.filter_flatMap, List.filter_flatMap,
      ← flatMap_ite]
    refine List.flatMap_congr fun c hm => ?_
    exact Script.filter_lexicalTrees
      (fun u hu => h.spelling_leaf u (Tree.mem_nodes_of_child hm hu))
      (fun u hu => h.hash_bang_leaf u (Tree.mem_nodes_of_child hm hu))

/-! ## Tokens and nodes -/

/-- The nodes of a tree that are tokens, in the order of the text. -/
def tokenTrees (root : Tree) : List Tree := (lexicalTrees root).filter fun t => !isComment t

/-- Whether a token stands for a rule of the grammar and is no hash-bang line. -/
def isRuleToken (t : Tree) : Bool := t.named && t.kind != "hash_bang_line"

theorem filter_tokenTrees (root : Tree) :
    (tokenTrees root).filter isRuleToken = (lexicalTrees root).filter isPlaced := by
  rw [tokenTrees, List.filter_filter]
  refine List.filter_congr fun t _ => ?_
  rw [isRuleToken, isPlaced, isSyntactic, Bool.and_assoc, Bool.and_comm (t.kind != _)]

/-- Out of two lists that go side by side, what is made of those members of the second whose partners
are chosen. -/
theorem map_filter_zip {α β γ : Type} {R : α → β → Prop} {p : α → Bool} {f : α → γ} {g : β → γ}
    {as : List α} {bs : List β} (h : List.Forall₂ R as bs)
    (hfg : ∀ a b, R a b → p a = true → g b = f a) :
    (((as.zip bs).filter fun x => p x.1).map fun x => g x.2) = (as.filter p).map f := by
  induction h with
  | nil => rfl
  | @cons a b as bs hab _ ih =>
    by_cases hp : p a = true
    · simp [hp, ih, hfg a b hab hp]
    · simp [hp, ih]

/-- Tokens and nodes of an arena that agree. `root` is the tree that both come from, and `s` places its
nodes. -/
structure Agree (s : Source) (root : Tree) (tokens : List Token) (nodes : List SyntaxNode) :
    Prop where
  /-- The tokens come from nodes of the tree, in order. -/
  tokens_eq : tokens = (tokenTrees root).map (tokenAt s)
  tokens_ordered : (tokenTrees root).Sublist root.nodes
  /-- The nodes of the arena stand for nodes of the tree, in order. -/
  nodes_stand : List.Forall₂ (StandsFor s) (syntacticTreesAll root.children) nodes
  nodes_ordered : (syntacticTreesAll root.children).Sublist root.nodes
  /-- The tokens of rules and the words among the nodes come from the same nodes of the tree. -/
  trees_eq : (tokenTrees root).filter isRuleToken =
    (syntacticTreesAll root.children).filter isWord
  /-- They have the same kinds, texts and spans. -/
  words_eq :
    ((((tokenTrees root).zip tokens).filter fun x => isRuleToken x.1).map fun x =>
        (x.2.kind, some x.2.value, x.2.span)) =
      (((syntacticTreesAll root.children).zip nodes).filter fun x => isWord x.1).map fun x =>
        (x.2.kind, x.2.text, x.2.span)

/-- A word of the arena shows its text. -/
theorem StandsFor.word_eq {s : Source} {t : Tree} {n : SyntaxNode} (h : StandsFor s t n)
    (hword : isWord t = true) :
    (n.kind, n.text, n.span) = (t.kind, some (t.text s.text), s.span t) := by
  rw [isWord, Bool.and_eq_true] at hword
  rw [h.kind, h.span, h.text, isLeaf_of_cut hword.1, if_pos rfl]

/-- **Tokens and nodes agree** for every tree of the grammar: the tokens that stand for rules, hash-bang
lines apart, are the nodes of the arena with text that are leaves of the tree or literals, one by one
and in the same order. -/
theorem tokens_agree_nodes (s : Source) {root : Tree} (h : Grammatical root) :
    Agree s root (lexicalParts s root).tokens.toList (arena s root).nodes.toList := by
  have htokens : (lexicalParts s root).tokens.toList = (tokenTrees root).map (tokenAt s) :=
    tokens_lexicalParts s root
  have htoken : List.Forall₂ (fun t k => k = tokenAt s t) (tokenTrees root)
      (lexicalParts s root).tokens.toList := by
    rw [htokens, List.forall₂_map_right_iff]
    exact List.forall₂_same.2 fun _ _ => rfl
  have hstand := standsFor_arena s root
  have htrees := (filter_tokenTrees root).trans h.filter_lexicalTrees
  refine ⟨htokens, List.filter_sublist.trans (lexicalTrees_sublist root), hstand,
    syntacticTreesAll_sublist root, htrees, ?_⟩
  calc
    _ = ((tokenTrees root).filter isRuleToken).map fun t =>
          (t.kind, some (t.text s.text), s.span t) :=
        map_filter_zip (g := fun k => (k.kind, some k.value, k.span)) htoken (by
          rintro t k rfl -
          rfl)
    _ = ((syntacticTreesAll root.children).filter isWord).map fun t =>
          (t.kind, some (t.text s.text), s.span t) := by rw [htrees]
    _ = _ := (map_filter_zip hstand fun t n hn hword => hn.word_eq hword).symm

theorem calledName_grammatical : Grammatical calledName :=
  ⟨by decide +kernel, by decide +kernel, by decide +kernel, by decide +kernel⟩

/-- The hash-bang line, the punctuation and the comments are left out, and the string and the regular
expression are one word each. -/
theorem tokens_agree_nodes_calledName :
    let s := Source.ofString "#!x\nf('a'/**/,/b/)<!--c" 1
    Grammatical calledName ∧
      (lexicalParts s calledName).tokens.toList.map (·.value) =
        ["#!x", "f", "(", "'a'", ",", "/b/", ")"] ∧
      ((syntacticTreesAll calledName.children).filter isWord).map (·.kind) =
        ["identifier", "string", "regex"] ∧
      Agree s calledName (lexicalParts s calledName).tokens.toList
        (arena s calledName).nodes.toList := by
  intro s
  refine ⟨calledName_grammatical, ?_, by decide +kernel, ?_⟩
  · rw [tokens_lexicalParts]
    decide +kernel
  · exact tokens_agree_nodes s calledName_grammatical

end EmbeddedScripts.Script
