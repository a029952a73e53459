import EmbeddedScripts.Proofs.Violations
import Mathlib.Order.Bounds.Basic

/-!
# Names declared twice

Two declarations clash (`Declaration.Clashes`) if they are of one name and at least one of them is
lexical.

* `clashes_foldl`: the names seen in declarations say of a further one whether it clashes with any of
  them. So the search finds no name if no two declarations clash (`redeclared?_eq_none_iff`), and
  otherwise stops at the first that clashes with one before it (`redeclared?_eq_some_iff`).
* `block_redeclaration`: what that says of a block, and that it does not depend on the order of its
  statements.
* `readTree_module_iff`: at the top of a module, declarations under an export are left out of the
  search. A module in which no other rule is broken is accepted if and only if of any two
  declarations that clash one is exported.
-/

namespace EmbeddedScripts.Script

/-- The declarations are of one name, and at least one of them is lexical. -/
def Declaration.Clashes (d e : Declaration) : Prop :=
  d.name = e.name ∧ (d.lexical = true ∨ e.lexical = true)

instance (d e : Declaration) : Decidable (d.Clashes e) :=
  inferInstanceAs (Decidable (d.name = e.name ∧ (d.lexical = true ∨ e.lexical = true)))

theorem Declaration.Clashes.symm {d e : Declaration} (h : d.Clashes e) : e.Clashes d :=
  ⟨h.1.symm, h.2.symm⟩

/-! ## The names seen so far -/

namespace Declared

theorem clashes_empty (e : Declaration) : ({} : Declared).clashes e = false := by
  simp [clashes]

theorem clashes_add (seen : Declared) (d e : Declaration) :
    (seen.add d).clashes e = true ↔ seen.clashes e = true ∨ d.Clashes e := by
  unfold clashes add Declaration.Clashes
  cases hd : d.lexical with
  | true =>
    simp only [↓reduceIte, List.contains_cons, Bool.or_eq_true, Bool.and_eq_true, beq_iff_eq,
      true_or, and_true, eq_comm (a := d.name)]
    tauto
  | false =>
    simp only [Bool.false_eq_true, ↓reduceIte, List.contains_cons, Bool.or_eq_true,
      Bool.and_eq_true, beq_iff_eq, false_or, eq_comm (a := d.name)]
    tauto

/-- **The names seen in declarations** say of a further one whether it clashes with any of them. -/
theorem clashes_foldl (seen : Declared) (ds : List Declaration) (e : Declaration) :
    (ds.foldl add seen).clashes e = true ↔ seen.clashes e = true ∨ ∃ d ∈ ds, d.Clashes e := by
  induction ds generalizing seen with
  | nil => simp
  | cons d ds ih =>
    rw [List.foldl_cons, ih, clashes_add, or_assoc]
    simp only [List.mem_cons, exists_eq_or_imp]

end Declared

/-! ## The search -/

/-- **No name is found** if and only if no two declarations clash, nor one with a name seen before. -/
theorem redeclared?_eq_none_iff {seen : Declared} {ds : List Declaration} :
    redeclared? seen ds = none ↔
      (∀ d ∈ ds, seen.clashes d = false) ∧ ds.Pairwise fun d e => ¬ d.Clashes e := by
  induction ds generalizing seen with
  | nil => simp [redeclared?]
  | cons d ds ih =>
    rw [redeclared?, List.pairwise_cons, List.forall_mem_cons]
    split
    · rename_i hd
      simp [hd]
    · rename_i hd
      have hadd : ∀ e, (seen.add d).clashes e = false ↔ seen.clashes e = false ∧ ¬ d.Clashes e := by
        intro e
        rw [← Bool.not_eq_true, Declared.clashes_add, not_or, Bool.not_eq_true]
      simp only [ih, hadd, hd, true_and, forall_and, and_assoc]

/-- The search stops at a declaration that clashes with one before it, and with none before that. -/
theorem split_of_redeclared? {seen : Declared} {ds : List Declaration} {name : String}
    (h : redeclared? seen ds = some name) :
    ∃ before e after, ds = before ++ e :: after ∧ e.name = name ∧
      redeclared? seen before = none ∧ (before.foldl Declared.add seen).clashes e = true := by
  induction ds generalizing seen with
  | nil => cases h
  | cons d ds ih =>
    rw [redeclared?] at h
    split at h
    · rename_i hd
      exact ⟨[], d, ds, rfl, Option.some.inj h, rfl, hd⟩
    · rename_i hd
      obtain ⟨before, e, after, rfl, hname, hnone, hclash⟩ := ih h
      refine ⟨d :: before, e, after, rfl, hname, ?_, hclash⟩
      rw [redeclared?, if_neg hd, hnone]

/-- The declaration with the index `j` clashes with one before it. -/
def ClashesEarlier (ds : List Declaration) (j : Nat) : Prop :=
  ∃ i < j, ∃ d e, ds[i]? = some d ∧ ds[j]? = some e ∧ d.Clashes e

theorem not_clashesEarlier_iff {ds : List Declaration} :
    (∀ j, ¬ ClashesEarlier ds j) ↔ ds.Pairwise fun d e => ¬ d.Clashes e := by
  rw [List.pairwise_iff_getElem]
  constructor
  · intro h i j hi hj hij hclash
    exact h j ⟨i, hij, _, _, List.getElem?_eq_getElem hi, List.getElem?_eq_getElem hj, hclash⟩
  · rintro h j ⟨i, hij, d, e, hd, he, hclash⟩
    obtain ⟨hi, rfl⟩ := List.getElem?_eq_some_iff.1 hd
    obtain ⟨hj, rfl⟩ := List.getElem?_eq_some_iff.1 he
    exact h i j hi hj hij hclash

theorem isSome_redeclared?_iff {ds : List Declaration} :
    (redeclared? {} ds).isSome ↔ ∃ j, ClashesEarlier ds j := by
  rw [← not_iff_not, Bool.not_eq_true, Option.isSome_eq_false_iff, Option.isNone_iff_eq_none,
    redeclared?_eq_none_iff, not_exists, not_clashesEarlier_iff]
  simp [Declared.clashes_empty]

theorem isLeast_of_redeclared? {ds : List Declaration} {name : String}
    (h : redeclared? {} ds = some name) :
    ∃ j e, IsLeast {k | ClashesEarlier ds k} j ∧ ds[j]? = some e ∧ e.name = name := by
  obtain ⟨before, e, after, rfl, hname, hnone, hclash⟩ := split_of_redeclared? h
  have he : (before ++ e :: after)[before.length]? = some e := by simp
  refine ⟨before.length, e, ⟨?_, fun k hk => ?_⟩, he, hname⟩
  · obtain ⟨d, hd, hde⟩ : ∃ d ∈ before, d.Clashes e := by
      simpa [Declared.clashes_empty] using (Declared.clashes_foldl {} before e).1 hclash
    obtain ⟨i, hi, rfl⟩ := List.getElem_of_mem hd
    have hget : (before ++ e :: after)[i]? = some before[i] := by
      rw [List.getElem?_append_left hi, List.getElem?_eq_getElem hi]
    exact ⟨i, hi, before[i], e, hget, he, hde⟩
  · -- an earlier clash would be one among the declarations before
    by_contra hlt
    obtain ⟨i, hik, d, d', hd, hd', hdd'⟩ := hk
    rw [List.getElem?_append_left (by omega)] at hd hd'
    exact not_clashesEarlier_iff.2 (redeclared?_eq_none_iff.1 hnone).2 k
      ⟨i, hik, d, d', hd, hd', hdd'⟩

/-- **The name found** is that of the first declaration that clashes with one before it. -/
theorem redeclared?_eq_some_iff {ds : List Declaration} {name : String} :
    redeclared? {} ds = some name ↔
      ∃ j e, IsLeast {k | ClashesEarlier ds k} j ∧ ds[j]? = some e ∧ e.name = name := by
  constructor
  · exact isLeast_of_redeclared?
  · rintro ⟨j, e, hj, he, rfl⟩
    obtain ⟨name, hname⟩ := Option.isSome_iff_exists.1 (isSome_redeclared?_iff.2 ⟨j, hj.1⟩)
    obtain ⟨k, e', hk, he', rfl⟩ := isLeast_of_redeclared? hname
    rw [hk.unique hj, he] at he'
    rw [hname, Option.some.inj he']

/-- Whether a name is found does not depend on the order of the declarations. -/
theorem isSome_redeclared?_perm {ds es : List Declaration} (h : ds.Perm es) :
    (redeclared? {} ds).isSome = (redeclared? {} es).isSome := by
  have hpairwise := h.pairwise_iff (R := fun d e : Declaration => ¬ d.Clashes e)
    fun hde hed => hde hed.symm
  rw [Bool.eq_iff_iff, isSome_redeclared?_iff, isSome_redeclared?_iff, ← not_iff_not, not_exists,
    not_exists, not_clashesEarlier_iff, not_clashesEarlier_iff, hpairwise]

/-! ## Blocks -/

/-- Blocks whose statements declare the same, in whatever order, have a name found or not alike. -/
theorem isSome_redeclaredName?_perm {source source' : String} {block block' : Tree}
    (h : (block.namedChildren.map (statementDeclarations source)).Perm
      (block'.namedChildren.map (statementDeclarations source'))) :
    (redeclaredName? source' block').isSome = (redeclaredName? source block).isSome := by
  have hds := h.flatten
  rw [← List.flatMap_def, ← List.flatMap_def] at hds
  rw [redeclaredName?_eq, redeclaredName?_eq]
  exact (isSome_redeclared?_perm hds).symm

/-- **What is found in a block.** A name is found if and only if two of its declarations clash, and it
is the name of the first one that clashes with one before it. Whether one is found is the same for
any two blocks with the same statements in another order, in one text or in two. -/
theorem block_redeclaration (source : String) (block : Tree) :
    let ds := declarations source block
    ((redeclaredName? source block).isSome ↔ ∃ j, ClashesEarlier ds j) ∧
      (∀ name, redeclaredName? source block = some name ↔
        ∃ j e, IsLeast {k | ClashesEarlier ds k} j ∧ ds[j]? = some e ∧ e.name = name) ∧
      (∀ block', block.children.Perm block'.children →
        (redeclaredName? source block').isSome = (redeclaredName? source block).isSome) ∧
      ∀ source' block',
        (block.namedChildren.map (statementDeclarations source)).Perm
          (block'.namedChildren.map (statementDeclarations source')) →
        (redeclaredName? source' block').isSome = (redeclaredName? source block).isSome := by
  intro ds
  have hfound : redeclaredName? source block = redeclared? {} ds := redeclaredName?_eq source block
  refine ⟨hfound ▸ isSome_redeclared?_iff, fun name => hfound ▸ redeclared?_eq_some_iff,
    fun block' h => ?_, fun source' block' h => isSome_redeclaredName?_perm h⟩
  have hnamed : block.namedChildren.Perm block'.namedChildren := h.filter _
  exact isSome_redeclaredName?_perm (hnamed.map _)

/-- The tree of a declaration of `n` names of one letter, with one character after each, which begins at
the offset `i` of the first line. -/
def shortDeclaration (kind keyword : String) (i n : Nat) : Tree :=
  let mark (k : Nat) : Mark := ⟨k, 0, k⟩
  let first := i + keyword.length + 1
  let declarator (k : Nat) : Tree :=
    .node { kind := "variable_declarator" } (mark k) (mark (k + 1))
      [.node { kind := "identifier", field := some "name" } (mark k) (mark (k + 1)) []]
  .node { kind } (mark i) (mark (first + 2 * n))
    (.node { kind := keyword, named := false } (mark i) (mark (i + keyword.length)) [] ::
      (List.range n).map fun j => declarator (first + 2 * j))

/-- The tree of a declaration from the offset `i` to the offset `k` of the first line, with a name of one
letter at the offset `j`. -/
def oneNameDeclaration (kind : String) (i j k : Nat) : Tree :=
  let mark (k : Nat) : Mark := ⟨k, 0, k⟩
  .node { kind } (mark i) (mark k)
    [.node { kind := "identifier", field := some "name" } (mark j) (mark (j + 1)) []]

/-- Another name is found if the generator function comes earlier. The name inside the pattern is not
seen. -/
theorem block_redeclaration_reordered :
    let source := "let a,[b]=d;class c{}var b;function c(){}function*a(){}"
    let mark (k : Nat) : Mark := ⟨k, 0, k⟩
    let pattern : Tree := .node { kind := "variable_declarator" } (mark 6) (mark 11)
      [.node { kind := "array_pattern", field := some "name" } (mark 6) (mark 9)
          [.node { kind := "identifier" } (mark 7) (mark 8) []],
        .node { kind := "identifier", field := some "value" } (mark 10) (mark 11) []]
    let lexical : Tree := .node { kind := "lexical_declaration" } (mark 0) (mark 12)
      [oneNameDeclaration "variable_declarator" 4 4 5, pattern]
    let others := [oneNameDeclaration "class_declaration" 12 18 21,
      shortDeclaration "variable_declaration" "var" 21 1,
      oneNameDeclaration "function_declaration" 27 36 41]
    let generator := oneNameDeclaration "generator_function_declaration" 41 50 55
    let block : Tree := .node { kind := "program" } (mark 0) (mark 55) (lexical :: others ++ [generator])
    let block' : Tree := .node { kind := "program" } (mark 0) (mark 55) (lexical :: generator :: others)
    declarations source block =
        [⟨"a", true⟩, ⟨"c", true⟩, ⟨"b", false⟩, ⟨"c", false⟩, ⟨"a", false⟩] ∧
      redeclaredName? source block = some "c" ∧ redeclaredName? source block' = some "a" ∧
      block.children.Perm block'.children ∧
      (redeclaredName? source block').isSome = (redeclaredName? source block).isSome := by
  intro source mark pattern lexical others generator block block'
  have hlast : (others ++ [generator]).Perm (generator :: others) := List.perm_append_singleton _ _
  have hperm : block.children.Perm block'.children := hlast.cons lexical
  exact ⟨by decide +kernel, by decide +kernel, by decide +kernel, hperm,
    (block_redeclaration source block).2.2.1 block' hperm⟩

/-! ## Modules -/

/-- A declaration at the top of a program. -/
structure TopDeclaration where
  declaration : Declaration
  /-- Whether it stands under an export. -/
  exported : Bool
deriving DecidableEq, Repr

/-- The declarations at the top of a program, both those that stand alone and those directly under an
export. -/
def topDeclarations (source : String) (root : Tree) : List TopDeclaration :=
  root.namedChildren.flatMap fun statement =>
    if statement.kind = "export_statement" then
      (declarations source statement).map (⟨·, true⟩)
    else (statementDeclarations source statement).map (⟨·, false⟩)

/-- The declarations of the program as a block are those that stand alone. -/
theorem declarations_eq_filter (source : String) (root : Tree) :
    declarations source root =
      ((topDeclarations source root).filter fun d => !d.exported).map (·.declaration) := by
  unfold declarations topDeclarations
  rw [List.filter_flatMap, List.map_flatMap]
  refine List.flatMap_congr fun statement _ => ?_
  split
  · rename_i hkind
    simp [statementDeclarations, hkind, List.filter_map, Function.comp_def]
  · simp [List.filter_map, Function.comp_def]

/-- No name of a program is found if and only if of any two declarations at the top that clash one is
exported. -/
theorem redeclaredName?_eq_none_iff {source : String} {root : Tree} :
    redeclaredName? source root = none ↔
      (topDeclarations source root).Pairwise fun d e =>
        d.declaration.Clashes e.declaration → d.exported = true ∨ e.exported = true := by
  rw [redeclaredName?_eq, redeclared?_eq_none_iff, declarations_eq_filter, List.pairwise_map,
    List.pairwise_filter]
  simp only [Declared.clashes_empty, implies_true, true_and]
  refine List.Pairwise.iff fun d e => ?_
  cases d.exported with
  | true => simp
  | false =>
    cases e.exported with
    | true => simp
    | false => simp

/-- **When a module is accepted.** Of any two declarations at its top that clash one is exported, and no
rule is broken but that of names declared twice at the top. -/
theorem readTree_module_iff (text : String) (startLine : Nat) {root : Tree}
    (hroot : root.kind = "program") :
    (∃ tree, readTree text ⟨.module, startLine⟩ root = .ok tree) ↔
      ((topDeclarations text root).Pairwise fun d e =>
        d.declaration.Clashes e.declaration → d.exported = true ∨ e.exported = true) ∧
      ∀ above t, (above, t) ∈ root.occurrences [] → ∀ v, Breaks .module text above t v →
        above = [] ∧ ∃ name, v = .redeclared name := by
  simp only [readTree_eq_ok_iff, exists_and_left, exists_eq, and_true]
  rw [firstViolation?_eq_none_iff, ← redeclaredName?_eq_none_iff]
  constructor
  · intro h
    refine ⟨?_, fun above t ho v hv => absurd hv (h above t ho v)⟩
    refine Option.eq_none_iff_forall_ne_some.2 fun name hname => ?_
    exact h [] root (Tree.mem_occurrences_self [] root) _ (.redeclared (.inl hroot) hname)
  · rintro ⟨hnone, hothers⟩ above t ho v hv
    obtain ⟨rfl, name, rfl⟩ := hothers above t ho v hv
    obtain rfl := Tree.eq_of_mem_occurrences_nil ho
    cases hv with
    | redeclared _ hname =>
      rw [hnone] at hname
      cases hname

/-- In an accepted module a name is declared twice, of which one declaration is exported. -/
theorem readTree_module_iff_exported :
    let source := "let a;export let a;"
    let mark (k : Nat) : Mark := ⟨k, 0, k⟩
    let declaration := shortDeclaration "lexical_declaration" "let"
    let root : Tree := .node { kind := "program" } (mark 0) (mark 19)
      [declaration 0 1,
        .node { kind := "export_statement" } (mark 6) (mark 19)
          [.node { kind := "export", named := false } (mark 6) (mark 12) [], declaration 13 1]]
    root.kind = "program" ∧
      topDeclarations source root = [⟨⟨"a", true⟩, false⟩, ⟨⟨"a", true⟩, true⟩] ∧
      (∃ tree, readTree source ⟨.module, 1⟩ root = .ok tree) ∧
      (topDeclarations source root).Pairwise fun d e =>
        d.declaration.Clashes e.declaration → d.exported = true ∨ e.exported = true := by
  intro source mark declaration root
  have haccepted : ∃ tree, readTree source ⟨.module, 1⟩ root = .ok tree :=
    ⟨_, readTree_eq_ok_iff.2 ⟨by decide +kernel, rfl⟩⟩
  exact ⟨rfl, by decide +kernel, haccepted, ((readTree_module_iff source 1 rfl).1 haccepted).1⟩

/-- The parser accepts a module that declares a lexical name twice. -/
theorem parse_accepts_exported_again :
    let source := "let a;export let a"
    (parse source ⟨.module, 1⟩).isOk ∧
      (syntaxTree source.toList).kind = "program" ∧
      topDeclarations source (syntaxTree source.toList) =
        [⟨⟨"a", true⟩, false⟩, ⟨⟨"a", true⟩, true⟩] ∧
      Declaration.Clashes ⟨"a", true⟩ ⟨"a", true⟩ := by
  decide +kernel

end EmbeddedScripts.Script
