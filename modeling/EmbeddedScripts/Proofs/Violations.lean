import EmbeddedScripts.Proofs.Occurrences
import EmbeddedScripts.Script.Parse

/-!
# Which trees are accepted

`Breaks mode source above t v`: the node `t`, which has the nodes `above` above it, breaks the rule
`v`. The rules speak of the nodes above: of the nearest function (`nearestFunction?`) and of what is
inside of it (`insideFunction`).

* `contextOf_eq`: the context that is carried down to a node says what those rules ask.
* `firstViolation?_eq`: the search over pending trees visits the nodes in pre-order, each in the
  context of the nodes above it.
* `readTree_accepts_iff`: a tree is accepted if and only if no node breaks a rule, and otherwise
  rejected for the first one that does.
-/

namespace EmbeddedScripts.Script

/-- The nearest function above a node. -/
def nearestFunction? (above : List Tree) : Option Tree := above.find? opensFunction

/-- The nodes above a node that are below its nearest function. -/
def insideFunction (above : List Tree) : List Tree := above.takeWhile fun t => !opensFunction t

/-- The rules, and the nodes that break them. -/
inductive Breaks (mode : SourceMode) (source : String) (above : List Tree) (t : Tree) :
    Violation → Prop
  | unexpected : t.label.flaw = some .unexpected → Breaks mode source above t .unexpected
  | missing : t.label.flaw = some .missing → Breaks mode source above t (.missing t.kind)
  | markupElement : "jsx_".isPrefixOf t.kind → Breaks mode source above t .markupElement
  | moduleDeclaration : mode = .script → t.kind ∈ moduleKinds →
      Breaks mode source above t .moduleDeclaration
  | strayReturn : t.kind = "return_statement" → nearestFunction? above = none →
      Breaks mode source above t .strayReturn
  | undefinedLabel : t.kind = "break_statement" → t.hasChild "statement_identifier" →
      (∀ a ∈ insideFunction above, a.kind ≠ "labeled_statement") →
      Breaks mode source above t .undefinedLabel
  | strayBreak : t.kind = "break_statement" → ¬ t.hasChild "statement_identifier" →
      (∀ a ∈ insideFunction above, a.kind ∉ loopKinds ∧ a.kind ≠ "switch_statement") →
      Breaks mode source above t .strayBreak
  | strayContinue : t.kind = "continue_statement" →
      (∀ a ∈ insideFunction above, a.kind ∉ loopKinds) → Breaks mode source above t .strayContinue
  | strayYield : t.kind = "yield_expression" →
      (∀ f, nearestFunction? above = some f → ¬ isGenerator f) →
      Breaks mode source above t .strayYield
  | strayAwait : t.kind = "await_expression" →
      (∀ f, nearestFunction? above = some f → ¬ f.hasChild "async") →
      (nearestFunction? above = none → mode = .script) → Breaks mode source above t .strayAwait
  | invalidBigInt : t.kind = "number" → ¬ isValidNumber (t.text source).toList →
      Breaks mode source above t .invalidBigInt
  | redeclared {name : String} : t.kind = "program" ∨ t.kind = "statement_block" →
      redeclaredName? source t = some name → Breaks mode source above t (.redeclared name)

/-! ## Contexts -/

/-- The context of a node with the given nodes above it. -/
def contextOf (mode : SourceMode) (above : List Tree) : Context :=
  above.foldr (fun t c => c.enter t) (.top mode)

theorem nearestFunction?_cons_pos {t : Tree} (h : opensFunction t = true) (above : List Tree) :
    nearestFunction? (t :: above) = some t ∧ insideFunction (t :: above) = [] := by
  simp [nearestFunction?, insideFunction, h]

theorem nearestFunction?_cons_neg {t : Tree} (h : opensFunction t = false) (above : List Tree) :
    nearestFunction? (t :: above) = nearestFunction? above ∧
      insideFunction (t :: above) = t :: insideFunction above := by
  simp [nearestFunction?, insideFunction, h]

/-- **The context of a node** says what the nearest function above it is, and what is around the node
inside of that. -/
theorem contextOf_eq (mode : SourceMode) (above : List Tree) :
    contextOf mode above =
      { function := (nearestFunction? above).isSome
        generator := (nearestFunction? above).any isGenerator
        async := (nearestFunction? above).elim (mode == .module) (·.hasChild "async")
        loop := (insideFunction above).any fun a => loopKinds.contains a.kind
        breakable := (insideFunction above).any fun a =>
          loopKinds.contains a.kind || a.kind == "switch_statement"
        labeled := (insideFunction above).any fun a => a.kind == "labeled_statement" } := by
  induction above with
  | nil => rfl
  | cons t above ih =>
    have hstep : contextOf mode (t :: above) = (contextOf mode above).enter t := rfl
    rw [hstep, ih, Context.enter]
    by_cases hf : opensFunction t = true
    · obtain ⟨hn, hi⟩ := nearestFunction?_cons_pos hf above
      rw [if_pos hf, hn, hi]
      rfl
    · obtain ⟨hn, hi⟩ := nearestFunction?_cons_neg (by simpa using hf) above
      rw [if_neg hf, hn, hi]
      by_cases hl : t.kind ∈ loopKinds
      · have hk : t.kind ≠ "labeled_statement" := by
          intro hk
          rw [hk] at hl
          exact absurd hl (by decide)
        simp [hl, hk]
      · by_cases hs : t.kind = "switch_statement"
        · simp [hs, loopKinds]
        · by_cases hb : t.kind = "labeled_statement"
          · simp [hb, loopKinds]
          · simp [hl, hs, hb]

/-! ## One node -/

theorem eq_some_of_require {holds : Bool} {v w : Violation}
    (h : (if holds then none else some v) = some w) : holds = false ∧ v = w := by
  cases holds
  · exact ⟨rfl, by simpa using h⟩
  · simp at h

theorem breaks_of_violation? {mode : SourceMode} {source : String} {above : List Tree} {t : Tree}
    {v : Violation} (h : violation? mode source (contextOf mode above) t = some v) :
    Breaks mode source above t v := by
  rw [contextOf_eq, violation?] at h
  simp only at h
  split at h
  · cases h
    exact .unexpected ‹_›
  · cases h
    exact .missing ‹_›
  split at h
  · cases h
    exact .markupElement ‹_›
  split at h
  · rename_i hm
    cases h
    simp only [Bool.and_eq_true, beq_iff_eq, List.contains_iff_mem] at hm
    exact .moduleDeclaration hm.1 hm.2
  -- one case for each kind that has a rule of its own
  split at h
  · rename_i hk
    obtain ⟨hr, rfl⟩ := eq_some_of_require h
    exact .strayReturn hk (by simpa using hr)
  · rename_i hk
    split at h
    · rename_i hc
      obtain ⟨hr, rfl⟩ := eq_some_of_require h
      exact .undefinedLabel hk hc (by simpa using hr)
    · rename_i hc
      obtain ⟨hr, rfl⟩ := eq_some_of_require h
      exact .strayBreak hk hc (by simpa using hr)
  · rename_i hk
    obtain ⟨hr, rfl⟩ := eq_some_of_require h
    exact .strayContinue hk (by simpa using hr)
  · rename_i hk
    obtain ⟨hr, rfl⟩ := eq_some_of_require h
    refine .strayYield hk fun f hf => ?_
    rw [hf] at hr
    simpa using hr
  · rename_i hk
    obtain ⟨hr, rfl⟩ := eq_some_of_require h
    refine .strayAwait hk (fun f hf => ?_) fun hn => ?_
    · rw [hf] at hr
      simpa using hr
    · rw [hn] at hr
      cases mode with
      | script => rfl
      | module => exact absurd hr (by decide)
  · rename_i hk
    obtain ⟨hr, rfl⟩ := eq_some_of_require h
    exact .invalidBigInt hk (by simpa using hr)
  · rename_i hk
    obtain ⟨name, hn, rfl⟩ := Option.map_eq_some_iff.1 h
    exact .redeclared (.inl hk) hn
  · rename_i hk
    obtain ⟨name, hn, rfl⟩ := Option.map_eq_some_iff.1 h
    exact .redeclared (.inr hk) hn
  · cases h

theorem violation?_isSome_of_breaks {mode : SourceMode} {source : String} {above : List Tree}
    {t : Tree} {v : Violation} (h : Breaks mode source above t v) :
    (violation? mode source (contextOf mode above) t).isSome := by
  rw [contextOf_eq, violation?]
  simp only
  -- a node that breaks an earlier rule, too, is rejected for that one
  split
  · rfl
  · rfl
  rename_i hflaw
  split
  · rfl
  rename_i hjsx
  split
  · rfl
  rename_i hmodule
  cases h with
  | unexpected hf => simp [hf] at hflaw
  | missing hf => simp [hf] at hflaw
  | markupElement hj => exact absurd hj hjsx
  | moduleDeclaration hs hk => simp [hs, hk] at hmodule
  | strayReturn hk hf => simp [hk, hf]
  | undefinedLabel hk hc ha => simpa [hk, hc] using ha
  | strayBreak hk hc ha => simpa [hk, hc] using ha
  | strayContinue hk ha => simpa [hk] using ha
  | strayYield hk hg =>
    cases hf : nearestFunction? above with
    | none => simp [hk]
    | some f => simp [hk, hg f hf]
  | strayAwait hk ha hs =>
    cases hf : nearestFunction? above with
    | none => simp [hk, hs hf]
    | some f => simp [hk, ha f hf]
  | invalidBigInt hk hn => simp [hk, hn]
  | redeclared hk hn =>
    rcases hk with hk | hk
    · simp [hk, hn]
    · simp [hk, hn]

theorem violation?_eq_none_iff {mode : SourceMode} {source : String} {above : List Tree}
    {t : Tree} :
    violation? mode source (contextOf mode above) t = none ↔
      ∀ v, ¬ Breaks mode source above t v := by
  constructor
  · intro h v hv
    have := violation?_isSome_of_breaks hv
    simp [h] at this
  · intro h
    refine Option.eq_none_iff_forall_ne_some.2 fun v hv => ?_
    exact h v (breaks_of_violation? hv)

/-! ## All nodes -/

/-- **The search for a violation** goes through the nodes in pre-order, each in its context. -/
theorem firstViolation?_eq (mode : SourceMode) (source : String)
    (pending : List (Tree × List Tree)) :
    firstViolation? mode source (pending.map fun p => (p.1, contextOf mode p.2)) =
      (pending.flatMap fun p => p.1.occurrences p.2).findSome? fun o =>
        (violation? mode source (contextOf mode o.1) o.2).map (o.2, ·) := by
  match pending with
  | [] =>
    rw [List.map_nil, firstViolation?]
    rfl
  | (t, above) :: rest =>
    rw [List.map_cons, firstViolation?, List.flatMap_cons, Tree.occurrences_eq, List.cons_append,
      List.findSome?_cons]
    split
    · rename_i v hv
      simp only [hv, Option.map_some]
    · rename_i hv
      simp only [hv, Option.map_none]
      have ih := firstViolation?_eq mode source (t.children.map (·, t :: above) ++ rest)
      rw [List.map_append, List.map_map, List.flatMap_append, List.flatMap_map] at ih
      exact ih
termination_by Tree.sizeAll (pending.map (·.1))
decreasing_by
  simp [Tree.sizeAll, Tree.size_eq t, Function.comp_def]

theorem firstViolation?_root (mode : SourceMode) (source : String) (root : Tree) :
    firstViolation? mode source [(root, .top mode)] =
      (root.occurrences []).findSome? fun o =>
        (violation? mode source (contextOf mode o.1) o.2).map (o.2, ·) := by
  have h := firstViolation?_eq mode source [(root, [])]
  rwa [List.flatMap_singleton] at h

theorem firstViolation?_eq_none_iff {mode : SourceMode} {source : String} {root : Tree} :
    firstViolation? mode source [(root, .top mode)] = none ↔
      ∀ above t, (above, t) ∈ root.occurrences [] → ∀ v, ¬ Breaks mode source above t v := by
  simp only [firstViolation?_root, List.findSome?_eq_none_iff, Option.map_eq_none_iff,
    violation?_eq_none_iff, Prod.forall]

theorem firstViolation?_eq_some {mode : SourceMode} {source : String} {root t : Tree}
    {v : Violation} (h : firstViolation? mode source [(root, .top mode)] = some (t, v)) :
    ∃ before above after, root.occurrences [] = before ++ (above, t) :: after ∧
      (∀ o ∈ before, ∀ w, ¬ Breaks mode source o.1 o.2 w) ∧ Breaks mode source above t v := by
  rw [firstViolation?_root, List.findSome?_eq_some_iff] at h
  obtain ⟨before, ⟨above, u⟩, after, ho, hu, hb⟩ := h
  obtain ⟨w, hw, he⟩ := Option.map_eq_some_iff.1 hu
  simp only [Prod.mk.injEq] at he
  obtain ⟨rfl, rfl⟩ := he
  refine ⟨before, above, after, ho, fun o hm => ?_, breaks_of_violation? hw⟩
  exact violation?_eq_none_iff.1 (Option.map_eq_none_iff.1 (hb o hm))

/-- **A tree is accepted if and only if none of its nodes breaks a rule.** Otherwise it is rejected
for the first node, in pre-order, that breaks one, at the place where that node starts. -/
theorem readTree_accepts_iff (text : String) (options : ParseOptions) (root : Tree) :
    ((∃ tree, readTree text options root = .ok tree) ↔
      ∀ above t, (above, t) ∈ root.occurrences [] → ∀ v, ¬ Breaks options.mode text above t v) ∧
    ∀ e, readTree text options root = .error e →
      ∃ before above t after v, root.occurrences [] = before ++ (above, t) :: after ∧
        (∀ o ∈ before, ∀ w, ¬ Breaks options.mode text o.1 o.2 w) ∧
        Breaks options.mode text above t v ∧
        e = .rejected v
          ((ColumnIndex.ofList text.toList).lineColumn t.start options.startLine) := by
  rw [← firstViolation?_eq_none_iff]
  unfold readTree
  cases hf : firstViolation? options.mode text [(root, .top options.mode)] with
  | none =>
    refine ⟨⟨fun _ => rfl, fun _ => ⟨_, rfl⟩⟩, fun e he => ?_⟩
    cases he
  | some p =>
    obtain ⟨t, v⟩ := p
    refine ⟨⟨fun ⟨tree, ht⟩ => ?_, fun h => ?_⟩, fun e he => ?_⟩
    · cases ht
    · cases h
    · cases he
      obtain ⟨before, above, after, ho, hb, hv⟩ := firstViolation?_eq_some hf
      exact ⟨before, above, t, after, v, ho, hb, hv, rfl⟩

/-- Nodes of the given kinds, each the only child of the one before it, below a program. -/
def nested (kinds : List String) : Tree :=
  .node { kind := "program" } .zero .zero
    (kinds.foldr (fun kind ts => [.node { kind } .zero .zero ts]) [])

/-- What has to be above a node of each kind that may not stand just anywhere. -/
example :
    let accepts (mode : SourceMode) (kinds : List String) := (readTree "" ⟨mode, 1⟩ (nested kinds)).isOk
    (["function_declaration", "function_expression", "function", "generator_function_declaration",
        "generator_function", "arrow_function", "method_definition"].all fun function =>
      accepts .script [function, "while_statement", "return_statement"] &&
        !accepts .script ["while_statement", function, "break_statement"]) ∧
      (["for_statement", "for_in_statement", "while_statement", "do_statement"].all fun loop =>
        accepts .script [loop, "break_statement"] && accepts .script [loop, "continue_statement"]) ∧
      (["generator_function_declaration", "generator_function"].all fun function =>
        accepts .script [function, "yield_expression"]) ∧
      accepts .script ["switch_statement", "break_statement"] ∧
      (["import_statement", "export_statement", "await_expression"].all fun kind =>
        accepts .module [kind] && !accepts .script [kind]) := by
  decide +kernel

/-- A label around them allows none of these. The first node at fault counts, not the stray `return`
below it. -/
example :
    (["return_statement", "break_statement", "continue_statement", "yield_expression",
        "await_expression", "jsx_element"].map fun kind =>
      readTree "" {} (nested ["labeled_statement", kind, "return_statement"])) =
      [.strayReturn, .strayBreak, .strayContinue, .strayYield, .strayAwait, .markupElement].map
        fun v => .error (.rejected v ⟨1, 1⟩) := by
  decide +kernel

end EmbeddedScripts.Script
