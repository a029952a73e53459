import EmbeddedScripts.Proofs.Extraction
import EmbeddedScripts.Proofs.Violations

/-!
# Scripts and modules

A module may hold whatever a classic script may, and two things more: an import or export, and an
`await` outside of all functions (`NeedsModule`).

* `Breaks.of_module`, `Breaks.module_or_needsModule`: the rules for classic scripts are those for
  modules, and that no node needs a module.
* `readTree_script_iff`: so a tree is read as a classic script if and only if it is read as a module,
  to the same parse tree, and no node needs a module.
* `module_accepts_script`: an extractor in module mode finds the same regions, and gives each region
  that has a tree in script mode the same tree.
-/

namespace EmbeddedScripts

namespace Script

/-- A node that is allowed in modules only. -/
def NeedsModule (above : List Tree) (t : Tree) : Prop :=
  t.kind ∈ moduleKinds ∨ t.kind = "await_expression" ∧ nearestFunction? above = none

section Rules

variable {source : String} {above : List Tree} {t : Tree}

/-- A rule for modules is a rule for classic scripts. -/
theorem Breaks.of_module {v : Violation} (h : Breaks .module source above t v) :
    Breaks .script source above t v := by
  cases h with
  | unexpected hf => exact .unexpected hf
  | missing hf => exact .missing hf
  | markupElement hj => exact .markupElement hj
  | moduleDeclaration hs _ => cases hs
  | strayReturn hk hf => exact .strayReturn hk hf
  | undefinedLabel hk hc ha => exact .undefinedLabel hk hc ha
  | strayBreak hk hc ha => exact .strayBreak hk hc ha
  | strayContinue hk ha => exact .strayContinue hk ha
  | strayYield hk hg => exact .strayYield hk hg
  | strayAwait hk ha _ => exact .strayAwait hk ha fun _ => rfl
  | invalidBigInt hk hn => exact .invalidBigInt hk hn
  | redeclared hk hn => exact .redeclared hk hn

/-- What breaks a rule for classic scripts breaks it in a module, too, or needs a module. -/
theorem Breaks.module_or_needsModule {v : Violation} (h : Breaks .script source above t v) :
    Breaks .module source above t v ∨ NeedsModule above t := by
  cases h with
  | unexpected hf => exact .inl (.unexpected hf)
  | missing hf => exact .inl (.missing hf)
  | markupElement hj => exact .inl (.markupElement hj)
  | moduleDeclaration _ hk => exact .inr (.inl hk)
  | strayReturn hk hf => exact .inl (.strayReturn hk hf)
  | undefinedLabel hk hc ha => exact .inl (.undefinedLabel hk hc ha)
  | strayBreak hk hc ha => exact .inl (.strayBreak hk hc ha)
  | strayContinue hk ha => exact .inl (.strayContinue hk ha)
  | strayYield hk hg => exact .inl (.strayYield hk hg)
  | strayAwait hk ha _ =>
    -- only outside of all functions does the mode say whether to wait is allowed
    by_cases hn : nearestFunction? above = none
    · exact .inr (.inr ⟨hk, hn⟩)
    · exact .inl (.strayAwait hk ha fun h => absurd h hn)
  | invalidBigInt hk hn => exact .inl (.invalidBigInt hk hn)
  | redeclared hk hn => exact .inl (.redeclared hk hn)

theorem NeedsModule.breaks (h : NeedsModule above t) :
    ∃ v, Breaks .script source above t v := by
  rcases h with hk | ⟨hk, hn⟩
  · exact ⟨_, .moduleDeclaration rfl hk⟩
  · exact ⟨_, .strayAwait hk (by simp [hn]) fun _ => rfl⟩

end Rules

theorem firstViolation?_script_iff {source : String} {root : Tree} :
    firstViolation? .script source [(root, .top .script)] = none ↔
      firstViolation? .module source [(root, .top .module)] = none ∧
        ∀ above t, (above, t) ∈ root.occurrences [] → ¬ NeedsModule above t := by
  rw [firstViolation?_eq_none_iff, firstViolation?_eq_none_iff]
  constructor
  · intro h
    refine ⟨fun above t ho v hv => h above t ho v hv.of_module, fun above t ho hn => ?_⟩
    obtain ⟨v, hv⟩ := hn.breaks
    exact h above t ho v hv
  · rintro ⟨hm, hn⟩ above t ho v hv
    rcases hv.module_or_needsModule with hv | hneeds
    · exact hm above t ho v hv
    · exact hn above t ho hneeds

/-- **A tree is read as a classic script** if and only if it is read as a module and no node needs a
module. The parse tree is the same. -/
theorem readTree_script_iff {text : String} {startLine : Nat} {root : Tree} {tree : ParseTree} :
    readTree text ⟨.script, startLine⟩ root = .ok tree ↔
      readTree text ⟨.module, startLine⟩ root = .ok tree ∧
        ∀ above t, (above, t) ∈ root.occurrences [] → ¬ NeedsModule above t := by
  have hiff := @firstViolation?_script_iff text root
  unfold readTree
  cases hs : firstViolation? .script text [(root, .top .script)] with
  | none =>
    obtain ⟨hm, hn⟩ := hiff.1 hs
    simp only [hm]
    exact ⟨fun h => ⟨h, hn⟩, fun h => h.1⟩
  | some p =>
    constructor
    · intro h
      cases h
    · rintro ⟨h, hn⟩
      cases hm : firstViolation? .module text [(root, .top .module)] with
      | none =>
        rw [hiff.2 ⟨hm, hn⟩] at hs
        cases hs
      | some q =>
        rw [hm] at h
        cases h

theorem parseRegion_module {grammar : List Char → Tree} {r : Region} {tree : ParseTree}
    (h : parseRegion (parserOf grammar) .script r = .present tree) :
    parseRegion (parserOf grammar) .module r = .present tree := by
  rw [parseRegion_eq_present_iff] at h ⊢
  obtain ⟨hblank, parsed, hp, hmoved⟩ := h
  exact ⟨hblank, parsed, (readTree_script_iff.1 hp).1, hmoved⟩

end Script

/-- The extractor in the given mode, with all else as it is. -/
def Extractor.inMode (x : Extractor) (mode : SourceMode) : Extractor :=
  { x with config := { x.config with sourceMode := mode } }

/-- **A module may hold whatever a classic script may.** A text is parsed as a classic script if and
only if it is parsed as a module and needs none, to the same tree. So an extractor finds the same
regions in both modes, in module mode it extracts all that it extracts in script mode, in order, and
each outcome with a tree stays as it is. -/
theorem module_accepts_script (grammar : List Char → Tree) :
    (∀ text startLine tree, Script.parserOf grammar text ⟨.script, startLine⟩ = .ok tree ↔
      Script.parserOf grammar text ⟨.module, startLine⟩ = .ok tree ∧
        ∀ above t, (above, t) ∈ (grammar text.toList).occurrences [] →
          ¬ Script.NeedsModule above t) ∧
    ∀ (config : Config) (reader : Markup.TagReader) (document : String) (pool : Pool),
      let x : Extractor := ⟨config, Script.parserOf grammar, reader⟩
      (x.inMode .script).scan document = (x.inMode .module).scan document ∧
        ((x.inMode .script).extract document pool).Sublist
          ((x.inMode .module).extract document pool) ∧
        ∀ (i : Nat) (tree : ParseTree),
          ((x.inMode .script).outcomes document pool)[i]? = some (.present tree) →
          ((x.inMode .module).outcomes document pool)[i]? = some (.present tree) := by
  refine ⟨fun text startLine tree => Script.readTree_script_iff,
    fun config reader document pool => ?_⟩
  intro x
  have htypes : (x.inMode .script).config.scriptTypes = (x.inMode .module).config.scriptTypes := rfl
  have hscan : (x.inMode .script).scan document = (x.inMode .module).scan document :=
    scan_congr htypes _ _
  refine ⟨hscan, ?_, ?_⟩
  · unfold Extractor.extract
    rw [hscan, keepParseable_eq_filter, keepParseable_eq_filter]
    refine List.monotone_filter_right _ fun r hr => ?_
    cases ho : parseRegion (Script.parserOf grammar) .script r with
    | absent reason =>
      simp [x, Extractor.inMode, ho, Outcome.isPresent] at hr
    | present tree =>
      have hm := Script.parseRegion_module ho
      simp [x, Extractor.inMode, hm, Outcome.isPresent]
  · intro i tree h
    simp only [Extractor.outcomes_eq, hscan, List.getElem?_map, Option.map_eq_some_iff] at h ⊢
    obtain ⟨r, hr, ho⟩ := h
    exact ⟨r, hr, Script.parseRegion_module ho⟩

/-- The tree of a text of one letter: an import for `i`, an asynchronous function with an `await` in it
for `w`, and a name for any other letter. -/
def Script.oneLetter (text : List Char) : Tree :=
  let mark (k : Nat) : Mark := Mark.zero.advanceAll (text.take k)
  let i := (text.takeWhile (· == ' ')).length
  let leaf (kind : String) : Tree := .node { kind } (mark i) (mark (i + 1)) []
  let inner (kind : String) (ts : List Tree) : Tree := .node { kind } (mark i) (mark (i + 1)) ts
  let statement :=
    match text.getLast? with
    | some 'i' => leaf "import_statement"
    | some 'w' => inner "arrow_function" [leaf "async", leaf "await_expression"]
    | _ => leaf "identifier"
  inner "program" [statement]

/-- Of three regions the one with an import is extracted in module mode only. -/
theorem module_accepts_script_oneLetter :
    let document := "<script>w</script><script>i</script><script>a</script>"
    let x : Extractor := ⟨{}, Script.parserOf Script.oneLetter, fun _ => none⟩
    ((x.inMode .script).extract document).map (·.content) = ["w", "a"] ∧
      ((x.inMode .module).extract document).map (·.content) = ["w", "i", "a"] ∧
      (x.inMode .script).scan document = (x.inMode .module).scan document ∧
      ((x.inMode .script).extract document).Sublist ((x.inMode .module).extract document) ∧
      ∀ (i : Nat) (tree : ParseTree),
        ((x.inMode .script).outcomes document)[i]? = some (.present tree) →
        ((x.inMode .module).outcomes document)[i]? = some (.present tree) := by
  intro document x
  refine ⟨by decide +kernel, by decide +kernel, ?_⟩
  exact (module_accepts_script Script.oneLetter).2 {} (fun _ => none) document .inOrder

end EmbeddedScripts
