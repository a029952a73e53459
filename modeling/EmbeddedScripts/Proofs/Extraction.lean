import EmbeddedScripts.Extractor
import EmbeddedScripts.Proofs.Blocks
import EmbeddedScripts.Proofs.Regions

/-!
# Extracted regions and the merged document

An extractor gives the regions that parse, or one document with the trees of all regions. The two
agree.

* `keepParseable_eq_filter`: outcomes stay with their regions, so that the regions kept are those
  whose own outcome has a tree.
* `getElem?_noteAll`: workers may get done with regions in any order as long as each notes the outcome
  in the slot of its region, so such workers are a pool (`Pool.noting`).
* `extract_agrees_parseDocument`: the document is made of the trees of the extracted regions, with a
  block of nodes for each, and neither depends on the pool.
-/

namespace EmbeddedScripts

/-! ## Regions that parse -/

section Keeping

variable (parser : ScriptParser) (config : Config) (regions : List Region) (pool : Pool)

/-- **The regions kept** are those with a tree, as they are and in order. -/
theorem keepParseable_eq_filter :
    keepParseable parser config regions pool =
      regions.filter fun r => (parseRegion parser config.sourceMode r).isPresent := by
  rw [keepParseable, parseRegions_eq, ← List.map_prod_left_eq_zip, List.filterMap_map,
    ← List.filterMap_eq_filter]
  refine List.filterMap_congr fun r _ => ?_
  simp only [Function.comp_apply, Option.guard]

/-- The outcomes of the regions kept are the outcomes with a tree. -/
theorem parseRegions_keepParseable :
    parseRegions parser config (keepParseable parser config regions pool) pool =
      (parseRegions parser config regions pool).filter Outcome.isPresent := by
  rw [keepParseable_eq_filter, parseRegions_eq, parseRegions_eq, List.filter_map]
  rfl

theorem keepParseable_idem :
    keepParseable parser config (keepParseable parser config regions pool) pool =
      keepParseable parser config regions pool := by
  simp only [keepParseable_eq_filter, List.filter_filter, Bool.and_self]

end Keeping

theorem filter_isPresent_eq_map (outcomes : List Outcome) :
    outcomes.filter Outcome.isPresent = (outcomes.filterMap Outcome.tree?).map .present := by
  induction outcomes with
  | nil => rfl
  | cons o outcomes ih =>
    cases o with
    | present t =>
      have ht : Outcome.tree? (.present t) = some t := rfl
      rw [List.filter_cons_of_pos rfl, List.filterMap_cons_some ht, List.map_cons, ih]
    | absent reason =>
      have ht : Outcome.tree? (.absent reason) = none := rfl
      rw [List.filter_cons_of_neg (by simp [Outcome.isPresent]), List.filterMap_cons_none ht, ih]

/-! ## The order of parsing -/

section Order

variable {outcome : Region → Outcome} {regions : List Region}

/-- Notes the outcome of the region with the index `i` in its slot. -/
def noteOutcome (outcome : Region → Outcome) (regions : List Region) (slots : List (Option Outcome))
    (i : Nat) : List (Option Outcome) :=
  slots.set i (regions[i]?.map outcome)

/-- The slots of the regions, each of which is filled when its region is done. `order` lists the
regions as they get done. -/
def noteAll (outcome : Region → Outcome) (regions : List Region) (order : List Nat) :
    List (Option Outcome) :=
  order.foldl (noteOutcome outcome regions) (List.replicate regions.length none)

theorem length_noteOutcome (slots : List (Option Outcome)) (i : Nat) :
    (noteOutcome outcome regions slots i).length = slots.length := List.length_set

theorem getElem?_noteOutcome {slots : List (Option Outcome)}
    (hlength : slots.length = regions.length) (i j : Nat) :
    (noteOutcome outcome regions slots i)[j]? =
      if j = i then regions[j]?.map (some ∘ outcome) else slots[j]? := by
  unfold noteOutcome
  by_cases hij : j = i
  · subst hij
    rw [if_pos rfl, List.getElem?_set_self']
    by_cases hj : j < regions.length
    · simp [hj, hlength]
    · simp [hj, hlength]
  · rw [if_neg hij, List.getElem?_set_ne (Ne.symm hij)]

/-- **A slot is filled once its region is done**, and not touched by others. -/
theorem getElem?_foldl_noteOutcome (order : List Nat) {slots : List (Option Outcome)}
    (hlength : slots.length = regions.length) (j : Nat) :
    (order.foldl (noteOutcome outcome regions) slots)[j]? =
      if j ∈ order then regions[j]?.map (some ∘ outcome) else slots[j]? := by
  induction order generalizing slots with
  | nil => simp
  | cons i order ih =>
    rw [List.foldl_cons, ih ((length_noteOutcome slots i).trans hlength),
      getElem?_noteOutcome hlength]
    by_cases hj : j ∈ order
    · simp [hj]
    · simp [hj]

/-- **Regions may get done in any order.** -/
theorem noteAll_eq {order : List Nat} (h : order.Perm (List.range regions.length)) :
    noteAll outcome regions order = (regions.map outcome).map some := by
  refine List.ext_getElem? fun j => ?_
  rw [noteAll, getElem?_foldl_noteOutcome order List.length_replicate, List.map_map,
    List.getElem?_map]
  split
  · rfl
  · rename_i hj
    rw [h.mem_iff, List.mem_range] at hj
    simp [hj]

/-- The pool of workers who note the outcomes of `n` regions in the order `order n`. -/
def Pool.noting (order : Nat → List Nat) (h : ∀ n, (order n).Perm (List.range n)) : Pool where
  map outcome regions := (noteAll outcome regions (order regions.length)).filterMap id
  getElem?_map outcome regions i := by
    rw [noteAll_eq (h _), List.filterMap_map, Function.id_comp, List.filterMap_some,
      List.getElem?_map]

end Order

/-! ## Two ways to extract -/

/-- Only the accepted types matter to the scan. -/
theorem scan_congr {config config' : Config} (h : config.scriptTypes = config'.scriptTypes)
    (reader : Markup.TagReader) (document : String) :
    scan config reader document = scan config' reader document := by
  have htypes : config.acceptsType = config'.acceptsType := by
    funext declared
    simp only [Config.acceptsType, h]
  simp only [scan_eq, isScriptElement, htypes]

/-- The regions that an extractor gives of a document and the one tree it gives of it agree. -/
structure Extractor.Agrees (x : Extractor) (document : String) (pool : Pool) : Prop where
  /-- The regions extracted are those of the scan that parse, unchanged and in order. -/
  extract_eq : x.extract document pool =
    (x.scan document).filter fun r => (parseRegion x.parser x.config.sourceMode r).isPresent
  /-- To keep the regions that parse once more changes nothing. -/
  keep_keep : ∀ regions,
    keepParseable x.parser x.config (keepParseable x.parser x.config regions pool) pool =
      keepParseable x.parser x.config regions pool
  /-- The document is what merging the outcomes of the extracted regions gives. -/
  parseDocument_eq : x.parseDocument document pool =
    merge document (parseRegions x.parser x.config (x.extract document pool) pool)
  /-- Each extracted region has a tree, and the document has a block of nodes for each of them. -/
  blocks : ∃ trees,
    parseRegions x.parser x.config (x.extract document pool) pool = trees.map .present ∧
      (x.parseDocument document pool).InBlocks trees
  /-- Whether regions are parsed side by side makes no difference, nor which pool does it. -/
  parallel : ∀ parallel (other : Pool), let y := { x with config := { x.config with parallel } }
    y.outcomes document other = x.outcomes document pool ∧
      y.extract document other = x.extract document pool ∧
      y.parseDocument document other = x.parseDocument document pool
  /-- The workers of a pool may note the outcomes in any order. -/
  any_order : ∀ order horder, let y := { x with config := { x.config with parallel := true } }
    y.outcomes document (.noting order horder) = x.outcomes document pool

/-- **The extracted regions and the document agree**: the document is made of the trees of exactly
these regions, whichever pool parses them. -/
theorem extract_agrees_parseDocument (x : Extractor) (document : String) (pool : Pool) :
    x.Agrees document pool := by
  have hkept : parseRegions x.parser x.config (x.extract document pool) pool =
      (x.outcomes document pool).filter Outcome.isPresent :=
    parseRegions_keepParseable x.parser x.config (x.scan document) pool
  have hparallel : ∀ parallel (other : Pool),
      let y := { x with config := { x.config with parallel } }
      y.outcomes document other = x.outcomes document pool ∧
        y.extract document other = x.extract document pool ∧
        y.parseDocument document other = x.parseDocument document pool := by
    intro parallel other y
    have htypes : y.config.scriptTypes = x.config.scriptTypes := rfl
    have hscan : y.scan document = x.scan document := scan_congr htypes _ _
    rw [Extractor.outcomes_eq, Extractor.outcomes_eq, Extractor.parseDocument_eq,
      Extractor.parseDocument_eq, Extractor.extract, Extractor.extract, keepParseable_eq_filter,
      keepParseable_eq_filter, hscan]
    exact ⟨rfl, rfl, rfl⟩
  refine ⟨keepParseable_eq_filter _ _ _ _, fun _ => keepParseable_idem _ _ _ _, ?_, ?_, hparallel,
    fun order horder => (hparallel true (.noting order horder)).1⟩
  · rw [hkept, Extractor.parseDocument, merge, merge, filterMap_tree?_filter]
  · refine ⟨(x.outcomes document pool).filterMap Outcome.tree?, ?_, merge_inBlocks document _⟩
    rw [hkept, filter_isPresent_eq_map]

end EmbeddedScripts
