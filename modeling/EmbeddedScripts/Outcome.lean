import EmbeddedScripts.Region
import EmbeddedScripts.Script.Parse

/-!
# Outcomes

The `Outcome` of a region is its parse tree, placed in the document, or the reason why there is none.
`parseRegions` gives the outcomes of several regions, one after the other or by a `Pool` of workers;
`parseRegions_eq`: in either case each region has its own outcome, in order.
-/

namespace EmbeddedScripts

/-- Why a region has no parse tree. -/
inductive AbsentReason where
  /-- The region has nothing but blanks. -/
  | empty
  /-- The parser does not accept the content. -/
  | invalid (error : ParseError)
deriving DecidableEq, Repr, Inhabited

/-- What became of a region. -/
inductive Outcome where
  | present (tree : ParseTree)
  | absent (reason : AbsentReason)
deriving DecidableEq, Repr, Inhabited

namespace Outcome

def isPresent : Outcome → Bool
  | present _ => true
  | absent _ => false

def tree? : Outcome → Option ParseTree
  | present t => some t
  | absent _ => none

end Outcome

/-- Parses a region and moves its tree to its place in the document. -/
def parseRegion (parser : ScriptParser) (mode : SourceMode) (r : Region) : Outcome :=
  if Text.isBlankText r.source then .absent .empty
  else
    match parser r.source ⟨mode, r.line⟩ with
    | .ok tree => .present (tree.relocate r.index r.column r.line)
    | .error e => .absent (.invalid e)

section ParseRegion

variable {parser : ScriptParser} {mode : SourceMode} {r : Region}

theorem parseRegion_eq_present_iff {tree : ParseTree} :
    parseRegion parser mode r = .present tree ↔
      Text.isBlankText r.source = false ∧ ∃ parsed, parser r.source ⟨mode, r.line⟩ = .ok parsed ∧
        parsed.relocate r.index r.column r.line = tree := by
  unfold parseRegion
  split
  · simp [*]
  · cases parser r.source ⟨mode, r.line⟩ with
    | ok parsed => simp [*]
    | error e => simp

theorem parseRegion_eq_invalid_iff {e : ParseError} :
    parseRegion parser mode r = .absent (.invalid e) ↔
      Text.isBlankText r.source = false ∧ parser r.source ⟨mode, r.line⟩ = .error e := by
  unfold parseRegion
  split
  · simp [*]
  · cases parser r.source ⟨mode, r.line⟩ with
    | ok parsed => simp
    | error e' => simp [*]

end ParseRegion

/-! ## Several regions -/

/-- Workers that find the outcomes of regions side by side. -/
structure Pool where
  map : (Region → Outcome) → List Region → List Outcome
  /-- Whichever region is done first, an outcome comes to the place of its region. -/
  getElem?_map : ∀ (outcome : Region → Outcome) (regions : List Region) (i : Nat),
    (map outcome regions)[i]? = regions[i]?.map outcome

namespace Pool

theorem map_eq (pool : Pool) (outcome : Region → Outcome) (regions : List Region) :
    pool.map outcome regions = regions.map outcome := by
  refine List.ext_getElem? fun i => ?_
  rw [pool.getElem?_map, List.getElem?_map]

/-- A single worker, who takes the regions in order. -/
def inOrder : Pool := ⟨List.map, fun _ _ _ => List.getElem?_map⟩

instance : Inhabited Pool := ⟨inOrder⟩

end Pool

/-- The outcomes of several regions. -/
def parseRegions (parser : ScriptParser) (config : Config) (regions : List Region)
    (pool : Pool := .inOrder) : List Outcome :=
  if config.parallel then pool.map (parseRegion parser config.sourceMode) regions
  else regions.map (parseRegion parser config.sourceMode)

/-- The outcomes come in the order of their regions, whether the regions are parsed side by side or
not. -/
theorem parseRegions_eq (parser : ScriptParser) (config : Config) (regions : List Region)
    (pool : Pool) :
    parseRegions parser config regions pool =
      regions.map (parseRegion parser config.sourceMode) := by
  rw [parseRegions, pool.map_eq, ite_self]

/-- The regions that have a parse tree. Each region is paired with the outcome at its place. -/
def keepParseable (parser : ScriptParser) (config : Config) (regions : List Region)
    (pool : Pool := .inOrder) : List Region :=
  (regions.zip (parseRegions parser config regions pool)).filterMap fun (r, o) =>
    if o.isPresent then some r else none

end EmbeddedScripts
