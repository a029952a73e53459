import EmbeddedScripts.Tree

/-!
# Names declared twice

`redeclaredName?` goes through the statements of a block with the names that it has seen, and ends at
the first one that clashes with a name before it: a name may be declared again only if neither
declaration is lexical. `redeclaredName?_eq`: this is the search `redeclared?` in the list of all
`declarations` of the block.
-/

namespace EmbeddedScripts.Script

/-- The plain identifier that a declaration binds. -/
def boundName? (source : String) (t : Tree) : Option String :=
  match t.childByField? "name" with
  | some name => if name.kind == "identifier" then some (name.text source) else none
  | none => none

/-- The parts of a statement that declare one name each. -/
def declarators (statement : Tree) : List Tree :=
  statement.namedChildren.filter (·.kind == "variable_declarator")

/-! ## Going through a block -/

/-- The names declared so far in a block. -/
structure Declared where
  lexical : List String := []
  other : List String := []

namespace Declared

/-- Notes a name that a declarator binds, or gives it back if it clashes. -/
def noteDeclarator (source : String) (lexical : Bool) (seen : Declared) (t : Tree) :
    Except String Declared :=
  match boundName? source t with
  | none => .ok seen
  | some name =>
    if lexical then
      if seen.lexical.contains name || seen.other.contains name then .error name
      else .ok { seen with lexical := name :: seen.lexical }
    else if seen.lexical.contains name then .error name
    else .ok { seen with other := name :: seen.other }

/-- Notes the name of a class or a function, or gives it back if it clashes. -/
def noteNamed (source : String) (isClass : Bool) (seen : Declared) (statement : Tree) :
    Except String Declared :=
  match boundName? source statement with
  | none => .ok seen
  | some name =>
    if seen.lexical.contains name then .error name
    else if isClass then
      if seen.other.contains name then .error name
      else .ok { seen with lexical := name :: seen.lexical }
    else .ok { seen with other := name :: seen.other }

/-- Notes what a statement declares, up to the first name that clashes. -/
def noteStatement (source : String) (seen : Declared) (statement : Tree) : Except String Declared :=
  match statement.kind with
  | "lexical_declaration" => (declarators statement).foldlM (noteDeclarator source true) seen
  | "variable_declaration" => (declarators statement).foldlM (noteDeclarator source false) seen
  | "class_declaration" => noteNamed source true seen statement
  | "function_declaration" => noteNamed source false seen statement
  | "generator_function_declaration" => noteNamed source false seen statement
  | _ => .ok seen

end Declared

/-- The name declared twice in a block: the first that clashes with one before it. -/
def redeclaredName? (source : String) (block : Tree) : Option String :=
  match block.namedChildren.foldlM (Declared.noteStatement source) {} with
  | .error name => some name
  | .ok _ => none

/-! ## The declarations of a block -/

/-- A name declared by a statement of a block. -/
structure Declaration where
  name : String
  /-- Whether the name may be declared only once in its block. -/
  lexical : Bool
deriving DecidableEq, Repr, Inhabited

/-- The declarations of one statement. Names inside patterns are not seen. -/
def statementDeclarations (source : String) (statement : Tree) : List Declaration :=
  let each (lexical : Bool) :=
    (declarators statement).filterMap fun t => (boundName? source t).map (⟨·, lexical⟩)
  let single (lexical : Bool) := ((boundName? source statement).map (⟨·, lexical⟩)).toList
  match statement.kind with
  | "lexical_declaration" => each true
  | "variable_declaration" => each false
  | "class_declaration" => single true
  | "function_declaration" => single false
  | "generator_function_declaration" => single false
  | _ => []

/-- The declarations of the statements of a block, in the order of the text. -/
def declarations (source : String) (block : Tree) : List Declaration :=
  block.namedChildren.flatMap (statementDeclarations source)

namespace Declared

/-- Whether a declaration clashes with one before it. -/
def clashes (seen : Declared) (d : Declaration) : Bool :=
  seen.lexical.contains d.name || (d.lexical && seen.other.contains d.name)

/-- The names with one more declaration. -/
def add (seen : Declared) (d : Declaration) : Declared :=
  if d.lexical then { seen with lexical := d.name :: seen.lexical }
  else { seen with other := d.name :: seen.other }

/-- Notes a declaration, or gives back its name if it clashes. -/
def note (seen : Declared) (d : Declaration) : Except String Declared :=
  if seen.clashes d then .error d.name else .ok (seen.add d)

end Declared

/-- The name of the first declaration that clashes with one before it. -/
def redeclared? (seen : Declared) : List Declaration → Option String
  | [] => none
  | d :: ds => if seen.clashes d then some d.name else redeclared? (seen.add d) ds

/-! ## The statements and their declarations -/

namespace Declared

variable (source : String) (seen : Declared)

theorem noteDeclarator_eq (lexical : Bool) (t : Tree) :
    noteDeclarator source lexical seen t =
      ((boundName? source t).map (⟨·, lexical⟩)).toList.foldlM note seen := by
  unfold noteDeclarator
  cases boundName? source t with
  | none => rfl
  | some name => cases lexical <;> simp [note, clashes, add]

theorem noteNamed_eq (isClass : Bool) (statement : Tree) :
    noteNamed source isClass seen statement =
      ((boundName? source statement).map (⟨·, isClass⟩)).toList.foldlM note seen := by
  unfold noteNamed
  cases boundName? source statement with
  | none => rfl
  | some name =>
    cases isClass with
    | true => by_cases hlexical : name ∈ seen.lexical <;> simp [note, clashes, add, hlexical]
    | false => simp [note, clashes, add]

theorem foldlM_noteDeclarator (lexical : Bool) (ts : List Tree) :
    ts.foldlM (noteDeclarator source lexical) seen =
      (ts.filterMap fun t => (boundName? source t).map (⟨·, lexical⟩)).foldlM note seen := by
  induction ts generalizing seen with
  | nil => rfl
  | cons t ts ih =>
    simp only [List.foldlM_cons, noteDeclarator_eq, ih, List.filterMap_cons]
    cases boundName? source t with
    | none => rfl
    | some name => simp

/-- **A statement** is gone through as its declarations are noted one by one. -/
theorem noteStatement_eq (statement : Tree) :
    noteStatement source seen statement =
      (statementDeclarations source statement).foldlM note seen := by
  unfold noteStatement statementDeclarations
  split
  all_goals simp only [foldlM_noteDeclarator, noteNamed_eq, List.foldlM_nil]
  rfl

theorem foldlM_noteStatement (statements : List Tree) :
    statements.foldlM (noteStatement source) seen =
      (statements.flatMap (statementDeclarations source)).foldlM note seen := by
  induction statements generalizing seen with
  | nil => rfl
  | cons statement statements ih =>
    simp only [List.foldlM_cons, noteStatement_eq, ih, List.flatMap_cons, List.foldlM_append]

/-- The names noted of several declarations, or the name that the search finds. -/
theorem foldlM_note (ds : List Declaration) :
    ds.foldlM note seen =
      match redeclared? seen ds with
      | some name => .error name
      | none => .ok (ds.foldl add seen) := by
  induction ds generalizing seen with
  | nil => rfl
  | cons d ds ih =>
    rw [List.foldlM_cons, note, redeclared?]
    split
    · rfl
    · exact ih (seen.add d)

end Declared

/-- **Going through a block** finds what the search finds in the list of its declarations. -/
theorem redeclaredName?_eq (source : String) (block : Tree) :
    redeclaredName? source block = redeclared? {} (declarations source block) := by
  rw [redeclaredName?, Declared.foldlM_noteStatement, Declared.foldlM_note, declarations]
  cases redeclared? {} (block.namedChildren.flatMap (statementDeclarations source)) <;> rfl

end EmbeddedScripts.Script
