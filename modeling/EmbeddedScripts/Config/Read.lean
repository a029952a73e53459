import EmbeddedScripts.Config.Load
import EmbeddedScripts.Json.Skip

/-!
# Reading a configuration

`Config.read` decodes a configuration: an object whose members `scriptTypes`, `sourceMode` and
`parallel` are each given once at most, other members being passed over; or a list of the values of
these members, in this order, which may end early. `Config.ofJson` and `Config.load` go by it.
-/

namespace EmbeddedScripts.Config

open Json (Failure Fault Found Reader fail failAt skipSpace)

/-! ## Values -/

/-- The failure to find the `expected` kind of value at the beginning of a text. -/
def misfit (expected : String) (text : List Char) : Failure :=
  let found : Except Failure (Found × List Char) :=
    match text with
    | [] => failAt .expectedValue []
    | c :: cs =>
      if c = 'n' then (Json.letters ['u', 'l', 'l'] cs).map (.null, ·)
      else if c = 't' then (Json.letters ['r', 'u', 'e'] cs).map (.boolean true, ·)
      else if c = 'f' then (Json.letters ['a', 'l', 's', 'e'] cs).map (.boolean false, ·)
      else if c = '-' then Json.number true cs
      else if c.isDigit then Json.number false (c :: cs)
      else if c = '"' then (Json.text cs).map fun (s, rest) => (.text (String.ofList s), rest)
      else if c = '[' then .ok (.list, c :: cs)
      else if c = '\x7b' then .ok (.map, c :: cs)
      else failAt .expectedValue (c :: cs)
  match found with
  | .ok (found, rest) => ⟨.wrongType found expected, rest, 0⟩
  | .error e => e

/-- Reads a string. -/
def readText (expected : String) : Reader String := fun text =>
  match skipSpace text with
  | [] => fail .endInValue []
  | c :: cs =>
    if c = '"' then (Json.text cs).map fun (s, rest) => (String.ofList s, rest)
    else .error (misfit expected (c :: cs))

theorem length_readText {expected s : String} {text rest : List Char}
    (h : readText expected text = .ok (s, rest)) : rest.length < text.length := by
  have hl := Json.length_skipSpace text
  simp only [readText] at h
  split at h
  · simp [fail] at h
  · next c cs hs =>
    simp only [hs, List.length_cons] at hl
    split at h
    · cases hx : Json.text cs with
      | error => simp [hx, Except.map] at h
      | ok found =>
        obtain ⟨read, r⟩ := found
        simp only [hx, Except.map, Except.ok.injEq, Prod.mk.injEq] at h
        obtain ⟨-, rfl⟩ := h
        have := Json.length_text hx
        omega
    · simp at h

/-- Goes on to the next item of a list; `none` at its end, which is not read. -/
def nextItem (first : Bool) (text : List Char) : Except Failure (Option (List Char)) :=
  match skipSpace text with
  | [] => fail .endInList []
  | c :: cs =>
    if c = ']' then .ok none
    else if first then .ok (some (c :: cs))
    else if c = ',' then
      match skipSpace cs with
      | [] => fail .endInValue []
      | d :: ds => if d = ']' then failAt .trailingComma (d :: ds) else .ok (some (d :: ds))
    else failAt .expectedListCommaOrEnd (c :: cs)

theorem length_nextItem {first : Bool} {text rest : List Char}
    (h : nextItem first text = .ok (some rest)) : rest.length ≤ text.length := by
  have hl := Json.length_skipSpace text
  simp only [nextItem] at h
  split at h
  · simp [fail] at h
  · next c cs hs =>
    have hl' := Json.length_skipSpace cs
    simp only [hs, List.length_cons] at hl
    repeat' split at h
    · simp at h
    · simp only [Except.ok.injEq, Option.some.injEq] at h
      subst h
      simpa using hl
    · simp [fail] at h
    · simp [failAt] at h
    · next hd _ =>
      simp only [Except.ok.injEq, Option.some.injEq] at h
      rw [hd] at hl'
      subst h
      omega
    · simp [failAt] at h

/-- Reads the end of a list. -/
def listEnd (text : List Char) : Except Failure (List Char) :=
  match skipSpace text with
  | [] => fail .endInList []
  | c :: cs =>
    if c = ']' then .ok cs
    else if c = ',' then
      match skipSpace cs with
      | d :: ds => failAt (if d = ']' then .trailingComma else .trailingCharacters) (d :: ds)
      | [] => fail .trailingCharacters []
    else failAt .trailingCharacters (c :: cs)

/-- Reads the items of a list of strings, and its end. -/
def readTexts (first : Bool) (text : List Char) : Except Failure (List String × List Char) :=
  match _h : nextItem first text with
  | .error e => .error e
  | .ok none => (listEnd text).map ([], ·)
  | .ok (some rest) =>
    match _hr : readText "a string" rest with
    | .error e => .error e
    | .ok (s, rest) => (readTexts false rest).map fun (ss, rest) => (s :: ss, rest)
termination_by text.length
decreasing_by
  have := length_nextItem _h
  have := length_readText _hr
  omega

/-- Reads a list of strings. -/
def readTypes : Reader (List String) := fun text =>
  match skipSpace text with
  | [] => fail .endInValue []
  | c :: cs => if c = '[' then readTexts true cs else .error (misfit "a sequence" (c :: cs))

/-- Reads a boolean. -/
def readBoolean : Reader Bool := fun text =>
  match skipSpace text with
  | [] => fail .endInValue []
  | c :: cs =>
    if c = 't' then (Json.letters ['r', 'u', 'e'] cs).map (true, ·)
    else if c = 'f' then (Json.letters ['a', 'l', 's', 'e'] cs).map (false, ·)
    else .error (misfit "a boolean" (c :: cs))

/-- The mode of a name. -/
def modeOf? : String → Option SourceMode
  | "script" => some .script
  | "module" => some .module
  | _ => none

/-- Reads the name of a mode. -/
def readModeName : Reader SourceMode := fun text => do
  let (name, rest) ← readText "variant identifier" text
  match modeOf? name with
  | some mode => return (mode, rest)
  | none => fail (.unknownVariant name "`script` or `module`") rest

/-- Reads a null. -/
def readNull (text : List Char) : Except Failure (List Char) :=
  match skipSpace text with
  | [] => fail .endInValue []
  | c :: cs =>
    if c = 'n' then Json.letters ['u', 'l', 'l'] cs else .error (misfit "unit" (c :: cs))

/-- Reads a mode: its name, or an object with a null under its name. -/
def readMode : Reader SourceMode := fun text =>
  match skipSpace text with
  | [] => fail .endInValue []
  | c :: cs =>
    if c = '\x7b' then do
      let (mode, rest) ← readModeName cs
      let rest ← Json.skipColon rest
      let rest ← readNull rest
      match skipSpace rest with
      | [] => fail .endInObject []
      | d :: ds => if d = '\x7d' then return (mode, ds) else fail .expectedValue (d :: ds)
    else if c = '"' then readModeName (c :: cs)
    else failAt .expectedValue (c :: cs)

/-! ## What the readers leave -/

theorem length_listEnd {text rest : List Char} (h : listEnd text = .ok rest) :
    rest.length < text.length := by
  have hl := Json.length_skipSpace text
  simp only [listEnd] at h
  split at h
  · simp [fail] at h
  · next c cs hs =>
    simp only [hs, List.length_cons] at hl
    split at h
    · simp only [Except.ok.injEq] at h
      subst h
      omega
    · split at h
      · split at h <;> simp [fail, failAt] at h
      · simp [failAt] at h

theorem length_readTexts {first : Bool} {text rest : List Char} {ss : List String}
    (h : readTexts first text = .ok (ss, rest)) : rest.length < text.length := by
  fun_induction readTexts first text generalizing ss with
  | case1 => simp at h
  | case2 _ text =>
    cases hx : listEnd text with
    | error => simp [hx, Except.map] at h
    | ok r =>
      simp only [hx, Except.map, Except.ok.injEq, Prod.mk.injEq] at h
      obtain ⟨-, rfl⟩ := h
      exact length_listEnd hx
  | case3 => simp at h
  | case4 first text r hi s r' hr ih =>
    have h1 := length_nextItem hi
    have h2 := length_readText hr
    cases hx : readTexts false r' with
    | error => simp [hx, Except.map] at h
    | ok found =>
      simp only [hx, Except.map, Except.ok.injEq, Prod.mk.injEq] at h
      obtain ⟨-, rfl⟩ := h
      have := ih hx
      omega

theorem length_readTypes {text rest : List Char} {ss : List String}
    (h : readTypes text = .ok (ss, rest)) : rest.length < text.length := by
  have hl := Json.length_skipSpace text
  simp only [readTypes] at h
  split at h
  · simp [fail] at h
  · next c cs hs =>
    simp only [hs, List.length_cons] at hl
    split at h
    · have := length_readTexts h
      omega
    · simp at h

theorem length_readBoolean {text rest : List Char} {b : Bool}
    (h : readBoolean text = .ok (b, rest)) : rest.length < text.length := by
  have hl := Json.length_skipSpace text
  have word {w cs rest : List Char} {v b : Bool}
      (h : (Json.letters w cs).map (v, ·) = .ok (b, rest)) : rest.length ≤ cs.length := by
    cases hx : Json.letters w cs with
    | error => simp [hx, Except.map] at h
    | ok r =>
      simp only [hx, Except.map, Except.ok.injEq, Prod.mk.injEq] at h
      exact h.2 ▸ Json.length_letters hx
  simp only [readBoolean] at h
  split at h
  · simp [fail] at h
  · next c cs hs =>
    simp only [hs, List.length_cons] at hl
    split at h
    · have := word h
      omega
    · split at h
      · have := word h
        omega
      · simp at h

theorem length_readModeName {text rest : List Char} {m : SourceMode}
    (h : readModeName text = .ok (m, rest)) : rest.length < text.length := by
  simp only [readModeName] at h
  cases hx : readText "variant identifier" text with
  | error => simp [hx, bind, Except.bind] at h
  | ok found =>
    obtain ⟨name, r⟩ := found
    simp only [hx, bind, Except.bind] at h
    split at h
    · simp only [pure, Except.pure, Except.ok.injEq, Prod.mk.injEq] at h
      exact h.2 ▸ length_readText hx
    · simp [fail] at h

theorem length_readNull {text rest : List Char} (h : readNull text = .ok rest) :
    rest.length < text.length := by
  have hl := Json.length_skipSpace text
  simp only [readNull] at h
  split at h
  · simp [fail] at h
  · next c cs hs =>
    simp only [hs, List.length_cons] at hl
    split at h
    · have := Json.length_letters h
      omega
    · simp at h

theorem length_readMode {text rest : List Char} {m : SourceMode}
    (h : readMode text = .ok (m, rest)) : rest.length < text.length := by
  have hl := Json.length_skipSpace text
  simp only [readMode] at h
  split at h
  · simp [fail] at h
  · next c cs hs =>
    simp only [hs, List.length_cons] at hl
    split at h
    · cases h1 : readModeName cs with
      | error => simp [h1, bind, Except.bind] at h
      | ok found =>
        obtain ⟨mode, r1⟩ := found
        cases h2 : Json.skipColon r1 with
        | error => simp [h1, h2, bind, Except.bind] at h
        | ok r2 =>
          cases h3 : readNull r2 with
          | error => simp [h1, h2, h3, bind, Except.bind] at h
          | ok r3 =>
            have l1 := length_readModeName h1
            have l2 := Json.length_skipColon h2
            have l3 := length_readNull h3
            have l4 := Json.length_skipSpace r3
            simp only [h1, h2, h3, bind, Except.bind] at h
            split at h
            · simp [fail] at h
            · next d ds hd =>
              simp only [hd, List.length_cons] at l4
              split at h
              · simp only [pure, Except.pure, Except.ok.injEq, Prod.mk.injEq] at h
                obtain ⟨-, rfl⟩ := h
                omega
              · simp [fail] at h
    · split at h
      · have := length_readModeName h
        simp only [List.length_cons] at this
        omega
      · simp [failAt] at h

/-! ## Members -/

namespace Field

/-- The members in the order of a list. -/
def all : List Field := [scriptTypes, sourceMode, parallel]

/-- The member of a name. -/
def ofName? (name : String) : Option Field := all.find? (·.name == name)

end Field

/-- A configuration of which some members are known. -/
structure Draft where
  scriptTypes : Option (List String) := none
  sourceMode : Option SourceMode := none
  parallel : Option Bool := none
deriving DecidableEq, Repr, Inhabited

namespace Draft

/-- Whether a member is known. -/
def has (d : Draft) : Field → Bool
  | .scriptTypes => d.scriptTypes.isSome
  | .sourceMode => d.sourceMode.isSome
  | .parallel => d.parallel.isSome

/-- Reads the value of a member. -/
def read (d : Draft) (f : Field) : Reader Draft := fun text =>
  match f with
  | .scriptTypes => (readTypes text).map fun (v, rest) => ({ d with scriptTypes := some v }, rest)
  | .sourceMode => (readMode text).map fun (v, rest) => ({ d with sourceMode := some v }, rest)
  | .parallel => (readBoolean text).map fun (v, rest) => ({ d with parallel := some v }, rest)

/-- The configuration, unknown members taking their default values. -/
def finish (d : Draft) : Config :=
  let usual : Config := {}
  { scriptTypes := d.scriptTypes.getD usual.scriptTypes
    sourceMode := d.sourceMode.getD usual.sourceMode
    parallel := d.parallel.getD usual.parallel }

end Draft

/-- Reads the values of the members `fields` from a list, and its end. -/
def readItems (first : Bool) (d : Draft) : List Field → Reader Draft
  | [], text => (listEnd text).map (d, ·)
  | f :: fs, text => do
    match ← nextItem first text with
    | none => (listEnd text).map (d, ·)
    | some rest =>
      let (d, rest) ← d.read f rest
      readItems false d fs rest

/-- Reads the opening quote of the name of a member. -/
def nameStart : List Char → Except Failure (List Char)
  | [] => fail .endInValue []
  | c :: cs =>
    if c = '"' then .ok cs
    else failAt (if c = '\x7d' then .trailingComma else .keyNotString) (c :: cs)

/-- Goes on to the next member of an object, after the opening quote of its name; `none` at the end of
the object. -/
def nextMember (first : Bool) (text : List Char) : Except Failure (Option (List Char)) :=
  match skipSpace text with
  | [] => fail .endInObject []
  | c :: cs =>
    if c = '\x7d' then .ok none
    else if first then (nameStart (c :: cs)).map some
    else if c = ',' then (nameStart (skipSpace cs)).map some
    else failAt .expectedObjectCommaOrEnd (c :: cs)

/-- The failure of a member that is given twice, found after its name. The end of the object counts
as read if it follows. -/
def duplicate (f : Field) (text : List Char) : Failure :=
  match skipSpace text with
  | [] => ⟨.duplicateField f.name, [], 0⟩
  | c :: cs => ⟨.duplicateField f.name, if c = '\x7d' then cs else c :: cs, 0⟩

/-- Reads a member after the opening quote of its name. -/
def readMember (d : Draft) : Reader Draft := fun text => do
  let (name, rest) ← Json.text text
  match Field.ofName? (String.ofList name) with
  | some f =>
    if d.has f then .error (duplicate f rest)
    else do
      let rest ← Json.skipColon rest
      d.read f rest
  | none => do
    let rest ← Json.skipColon rest
    let rest ← Json.skipValue rest
    return (d, rest)

theorem length_nameStart {text rest : List Char} (h : nameStart text = .ok rest) :
    rest.length < text.length := by
  unfold nameStart at h
  split at h
  · simp [fail] at h
  · split at h
    · simp only [Except.ok.injEq] at h
      simp [h]
    · simp [failAt] at h

theorem length_nextMember {first : Bool} {text rest : List Char}
    (h : nextMember first text = .ok (some rest)) : rest.length < text.length := by
  have hl := Json.length_skipSpace text
  have start {cs : List Char} (h : (nameStart cs).map some = .ok (some rest)) :
      rest.length < cs.length := by
    cases hx : nameStart cs with
    | error => simp [hx, Except.map] at h
    | ok r =>
      simp only [hx, Except.map, Except.ok.injEq, Option.some.injEq] at h
      exact h ▸ length_nameStart hx
  simp only [nextMember] at h
  split at h
  · simp [fail] at h
  · next c cs hs =>
    have hl' := Json.length_skipSpace cs
    simp only [hs, List.length_cons] at hl
    repeat' split at h
    · simp at h
    · have := start h
      simp only [List.length_cons] at this
      omega
    · have := start h
      omega
    · simp [failAt] at h

theorem Draft.length_read {d e : Draft} {f : Field} {text rest : List Char}
    (h : d.read f text = .ok (e, rest)) : rest.length < text.length := by
  cases f with
  | scriptTypes =>
    simp only [Draft.read] at h
    cases hx : readTypes text with
    | error => simp [hx, Except.map] at h
    | ok found =>
      simp only [hx, Except.map, Except.ok.injEq, Prod.mk.injEq] at h
      exact h.2 ▸ length_readTypes hx
  | sourceMode =>
    simp only [Draft.read] at h
    cases hx : readMode text with
    | error => simp [hx, Except.map] at h
    | ok found =>
      simp only [hx, Except.map, Except.ok.injEq, Prod.mk.injEq] at h
      exact h.2 ▸ length_readMode hx
  | parallel =>
    simp only [Draft.read] at h
    cases hx : readBoolean text with
    | error => simp [hx, Except.map] at h
    | ok found =>
      simp only [hx, Except.map, Except.ok.injEq, Prod.mk.injEq] at h
      exact h.2 ▸ length_readBoolean hx

theorem length_readMember {d e : Draft} {text rest : List Char}
    (h : readMember d text = .ok (e, rest)) : rest.length < text.length := by
  simp only [readMember] at h
  cases h1 : Json.text text with
  | error => simp [h1, bind, Except.bind] at h
  | ok found =>
    obtain ⟨name, r1⟩ := found
    have l1 := Json.length_text h1
    cases h2 : Json.skipColon r1 with
    | error =>
      simp only [h1, h2, bind, Except.bind] at h
      split at h
      · split at h <;> simp at h
      · simp at h
    | ok r2 =>
      have l2 := Json.length_skipColon h2
      simp only [h1, h2, bind, Except.bind] at h
      split at h
      · split at h
        · simp at h
        · have := Draft.length_read h
          omega
      · cases h3 : Json.skipValue r2 with
        | error => simp [h3] at h
        | ok r3 =>
          have l3 := Json.length_skipValue h3
          simp only [h3, pure, Except.pure, Except.ok.injEq, Prod.mk.injEq] at h
          obtain ⟨-, rfl⟩ := h
          omega

/-- Reads the end of an object. -/
def objectEnd (text : List Char) : List Char := (skipSpace text).drop 1

/-- Reads the members of an object, and its end. -/
def readMembers (first : Bool) (d : Draft) (text : List Char) :
    Except Failure (Draft × List Char) :=
  match _h : nextMember first text with
  | .error e => .error e
  | .ok none => .ok (d, objectEnd text)
  | .ok (some rest) =>
    match _hm : readMember d rest with
    | .error e => .error e
    | .ok (d, rest) => readMembers false d rest
termination_by text.length
decreasing_by
  have := length_nextMember _h
  have := length_readMember _hm
  omega

/-! ## Configurations -/

/-- Reads the members of a configuration. -/
def readDraft : Reader Draft := fun text =>
  match skipSpace text with
  | [] => fail .endInValue []
  | c :: cs =>
    if c = '[' then readItems true {} Field.all cs
    else if c = '\x7b' then readMembers true {} cs
    else .error (misfit "struct ScanConfig" (c :: cs))

/-- Reads a text that is a configuration as a whole. -/
def read : Decoder := fun json => do
  let (d, rest) ← readDraft json.toList
  match skipSpace rest with
  | [] => return d.finish
  | c :: cs => failAt .trailingCharacters (c :: cs)

/-- Reads a configuration from a JSON text. -/
def ofJson : String → Except Error Config := fromJson read

/-- Reads a configuration from a file. -/
def load : FileContent → Except Error Config := fromFile read

end EmbeddedScripts.Config
