import EmbeddedScripts.Config.Load
import EmbeddedScripts.Proofs.JsonTexts
import Mathlib.Data.List.ReduceOption

/-!
# Written configurations

A `Setting` is a member of a configuration with its value. `WritesObject` relates the members of an
object to the texts of JSON that give them, in any order and with any blanks and escapes, and `Gives`
a member to the setting that it gives, if it gives one.

`Visits visit` and `Decodes decode visit` are what is relied on of a decoder: that of the members of an
object `visit` makes a configuration by their names, and that `decode` reads the members off a text.
-/

namespace EmbeddedScripts.Config

open Json (IsGap Spells)

/-! ## Settings -/

/-- A member of a configuration with its value. -/
inductive Setting where
  | scriptTypes (types : List String)
  | sourceMode (mode : SourceMode)
  | parallel (value : Bool)
deriving DecidableEq, Repr

def Setting.field : Setting → Field
  | scriptTypes _ => .scriptTypes
  | sourceMode _ => .sourceMode
  | parallel _ => .parallel

/-- The setting of a configuration for a member. -/
def setting (c : Config) : Field → Setting
  | .scriptTypes => .scriptTypes c.scriptTypes
  | .sourceMode => .sourceMode c.sourceMode
  | .parallel => .parallel c.parallel

/-- Changes a setting. -/
def put (c : Config) : Setting → Config
  | .scriptTypes types => { c with scriptTypes := types }
  | .sourceMode mode => { c with sourceMode := mode }
  | .parallel value => { c with parallel := value }

theorem setting_put (c : Config) (s : Setting) (f : Field) :
    (c.put s).setting f = if s.field = f then s else c.setting f := by
  cases s <;> cases f <;> rfl

theorem Field.name_injective {f g : Field} (h : f.name = g.name) : f = g := by
  cases f <;> cases g <;> first | rfl | exact absurd h (by decide)

/-! ## Values -/

/-- The name of a mode. -/
def modeName : SourceMode → String
  | .script => "script"
  | .module => "module"

/-- The ways to write the items of a list of strings. -/
inductive WritesTexts : List String → List Char → Prop where
  | last {s : String} {before t after : List Char} (hbefore : IsGap before)
      (ht : Spells s.toList t) (hafter : IsGap after) :
    WritesTexts [s] (before ++ '"' :: (t ++ '"' :: after))
  | cons {s : String} {before t after : List Char} {ss : List String} {items : List Char}
      (hbefore : IsGap before) (ht : Spells s.toList t) (hafter : IsGap after)
      (hitems : WritesTexts ss items) :
    WritesTexts (s :: ss) (before ++ '"' :: (t ++ '"' :: (after ++ ',' :: items)))

/-- The ways to write the value of a setting. -/
inductive WritesValue : Setting → List Char → Prop where
  | noTypes {gap : List Char} (h : IsGap gap) :
    WritesValue (.scriptTypes []) ('[' :: (gap ++ [']']))
  | types {ss : List String} {items : List Char} (h : WritesTexts ss items) :
    WritesValue (.scriptTypes ss) ('[' :: (items ++ [']']))
  | mode {mode : SourceMode} {t : List Char} (h : Spells (modeName mode).toList t) :
    WritesValue (.sourceMode mode) ('"' :: (t ++ ['"']))
  | parallel (value : Bool) :
    WritesValue (.parallel value) (if value then "true" else "false").toList

/-! ## Members -/

/-- A member of an object: its name, and the text of its value. -/
structure Member where
  name : String
  value : List Char

/-- What a member gives: a setting, or nothing if its name is none of a setting. -/
inductive Gives : Member → Option Setting → Prop where
  | setting {s : Setting} {value : List Char} (hvalue : WritesValue s value) :
    Gives ⟨s.field.name, value⟩ (some s)
  | other {name : String} {value : List Char} (hname : ∀ f : Field, f.name ≠ name)
      (hvalue : Json.WellFormed .value value) :
    Gives ⟨name, value⟩ none

/-- The ways to write a member. -/
inductive WritesMember (m : Member) : List Char → Prop where
  | mk {name middle gap : List Char} (hname : Spells m.name.toList name) (hmiddle : IsGap middle)
      (hgap : IsGap gap) :
    WritesMember m ('"' :: (name ++ '"' :: (middle ++ ':' :: (gap ++ m.value))))

/-- The ways to write the members of an object, if it has any. -/
inductive WritesMembers : List Member → List Char → Prop where
  | last {m : Member} {before member after : List Char} (hbefore : IsGap before)
      (hmember : WritesMember m member) (hafter : IsGap after) :
    WritesMembers [m] (before ++ (member ++ after))
  | cons {m : Member} {ms : List Member} {before member after members : List Char}
      (hbefore : IsGap before) (hmember : WritesMember m member) (hafter : IsGap after)
      (hmembers : WritesMembers ms members) :
    WritesMembers (m :: ms) (before ++ (member ++ (after ++ ',' :: members)))

/-- The ways to write an object with the given members. -/
inductive WritesObject : List Member → List Char → Prop where
  | empty {before gap after : List Char} (hbefore : IsGap before) (hgap : IsGap gap)
      (hafter : IsGap after) :
    WritesObject [] (before ++ '\x7b' :: (gap ++ '\x7d' :: after))
  | members {ms : List Member} {before members after : List Char} (hbefore : IsGap before)
      (hmembers : WritesMembers ms members) (hafter : IsGap after) :
    WritesObject ms (before ++ '\x7b' :: (members ++ '\x7d' :: after))

/-! ## Decoders -/

/-- Makes a configuration of the members of an object, if they fit. -/
abbrev Visitor := List Member → Option Config

/-- What is relied on of a visitor. -/
structure Visits (visit : Visitor) : Prop where
  /-- Settings that are missing are the usual ones. -/
  missing : visit [] = some {}
  /-- A member that is not given again gives its setting, whatever others are given. -/
  field {m : Member} {s : Setting} {ms : List Member} (hm : Gives m (some s))
    (hnew : m.name ∉ ms.map Member.name) : visit (m :: ms) = (visit ms).map (·.put s)
  /-- A member of a name that is not known does not count. -/
  unknown {m : Member} {ms : List Member} (hm : Gives m none) : visit (m :: ms) = visit ms

/-- What is relied on of a decoder: it reads the members of an object off any text that writes them,
for the visitor to make a configuration of. -/
def Decodes (decode : Decoder) (visit : Visitor) : Prop :=
  ∀ (ms : List Member) (json : String) (c : Config), WritesObject ms json.toList →
    (∀ m ∈ ms, ∃ given, Gives m given) → visit ms = some c → decode json = .ok c

end EmbeddedScripts.Config
