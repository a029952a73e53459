import EmbeddedScripts.Script.Mode
import EmbeddedScripts.Text.Blank

/-!
# Configuration

A `Config` says which declared types mark an element as a script, and how its content is read.
`Config.flaw?` finds what makes a configuration unusable.
-/

namespace EmbeddedScripts

/-- The settings for scanning and parsing. -/
structure Config where
  /-- The types of elements that hold scripts, in letters of either case. -/
  scriptTypes : List String := ["javascript", "text/javascript"]
  sourceMode : SourceMode := .script
  /-- Whether scripts may be parsed side by side. The result is the same. -/
  parallel : Bool := false
deriving DecidableEq, Repr, Inhabited

namespace Config

/-- What makes a configuration unusable. -/
inductive Flaw where
  /-- It accepts no type at all. -/
  | noTypes
  /-- It accepts a type of nothing but blanks. -/
  | blankType
deriving DecidableEq, Repr, Inhabited

def Flaw.message : Flaw → String
  | noTypes => "scriptTypes must list at least one type"
  | blankType => "scriptTypes must not contain blank entries"

/-- The flaw of a configuration, if it has one. -/
def flaw? (c : Config) : Option Flaw :=
  if c.scriptTypes.isEmpty then some .noTypes
  else if c.scriptTypes.any Text.isBlankText then some .blankType
  else none

/-- Whether two texts differ at most in the case of ASCII letters. -/
def sameType (s t : String) : Bool := s.toList.map Char.toLower == t.toList.map Char.toLower

/-- Whether a declared type marks a script. An empty type counts as none declared. -/
def acceptsType (c : Config) (declared : String) : Bool :=
  declared.isEmpty || c.scriptTypes.any (sameType · declared)

end Config

end EmbeddedScripts
