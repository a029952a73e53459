import EmbeddedScripts.Config
import EmbeddedScripts.Json.Failure

/-!
# Loading a configuration

`fromJson decode` takes the configuration that `decode` reads off a JSON text, and `fromFile decode`
does so with the content of a file. A configuration of no use is refused.
-/

namespace EmbeddedScripts.Config

/-- The members of a configuration. -/
inductive Field where
  | scriptTypes
  | sourceMode
  | parallel
deriving DecidableEq, Repr, Inhabited

/-- The name of a member in a JSON text. -/
def Field.name : Field → String
  | scriptTypes => "scriptTypes"
  | sourceMode => "sourceMode"
  | parallel => "parallel"

/-- Reads a configuration off a JSON text, whether it is of use or not. -/
abbrev Decoder := String → Except Json.Failure Config

/-! ## Errors -/

/-- Why a file cannot be read as a text. -/
inductive FileFault where
  | missing
  | directory
  | notText
deriving DecidableEq, Repr, Inhabited

def FileFault.message : FileFault → String
  | missing => "No such file or directory (os error 2)"
  | directory => "Is a directory (os error 21)"
  | notText => "stream did not contain valid UTF-8"

/-- Why there is no configuration. -/
inductive Error where
  | unreadable (fault : FileFault)
  /-- The text is no configuration. -/
  | malformed (failure : Json.Failure) (text : List Char)
  /-- The configuration is of no use. -/
  | invalid (flaw : Flaw)
deriving DecidableEq, Repr, Inhabited

def Error.message : Error → String
  | unreadable fault => "Failed to read config: " ++ fault.message
  | malformed failure text => "Malformed config: " ++ failure.message text
  | invalid flaw => "Invalid config: " ++ flaw.message

/-! ## Texts and files -/

/-- The configuration, if it is of use. -/
def validated (c : Config) : Except Error Config :=
  match c.flaw? with
  | some flaw => .error (.invalid flaw)
  | none => .ok c

/-- The configuration that a JSON text holds. -/
def fromJson (decode : Decoder) (json : String) : Except Error Config :=
  match decode json with
  | .error failure => .error (.malformed failure json.toList)
  | .ok c => c.validated

/-- What is found under the name of a file. -/
inductive FileContent where
  | missing
  | directory
  | bytes (content : ByteArray)

/-- The configuration that a file holds. -/
def fromFile (decode : Decoder) : FileContent → Except Error Config
  | .missing => .error (.unreadable .missing)
  | .directory => .error (.unreadable .directory)
  | .bytes content =>
    match String.fromUTF8? content with
    | none => .error (.unreadable .notText)
    | some json => fromJson decode json

end EmbeddedScripts.Config
