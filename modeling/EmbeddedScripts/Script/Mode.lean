/-!
# Modes of scripts

A script is read as a classic script or as a module.
-/

namespace EmbeddedScripts

/-- What a script may hold. -/
inductive SourceMode where
  /-- No import or export, and no `await` at the top. -/
  | script
  /-- The body of a module. -/
  | module
deriving DecidableEq, Repr, Inhabited

end EmbeddedScripts
