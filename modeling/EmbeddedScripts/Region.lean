import EmbeddedScripts.Config
import EmbeddedScripts.Markup.Attributes
import EmbeddedScripts.Markup.ScriptTag
import EmbeddedScripts.Position

/-!
# Regions

A `Region` is the content of one script element with its place in the document. Its source begins
with as many spaces as the column of the content says, so that columns in the source and in the
document agree. `scan` lists the regions of a document whose declared type is accepted.
-/

namespace EmbeddedScripts

/-- The content of a script element and where it stands. -/
structure Region where
  /-- The byte offset of the content. -/
  index : Nat
  /-- The length of the content in bytes. -/
  length : Nat
  line : Nat
  column : Nat
  /-- The content after `column` spaces. -/
  source : String
deriving DecidableEq, Repr, Inhabited

namespace Region

/-- The offset just past the content. -/
def stop (r : Region) : Nat := r.index + r.length

/-- The content without the spaces before it; empty if the column falls inside a character of the
source or past its end. -/
def content (r : Region) : String :=
  String.ofList ((Text.dropBytes? r.column r.source.toList).getD [])

/-- The region of a content at the byte offset `index` and the position `pos`. -/
def ofContent (content : List Char) (index : Nat) (pos : LineColumn) : Region :=
  { index
    length := Text.byteLength content
    line := pos.line
    column := pos.column
    source := Text.spaces pos.column ++ String.ofList content }

end Region

/-- Whether an element declares no type, or one that is accepted. -/
def isScriptElement (config : Config) (reader : Markup.TagReader) (e : Markup.Element) : Bool :=
  match Markup.declaredType? reader (String.ofList (e.opening ++ e.content ++ e.closing)) with
  | none => true
  | some declared => config.acceptsType declared

/-- The regions of the elements that follow the byte offset `offset`. -/
def regionsOf (config : Config) (reader : Markup.TagReader) (tracker : Position.Tracker)
    (offset : Nat) : List Markup.Element → List Region
  | [] => []
  | e :: es =>
    let index := offset + Text.byteLength (e.before ++ e.opening)
    let next := index + Text.byteLength (e.content ++ e.closing)
    if isScriptElement config reader e then
      let tracker := tracker.advanceTo index
      .ofContent e.content index tracker.position :: regionsOf config reader tracker next es
    else regionsOf config reader tracker next es

/-- The script regions of a document, in order. -/
def scan (config : Config) (reader : Markup.TagReader) (document : String) : List Region :=
  let text := document.toList
  regionsOf config reader (.ofList text) 0 (Markup.elements text)

end EmbeddedScripts
