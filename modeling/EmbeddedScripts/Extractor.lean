import EmbeddedScripts.Document
import EmbeddedScripts.Markup.TagTree
import EmbeddedScripts.Text.Quoted

/-!
# Extractors

An `Extractor` is a configuration with a parser of scripts and a reader of tags. It lists the script
regions of a document, those that parse, or the document they make up.
-/

namespace EmbeddedScripts

/-- What is needed to find and parse the scripts of a document. -/
structure Extractor where
  config : Config := {}
  parser : ScriptParser := Script.parse
  reader : Markup.TagReader := Markup.readAttributes

namespace Extractor

/-- All script regions. -/
def scan (x : Extractor) (document : String) : List Region :=
  EmbeddedScripts.scan x.config x.reader document

/-- The outcome of each script region. -/
def outcomes (x : Extractor) (document : String) (pool : Pool := .inOrder) : List Outcome :=
  parseRegions x.parser x.config (x.scan document) pool

/-- The script regions whose content parses. -/
def extract (x : Extractor) (document : String) (pool : Pool := .inOrder) : List Region :=
  keepParseable x.parser x.config (x.scan document) pool

/-- One tree for all script regions that parse. -/
def parseDocument (x : Extractor) (document : String) (pool : Pool := .inOrder) : Document :=
  merge document (x.outcomes document pool)

theorem outcomes_eq (x : Extractor) (document : String) (pool : Pool) :
    x.outcomes document pool = (x.scan document).map (parseRegion x.parser x.config.sourceMode) :=
  parseRegions_eq _ _ _ _

theorem parseDocument_eq (x : Extractor) (document : String) (pool : Pool) :
    x.parseDocument document pool =
      merge document ((x.scan document).map (parseRegion x.parser x.config.sourceMode)) := by
  rw [parseDocument, outcomes_eq]

end Extractor

/-! ## Printed forms -/

/-- The printed form of a configuration. -/
def Config.describe (c : Config) : String :=
  let types := ", ".intercalate (c.scriptTypes.map Text.quoted)
  let mode := match c.sourceMode with
    | .script => "Script"
    | .module => "Module"
  let parallel := if c.parallel then "true" else "false"
  "ScanConfig \x7b script_types: [" ++ types ++ "], source_mode: " ++ mode ++ ", parallel: " ++
    parallel ++ " \x7d"

/-- The printed form of an extractor shows its configuration only. -/
def Extractor.describe (x : Extractor) : String :=
  "ScriptExtractor \x7b config: " ++ x.config.describe ++ ", .. \x7d"

/-- The printed form of the parser of scripts. -/
def Script.parserDescription : String := "JavaScriptParser \x7b .. \x7d"

/-- The printed form of the reader of attributes. -/
def Markup.readerDescription : String := "HtmlAttributeReader \x7b .. \x7d"

end EmbeddedScripts
