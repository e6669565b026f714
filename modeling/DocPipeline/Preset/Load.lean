import DocPipeline.Catalog
import DocPipeline.Json.Reader
import DocPipeline.Toml.Document
import DocPipeline.Yaml.Document

/-!
# Loading presets

The format of a preset is settled by its path before the file is read.
-/

namespace DocPipeline

namespace Preset

/-! ## YAML -/

/-- Plugins are read for what they stand for; in all else keys count as texts. -/
def yamlEntry (d : Yaml.Document) (e : Yaml.Node × Yaml.Node) :
    Yaml.Reading (Datum × Datum) := do
  let key ← d.textOf e.1
  if key = "plugins" then
    let items ← d.itemsOf e.2
    let depth := Yaml.depthLimit - 2
    return (.text key, .list (← items.mapM (d.datumOf .resolved depth)))
  else return (.text key, ← d.datumOf .verbatim (Yaml.depthLimit - 1) e.2)

def readYaml? (text : String) : Option Datum := do
  let d ← Yaml.Document.ofText? text
  d.read? do
    let entries ← d.entriesOf d.root
    return .table (← entries.mapM (yamlEntry d))

/-! ## Reading -/

def Format.read? : Format → String → Option Datum
  | .toml, text => Toml.read? text
  | .json, text => Json.read? text
  | .yaml, text => readYaml? text

def parse (format : Format) (source : String) : Except Error Config :=
  match (format.read? source).bind Config.ofDatum? with
  | some config => .ok config
  | none => .error (.invalid format)

def load (path : String) : Program Files (Except Error Config) :=
  match Format.ofPath path with
  | .error e => .done (.error e)
  | .ok format => do
      match ← Files.readText path with
      | .error fault => return .error (.unreadable path fault)
      | .ok source => return parse format source

end Preset

def Catalog.load (c : Catalog) (path : String) :
    Program Files (Except Preset.Error Catalog.Resolved) := do
  return (← Preset.load path).bind c.resolve

end DocPipeline
