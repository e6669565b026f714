import DocPipeline.Datum

/-!
# Preset documents

A preset document names plugins and carries settings.  A plugin is named either
by a bare name or by a table with options and an on/off switch.  `ofDatum?`
reads a document and `toValue` writes one.
-/

namespace DocPipeline

namespace Preset

inductive Spec where
  | name (plugin : String)
  | table (plugin : String) (options : List Value) (enabled : Option Bool)
  deriving DecidableEq

structure Config where
  plugins : List Spec := []
  settings : Value := .null
  deriving DecidableEq

def Spec.pluginName : Spec → String
  | .name plugin => plugin
  | .table plugin _ _ => plugin

/-! ## Writing -/

def Spec.toValue : Spec → Value
  | .name plugin => .string plugin
  | .table plugin options enabled =>
      .object (.ofList [
        ("name", .string plugin),
        ("options", .array options),
        ("enabled", (enabled.map Value.bool).getD .null)])

def Config.toValue (c : Config) : Value :=
  .object (.ofList [
    ("plugins", .array (c.plugins.map Spec.toValue)),
    ("settings", c.settings)])

/-! ## Reading a plugin -/

inductive Field where
  | name
  | options
  | enabled
  | unknown
  deriving DecidableEq

/-- The field a key stands for: by name, or by its position, which has no minus sign. -/
def Field.ofKey? : Datum → Option Field
  | .text "name" => some .name
  | .text "options" => some .options
  | .text "enabled" => some .enabled
  | .text _ => some .unknown
  | .number (.int 0) => some .name
  | .number (.int 1) => some .options
  | .number (.int 2) => some .enabled
  | .number (.int n) => if 0 ≤ n then some .unknown else none
  | _ => none

/-- The fields of a table read so far. -/
structure Draft where
  name : Option String := none
  options : Option (List Value) := none
  enabled : Option (Option Bool) := none

namespace Draft

def setOnce {α : Type} (old : Option α) (new : Option α) : Option (Option α) :=
  match old, new with
  | none, some a => some (some a)
  | _, _ => none

def text? : Datum → Option String
  | .text s => some s
  | _ => none

def values? : Datum → Option (List Value)
  | .list items => Datum.toValues? items
  | _ => none

def switch? : Datum → Option (Option Bool)
  | .null => some none
  | .bool b => some (some b)
  | _ => none

/-- Takes one entry of the table; unknown fields are passed over. -/
def take (d : Draft) (entry : Datum × Datum) : Option Draft := do
  match ← Field.ofKey? entry.1 with
  | .name => return { d with name := ← setOnce d.name (text? entry.2) }
  | .options => return { d with options := ← setOnce d.options (values? entry.2) }
  | .enabled => return { d with enabled := ← setOnce d.enabled (switch? entry.2) }
  | .unknown => return d

def spec? (d : Draft) : Option Spec := do
  return .table (← d.name) (d.options.getD []) (d.enabled.getD none)

end Draft

def Spec.ofDatum? : Datum → Option Spec
  | .text plugin => some (.name plugin)
  | .table entries => do (← entries.foldlM Draft.take {}).spec?
  | _ => none

/-! ## Reading a document -/

def plugins? : Datum → Option (List Spec)
  | .list items => items.mapM Spec.ofDatum?
  | _ => none

structure ConfigDraft where
  plugins : Option (List Spec) := none
  settings : Option Value := none

namespace ConfigDraft

/-- Takes one entry of the document; there are no entries besides the two known. -/
def take (d : ConfigDraft) (entry : Datum × Datum) : Option ConfigDraft := do
  match entry.1 with
  | .text "plugins" =>
      return { d with plugins := ← Draft.setOnce d.plugins (plugins? entry.2) }
  | .text "settings" =>
      return { d with settings := ← Draft.setOnce d.settings entry.2.toValue? }
  | _ => none

def config (d : ConfigDraft) : Config := ⟨d.plugins.getD [], d.settings.getD .null⟩

end ConfigDraft

/-- A document is a table of the two entries, or a list of the two in order. -/
def Config.ofDatum? : Datum → Option Config
  | .table entries => do return (← entries.foldlM ConfigDraft.take {}).config
  | .list [] => some {}
  | .list [plugins] => do return { plugins := ← plugins? plugins }
  | .list [plugins, settings] => do return ⟨← plugins? plugins, ← settings.toValue?⟩
  | _ => none

end Preset

/-! ## Values as data -/

mutual

def Value.toDatum : Value → Datum
  | .null => .null
  | .bool b => .bool b
  | .number n => .number n
  | .string s => .text s
  | .array items => .list (Value.toData items)
  | .object fields => .table fields.toEntries

def Value.toData : List Value → List Datum
  | [] => []
  | v :: vs => v.toDatum :: Value.toData vs

def Fields.toEntries : {lo : Option String} → Fields lo → List (Datum × Datum)
  | _, .nil => []
  | _, .cons key _ value rest => (.text key, value.toDatum) :: rest.toEntries

end

def Preset.Config.ofValue? (v : Value) : Option Preset.Config := Preset.Config.ofDatum? v.toDatum

end DocPipeline
