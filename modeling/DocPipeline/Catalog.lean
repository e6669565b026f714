import DocPipeline.Builtin
import DocPipeline.Preset.Config
import DocPipeline.Preset.Error

/-!
# Catalogs

A catalog knows plugins by name, in the order of their first registration, and
turns a preset document into something that can be used.
-/

namespace DocPipeline

structure Catalog where
  entries : List (String × Plugin) := []
  deriving DecidableEq

namespace Catalog

def registerIn (name : String) (plugin : Plugin) :
    List (String × Plugin) → List (String × Plugin)
  | [] => [(name, plugin)]
  | e :: es => if e.1 = name then (name, plugin) :: es else e :: registerIn name plugin es

/-- Registers a plugin; a name registered before keeps its place. -/
def register (c : Catalog) (name : String) (plugin : Plugin) : Catalog :=
  ⟨registerIn name plugin c.entries⟩

def get? (c : Catalog) (name : String) : Option Plugin := c.entries.lookup name

def contains (c : Catalog) (name : String) : Bool := (c.get? name).isSome

def names (c : Catalog) : List String := c.entries.map (·.1)

def size (c : Catalog) : Nat := c.entries.length

def isEmpty (c : Catalog) : Bool := c.entries.isEmpty

def require (c : Catalog) (name : String) : Except Preset.Error Plugin :=
  match c.get? name with
  | some plugin => .ok plugin
  | none => .error (.unknownPlugin name)

/-! ## Resolving presets -/

/-- A plugin switched off drops its options. -/
def resolveSpec (c : Catalog) : Preset.Spec → Except Preset.Error Pluggable
  | .name plugin => do return .ofPlugin (← c.require plugin)
  | .table plugin _ (some false) => do return .switch (← c.require plugin) false
  | .table plugin options _ => do return .entry (← c.require plugin) options

/-- The settings of a preset document: an object, or nothing at all. -/
def resolveSettings : Value → Except Preset.Error (Option Value)
  | .null => .ok none
  | .object fields => .ok (some (.object fields))
  | settings => .error (.invalidSettings settings.kind)

structure Resolved where
  plugins : List Pluggable
  settings : Option Value

def Resolved.toPluggable (r : Resolved) : Pluggable := .preset r.plugins r.settings

def resolve (c : Catalog) (config : Preset.Config) : Except Preset.Error Resolved := do
  let plugins ← config.plugins.mapM c.resolveSpec
  let settings ← resolveSettings config.settings
  return ⟨plugins, settings⟩

def builtin : Catalog :=
  Builtin.names.foldl (fun c name => c.register name (Builtin.plugin name)) {}

end Catalog

end DocPipeline
