import DocPipeline.Value.Kind

/-!
# Plugins and what can be used

A plugin is known by its identity; its name only appears in reports.  What
`use` accepts is a plugin with options, a list of such things, or a preset that
carries settings beside them.
-/

namespace DocPipeline

/-- What makes two plugins the same one. -/
structure Identity where
  family : String
  label : String
  deriving DecidableEq, Repr

structure Plugin where
  identity : Identity
  name : String
  deriving DecidableEq, Repr

def Plugin.same (p q : Plugin) : Bool := p.identity == q.identity

inductive Pluggable where
  | plugin (plugin : Plugin) (options : List Value) (enabled : Bool)
  | list (items : List Pluggable)
  | preset (items : List Pluggable) (settings : Option Value)

namespace Pluggable

instance : Inhabited Pluggable := ⟨.list []⟩

/-- A plugin with its options; a lone Boolean option is an on/off switch instead. -/
def entry (plugin : Plugin) : List Value → Pluggable
  | [.bool enabled] => .plugin plugin [] enabled
  | options => .plugin plugin options true

def ofPlugin (plugin : Plugin) : Pluggable := entry plugin []

def switch (plugin : Plugin) (enabled : Bool) : Pluggable := entry plugin [.bool enabled]

end Pluggable

end DocPipeline
