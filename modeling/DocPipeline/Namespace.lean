import DocPipeline.Value.Merge

/-!
# Namespaces

The values that attachers and transformers share outside the tree and the file.
Settings are the object under the key `settings`.
-/

namespace DocPipeline

structure Namespace where
  entries : Object := .nil
  deriving DecidableEq

namespace Namespace

instance : Inhabited Namespace := ⟨{}⟩

def settingsKey : String := "settings"

def get? (ns : Namespace) (key : String) : Option Value := ns.entries.get? key

def insert (ns : Namespace) (key : String) (v : Value) : Namespace :=
  ⟨ns.entries.insert key v⟩

/-- Deep-merges a value into the entry under a key; a missing entry is `null`. -/
def merge (ns : Namespace) (key : String) (v : Value) : Namespace :=
  ns.insert key (((ns.get? key).getD .null).merge v)

theorem get?_merge (ns : Namespace) (key : String) (v : Value) (k : String) :
    (ns.merge key v).get? k =
      if k = key then some (((ns.get? key).getD .null).merge v) else ns.get? k :=
  Fields.get?_insert ..

theorem ext_get? {ns ns' : Namespace} (h : ∀ k, ns.get? k = ns'.get? k) : ns = ns' := by
  cases ns
  cases ns'
  exact congrArg mk (Fields.ext_get? h)

def settings? (ns : Namespace) : Option Object :=
  (ns.get? settingsKey).bind Value.object?

def mergeSettings (ns : Namespace) (v : Value) : Namespace := ns.merge settingsKey v

def size (ns : Namespace) : Nat := ns.entries.size

def isEmpty (ns : Namespace) : Bool := ns.entries.isEmpty

end Namespace

end DocPipeline
