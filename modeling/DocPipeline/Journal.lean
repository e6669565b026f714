import DocPipeline.Value

/-!
# The journal

What happened while collaborators ran, in order: which attachers and which
transformers were invoked, and the notes they left themselves.
-/

namespace DocPipeline

inductive Event where
  | attached (index : Nat) (plugin : String)
  | invoked (index : Nat) (plugin : String)
  | noted (v : Value)
  deriving DecidableEq

abbrev Journal := List Event

def Event.note? : Event → Option Value
  | .noted v => some v
  | _ => none

def Journal.notes (journal : Journal) : List Value := journal.filterMap Event.note?

end DocPipeline
