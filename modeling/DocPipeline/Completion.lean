import DocPipeline.Transformer

/-!
# Completion cells

A callback transformer and its run share a completion cell.  Handles to the
cell count the calls made through any of them.  The first call delivers its
result, every later one is rejected, and a cell whose last handle is dropped
before any call is abandoned.
-/

namespace DocPipeline

structure Completion where
  index : Nat
  plugin : String
  /-- Calls made so far, rejected ones included. -/
  calls : Nat := 0
  /-- Whether a call would still deliver. -/
  armed : Bool := true
  /-- Handles not dropped yet. -/
  handles : Nat := 1
  delivered : Option Completed := none

namespace Completion

instance : Inhabited Completion := ⟨{ index := 0, plugin := "" }⟩

def multiple (c : Completion) : ProcessorError := .multipleCompletion c.index c.plugin

def complete (result : Completed) (c : Completion) :
    Except ProcessorError Unit × Completion :=
  if c.armed then
    (.ok (), { c with calls := c.calls + 1, armed := false, delivered := some result })
  else (.error c.multiple, { c with calls := c.calls + 1 })

/-- Counts a failure to return as the call, so that later ones are rejected. -/
def close (c : Completion) : Completion := { c with calls := c.calls + 1, armed := false }

def retain (c : Completion) : Completion := { c with handles := c.handles + 1 }

def release (c : Completion) : Completion := { c with handles := c.handles - 1 }

def view (c : Completion) : HandleView := ⟨c.index, c.plugin, c.calls⟩

/-- What a run that waits for the cell gets; `none` while it is to wait on. -/
def outcome? (c : Completion) : Option (Except ProcessorError Document) :=
  match c.delivered with
  | some result => some (result.mapError (.transform c.index c.plugin))
  | none =>
      if c.armed && c.handles ≠ 0 then none
      else some (.error (.abandoned c.index c.plugin))

end Completion

end DocPipeline
