import DocPipeline.Registry
import DocPipeline.Slot
import DocPipeline.Transformer

/-!
# Attaching

When a processor freezes, each enabled plugin in use is attached once: its
behaviour runs with the options registered for it, fills slots, writes the
namespace, uses further plugins, and contributes a transformer or none.

A book lists what each plugin does; a plugin that it does not list does nothing.
-/

namespace DocPipeline

inductive Attach.Op where
  | setParser (parser : Parser)
  | setCompiler (compiler : Compiler)
  | slots
  | data
  | setData (key : String) (v : Value)
  | use (what : Pluggable)
  | note (v : Value)

/-- `slots` tells whether there is a parser and whether there is a compiler. -/
def Attach : Interface where
  Op := Attach.Op
  Answer
    | .setParser _ => Unit
    | .setCompiler _ => Unit
    | .slots => Bool × Bool
    | .data => Namespace
    | .setData .. => Unit
    | .use _ => Except ProcessorError Unit
    | .note _ => Unit

namespace Attach

def setParser (parser : Parser) : Program Attach Unit := .op (I := Attach) (Op.setParser parser)

def setCompiler (compiler : Compiler) : Program Attach Unit :=
  .op (I := Attach) (Op.setCompiler compiler)

def slots : Program Attach (Bool × Bool) := .op (I := Attach) Op.slots

def data : Program Attach Namespace := .op (I := Attach) Op.data

def setData (key : String) (v : Value) : Program Attach Unit :=
  .op (I := Attach) (Op.setData key v)

def use (what : Pluggable) : Program Attach (Except ProcessorError Unit) :=
  .op (I := Attach) (Op.use what)

def note (v : Value) : Program Attach Unit := .op (I := Attach) (Op.note v)

end Attach

/-- What a plugin does when attached at an index, under a name, with options. -/
abbrev Behaviour :=
  (index : Nat) → (name : String) → (options : List Value) →
    Program Attach (Except Cause (Option Transformer))

namespace Behaviour

def nothing : Behaviour := fun _ _ _ => .done (.ok none)

def transformer (t : Transformer) : Behaviour := fun _ _ _ => .done (.ok (some t))

def parser (p : Parser) : Behaviour := fun _ _ _ => do
  Attach.setParser p
  return .ok none

def compiler (c : Compiler) : Behaviour := fun _ _ _ => do
  Attach.setCompiler c
  return .ok none

end Behaviour

structure Book where
  entries : List (Identity × Behaviour) := []

namespace Book

def identities (book : Book) : List Identity := book.entries.map (·.1)

def behaviour (book : Book) (i : Identity) : Behaviour :=
  (book.entries.lookup i).getD .nothing

theorem behaviour_of_not_mem {book : Book} {i : Identity} (h : i ∉ book.identities) :
    book.behaviour i = .nothing := by
  have : book.entries.lookup i = none := by
    rw [List.lookup_eq_none_iff]
    intro e he
    exact bne_iff_ne.2 fun hi => h (List.mem_map.2 ⟨e, he, hi.symm⟩)
  simp [behaviour, this]

end Book

end DocPipeline
