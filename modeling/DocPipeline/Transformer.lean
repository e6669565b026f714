import DocPipeline.Program
import DocPipeline.Namespace
import DocPipeline.Error

/-!
# Transformers

A transformer takes a document, that is a tree with its file, and finishes in
one of four styles.  While it runs it works on the namespace of the run and may
leave notes in the journal; what else it can do depends on its style:

* `sync` finishes before it returns;
* `async` and `future` may suspend, `future` after some work of its own when it
  is invoked;
* `callback` gets a completion handle, through which it completes now or which
  it leaves to a deferred job.
-/

namespace DocPipeline

structure Document where
  tree : Node
  file : File
  deriving DecidableEq

instance : Inhabited Document := ⟨⟨default, default⟩⟩

abbrev Completed := Except Cause Document

/-! ## Interfaces -/

inductive Work.Op where
  | data
  | insert (key : String) (v : Value)
  | merge (key : String) (v : Value)
  | note (v : Value)

/-- Inserting tells the value stored before. -/
def Work : Interface where
  Op := Work.Op
  Answer
    | .data => Namespace
    | .insert .. => Option Value
    | .merge .. => Unit
    | .note _ => Unit

inductive Suspending.Op where
  | work (op : Work.Op)
  | suspend

def Suspending : Interface where
  Op := Suspending.Op
  Answer
    | .work op => Work.Answer op
    | .suspend => Unit

structure HandleView where
  index : Nat
  plugin : String
  calls : Nat
  deriving DecidableEq, Repr

inductive Completing.Op where
  | work (op : Work.Op)
  | complete (result : Completed)
  | inspect

/-- A rejected completion answers with the error. -/
def Completing : Interface where
  Op := Completing.Op
  Answer
    | .work op => Work.Answer op
    | .complete _ => Except ProcessorError Unit
    | .inspect => HandleView

/--
A callback can also keep a copy of its handle for good, or leave one to a job
that runs later and drops the copy at its end.
-/
inductive Calling.Op where
  | now (op : Completing.Op)
  | keep
  | defer (job : Program Completing Unit)

def Calling : Interface where
  Op := Calling.Op
  Answer
    | .now op => Completing.Answer op
    | .keep => Unit
    | .defer _ => Unit

/-! ## Performing operations -/

namespace Work

def data : Program Work Namespace := .op (I := Work) Op.data

def insert (key : String) (v : Value) : Program Work (Option Value) :=
  .op (I := Work) (Op.insert key v)

def merge (key : String) (v : Value) : Program Work Unit :=
  .op (I := Work) (Op.merge key v)

def note (v : Value) : Program Work Unit := .op (I := Work) (Op.note v)

variable {α : Type}

def suspending : Program Work α → Program Suspending α :=
  Program.lift fun op => .op (I := Suspending) (.work op)

def completing : Program Work α → Program Completing α :=
  Program.lift fun op => .op (I := Completing) (.work op)

end Work

def Suspending.suspend : Program Suspending Unit :=
  .op (I := Suspending) Suspending.Op.suspend

namespace Completing

def complete (result : Completed) : Program Completing (Except ProcessorError Unit) :=
  .op (I := Completing) (Op.complete result)

def inspect : Program Completing HandleView := .op (I := Completing) Op.inspect

def calling {α : Type} : Program Completing α → Program Calling α :=
  Program.lift fun op => .op (I := Calling) (.now op)

end Completing

namespace Calling

def keep : Program Calling Unit := .op (I := Calling) Op.keep

def defer (job : Program Completing Unit) : Program Calling Unit :=
  .op (I := Calling) (Op.defer job)

end Calling

/-! ## Transformers -/

/-- A document edited in place, and a tree to put in its place, if any. -/
structure Edit where
  document : Document
  replacement : Option Node := none

def Edit.settle (e : Edit) : Document :=
  match e.replacement with
  | some tree => { e.document with tree := tree }
  | none => e.document

inductive Transformer where
  | sync (run : Document → Program Work (Except Cause Edit))
  | async (run : Document → Program Suspending (Except Cause Edit))
  | future (start : Document → Program Work (Program Suspending Completed))
  | callback (run : Document → Program Calling (Except Cause Unit))

def Transformer.style : Transformer → String
  | .sync _ => "sync"
  | .async _ => "async"
  | .future _ => "future"
  | .callback _ => "callback"

structure Bound where
  index : Nat
  plugin : String
  transformer : Transformer

end DocPipeline
