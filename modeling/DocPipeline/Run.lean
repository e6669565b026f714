import DocPipeline.World

/-!
# Runs

A run takes a document through a list of transformers, one after the other, and
stops at the first that fails.  Invoking a transformer either settles it at
once, gives a task to be resumed, or leaves the run waiting for a completion
cell.  `Run.poll` carries a run on as far as it goes now; `runSync` is the entry
that puts up with no transformer that is not settled at once.
-/

namespace DocPipeline

abbrev Settled := Except ProcessorError Document

abbrev Task := Program Suspending Settled

inductive Invocation where
  | ready (result : Settled)
  | task (task : Task)
  | waiting (cell : Nat)

namespace Bound

def failed (b : Bound) (source : Cause) : ProcessorError :=
  .transform b.index b.plugin source

def settleEdit (b : Bound) (result : Except Cause Edit) : Settled :=
  (result.map Edit.settle).mapError b.failed

/--
Invokes a callback with a handle of its own while the run holds one as well.
More than one call, or a call and then a failure, is a multiple completion; a
failure without a call closes the cell.
-/
def invokeCallback (b : Bound) (store : Namespace.Handle)
    (run : Program Calling (Except Cause Unit)) (w : World) : Invocation × World :=
  let (id, w) := w.openCell { index := b.index, plugin := b.plugin, handles := 2 }
  let (returned, w) := run.run (World.calling store id) w
  let w := w.release id
  let cell := w.cell id
  if 1 < cell.calls then (.ready (.error cell.multiple), w.release id)
  else
    match returned with
    | .error source =>
        if 0 < cell.calls then (.ready (.error cell.multiple), w.release id)
        else (.ready (.error (b.failed source)), (w.setCell id cell.close).release id)
    | .ok () =>
        let w := w.release id
        match w.outcome? id with
        | some result => (.ready result, w)
        | none => (.waiting id, w)

def invoke (b : Bound) (store : Namespace.Handle) (d : Document) (w : World) :
    Invocation × World :=
  let w := w.record (.invoked b.index b.plugin)
  match b.transformer with
  | .sync run =>
      let (result, w) := (run d).run (World.work store) w
      (.ready (b.settleEdit result), w)
  | .async run => (.task (b.settleEdit <$> run d), w)
  | .future start =>
      let (task, w) := (start d).run (World.work store) w
      (.task ((·.mapError b.failed) <$> task), w)
  | .callback run => b.invokeCallback store (run d) w

end Bound

/-! ## Suspending runs -/

/-- Where a run stands: about to go on, within a task, or waiting for a cell. -/
inductive Stage where
  | at (document : Document)
  | task (task : Task)
  | waiting (cell : Nat)

structure Run where
  store : Namespace.Handle
  /-- The transformers not invoked yet. -/
  rest : List Bound
  stage : Stage

inductive Poll (ρ α : Type) where
  | finished (result : Except ProcessorError α)
  | pending (run : ρ)

namespace Run

/-- Takes a document through the transformers as far as it goes. -/
def advance (store : Namespace.Handle) : List Bound → Document → World →
    Poll Run Document × World
  | [], d, w => (.finished (.ok d), w)
  | b :: rest, d, w =>
      match b.invoke store d w with
      | (.ready (.ok d), w) => advance store rest d w
      | (.ready (.error e), w) => (.finished (.error e), w)
      | (.waiting cell, w) => (.pending ⟨store, rest, .waiting cell⟩, w)
      | (.task task, w) =>
          match w.resume store task with
          | (.inl (.ok d), w) => advance store rest d w
          | (.inl (.error e), w) => (.finished (.error e), w)
          | (.inr task, w) => (.pending ⟨store, rest, .task task⟩, w)

def poll (run : Run) (w : World) : Poll Run Document × World :=
  match run.stage with
  | .at d => advance run.store run.rest d w
  | .task task =>
      match w.resume run.store task with
      | (.inl (.ok d), w) => advance run.store run.rest d w
      | (.inl (.error e), w) => (.finished (.error e), w)
      | (.inr task, w) => (.pending { run with stage := .task task }, w)
  | .waiting cell =>
      match w.outcome? cell with
      | some (.ok d) => advance run.store run.rest d w
      | some (.error e) => (.finished (.error e), w)
      | none => (.pending run, w)

def sleepsOn? (run : Run) : Option Nat :=
  match run.stage with
  | .waiting cell => some cell
  | _ => none

end Run

/-! ## Runs that may not suspend -/

def runSync (entry : Entry) (store : Namespace.Handle) : List Bound → Document → World →
    Settled × World
  | [], d, w => (.ok d, w)
  | b :: rest, d, w =>
      match b.invoke store d w with
      | (.ready (.ok d), w) => runSync entry store rest d w
      | (.ready (.error e), w) => (.error e, w)
      | (_, w) => (.error (.asyncUsage entry b.index b.plugin), w)

end DocPipeline
