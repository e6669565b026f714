import DocPipeline.Call

/-!
# Processors

A processor is configured first and then frozen.  Whatever needs the pipeline
freezes the processor: the attachers due have their turn and the configuration
is sealed.  A clone of a frozen processor shares its pipeline; configuring a
frozen processor opens its configuration again and keeps its namespace.

Runs work on the namespace of the processor, and the processing of a file works
on a fork of it made when the call is made.
-/

namespace DocPipeline

inductive Processor.State where
  | configuring (c : Configuration)
  | frozen (p : Pipeline)

structure Processor where
  state : Processor.State
  store : Namespace.Handle

/-- The world once a setup has been gone through on a store. -/
def World.afterSetup (store : Namespace.Handle) (s : Setup) (w : World) : World :=
  { w.writeData store s.data with journal := s.journal }

namespace World

variable {store : Namespace.Handle} {w : World} {s t : Setup}

theorem valid_afterSetup (valid : w.heap.Valid store) :
    (w.afterSetup store s).heap.Valid store := by
  simpa [Namespace.Heap.Valid, afterSetup, writeData, Namespace.Heap.write] using valid

theorem data_afterSetup (valid : w.heap.Valid store) :
    (w.afterSetup store s).data store = s.data := by
  simp [afterSetup, World.data, writeData, Namespace.Heap.read_write valid]

theorem afterSetup_afterSetup :
    (w.afterSetup store t).afterSetup store s = w.afterSetup store s := by
  simp [afterSetup, writeData, Namespace.Heap.write_write]

end World

namespace Processor

/-- A processor without attachers, and a namespace of its own. -/
def new (w : World) : Processor × World :=
  let (store, w) := w.allocate {}
  (⟨.configuring {}, store⟩, w)

def isFrozen (p : Processor) : Bool :=
  match p.state with
  | .configuring _ => false
  | .frozen _ => true

def registry (p : Processor) : Registry :=
  match p.state with
  | .configuring c => c.registry
  | .frozen pipeline => pipeline.registry

def attachers (p : Processor) : List Attacher := p.registry.attachers

def pipeline? (p : Processor) : Option Pipeline :=
  match p.state with
  | .configuring _ => none
  | .frozen pipeline => some pipeline

/-! ## Copies -/

/-- A processor in the same state with a copy of the namespace. -/
def clone (p : Processor) (w : World) : Processor × World :=
  let (store, w) := w.fork p.store
  ({ p with store }, w)

/-- The configuration to start over with: its attachers are all due again. -/
def reopened (p : Processor) : Configuration :=
  match p.state with
  | .configuring c => c.reopen
  | .frozen pipeline => pipeline.reopen

/-- An unfrozen processor with the same attachers and slots and a copy of the namespace. -/
def copy (p : Processor) (w : World) : Processor × World :=
  let (store, w) := w.fork p.store
  (⟨.configuring p.reopened, store⟩, w)

/-! ## Configuring -/

/-- The configuration to change; that of a frozen processor is opened again. -/
def configuration (p : Processor) : Configuration :=
  match p.state with
  | .configuring c => c
  | .frozen pipeline => pipeline.reopen

theorem registry_configuration (p : Processor) : p.configuration.registry = p.registry := by
  unfold configuration registry
  cases p.state <;> rfl

/-- Registers a plugin, a list or a preset; on a fault there is no processor any more. -/
def use (p : Processor) (what : Pluggable) (w : World) :
    Except ProcessorError Processor × World :=
  let (result, s) := Setup.use what ⟨p.configuration, w.data p.store, w.journal⟩
  (result.map fun _ => { p with state := .configuring s.config }, w.afterSetup p.store s)

/-- Registers a plugin with options. -/
def useWith (p : Processor) (plugin : Plugin) (options : List Value) (w : World) :
    Except ProcessorError Processor × World :=
  p.use (.entry plugin options) w

def withParser (p : Processor) (parser : Parser) : Processor :=
  { p with state := .configuring { p.configuration with parser := some parser } }

def withCompiler (p : Processor) (compiler : Compiler) : Processor :=
  { p with state := .configuring { p.configuration with compiler := some compiler } }

/-! ## Freezing -/

/--
The sealed pipeline.  When an attacher fails the processor stays unfrozen, and
the next time goes on behind that attacher.
-/
def freeze (book : Book) (p : Processor) (w : World) :
    Except ProcessorError Pipeline × Processor × World :=
  match p.state with
  | .frozen pipeline => (.ok pipeline, p, w)
  | .configuring c =>
      let (result, s) := Setup.attachPending book ⟨c, w.data p.store, w.journal⟩
      let w := w.afterSetup p.store s
      match result with
      | .error e => (.error e, { p with state := .configuring s.config }, w)
      | .ok () =>
          let pipeline := s.config.seal w.sealings
          (.ok pipeline, { p with state := .frozen pipeline },
            { w with sealings := w.sealings + 1 })

theorem freeze_frozen {p : Processor} (book : Book) (w : World) {pipeline : Pipeline}
    (h : p.state = .frozen pipeline) : p.freeze book w = (.ok pipeline, p, w) := by
  unfold freeze
  rw [h]

theorem freeze_failed {p : Processor} {book : Book} {w : World} {c : Configuration}
    {e : ProcessorError} {s : Setup} (h : p.state = .configuring c)
    (attached : Setup.attachPending book ⟨c, w.data p.store, w.journal⟩ = (.error e, s)) :
    p.freeze book w = (.error e, ⟨.configuring s.config, p.store⟩, w.afterSetup p.store s) := by
  unfold freeze
  rw [h]
  dsimp only
  rw [attached]

theorem freeze_sealed {p : Processor} {book : Book} {w : World} {c : Configuration}
    {s : Setup} (h : p.state = .configuring c)
    (attached : Setup.attachPending book ⟨c, w.data p.store, w.journal⟩ = (.ok (), s)) :
    p.freeze book w =
      (.ok (s.config.seal w.sealings), ⟨.frozen (s.config.seal w.sealings), p.store⟩,
        { w.afterSetup p.store s with sealings := w.sealings + 1 }) := by
  unfold freeze
  rw [h]
  dsimp only
  rw [attached]
  rfl

/-- Freezes and then goes on with the pipeline. -/
def frozen {α : Type} (book : Book) (p : Processor) (w : World)
    (next : Pipeline → World → Except ProcessorError α × World) :
    Except ProcessorError α × Processor × World :=
  match p.freeze book w with
  | (.error e, p, w) => (.error e, p, w)
  | (.ok pipeline, p, w) =>
      let (result, w) := next pipeline w
      (result, p, w)

/-! ## Stages -/

def parse (book : Book) (p : Processor) (file : File) (w : World) :
    Except ProcessorError Node × Processor × World :=
  p.frozen book w fun pipeline w => (pipeline.parse file, w)

def stringify (book : Book) (p : Processor) (tree : Node) (file : File) (w : World) :
    Except ProcessorError Output × Processor × World :=
  p.frozen book w fun pipeline w => (pipeline.stringify tree file, w)

def stringifyValue (book : Book) (p : Processor) (v : Value) (file : File) (w : World) :
    Except ProcessorError Output × Processor × World :=
  p.frozen book w fun pipeline w => (pipeline.stringifyValue v file, w)

/-! ## Running and processing -/

def runSync (book : Book) (p : Processor) (d : Document) (w : World) :
    Settled × Processor × World :=
  p.frozen book w fun pipeline w =>
    DocPipeline.runSync .runSync p.store pipeline.transformers d w

def run (book : Book) (p : Processor) (d : Document) (w : World) :
    Call × Processor × World :=
  match p.freeze book w with
  | (.error e, p, w) => (.failed e, p, w)
  | (.ok pipeline, p, w) => (.run pipeline p.store d, p, w)

/-- The call that parses, runs and stringifies a file. -/
def process (book : Book) (p : Processor) (file : File) (w : World) :
    Call × Processor × World :=
  match p.freeze book w with
  | (.error e, p, w) => (.failed e, p, w)
  | (.ok pipeline, p, w) =>
      let (store, w) := w.fork p.store
      (.process pipeline store file, p, w)

end Processor

def Pipeline.processSync (p : Pipeline) (store : Namespace.Handle) (file : File)
    (w : World) : Except ProcessorError File × World :=
  match p.parse file with
  | .error e => (.error e, w)
  | .ok tree =>
      match runSync .processSync store p.transformers ⟨tree, file⟩ w with
      | (.error e, w) => (.error e, w)
      | (.ok d, w) => (p.finish d, w)

namespace Processor

def processSync (book : Book) (p : Processor) (file : File) (w : World) :
    Except ProcessorError File × Processor × World :=
  p.frozen book w fun pipeline w =>
    let (store, w) := w.fork p.store
    pipeline.processSync store file w

/-! ## Data -/

def data (p : Processor) (w : World) : Namespace := w.data p.store

def setData (p : Processor) (key : String) (v : Value) (w : World) : World :=
  w.writeData p.store ((p.data w).insert key v)

def settings? (p : Processor) (w : World) : Option Object := (p.data w).settings?

end Processor

end DocPipeline
