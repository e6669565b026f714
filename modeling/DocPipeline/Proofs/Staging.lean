import DocPipeline.Proofs.Driving

/-!
# Processing in stages

Processing a file comes to the same as parsing it, running over the tree and
stringifying the result, one request after the other, on a clone of the frozen
processor.
-/

namespace DocPipeline

/-- The error, as it is reported by another entry. -/
def ProcessorError.enteredBy (entry : Entry) : ProcessorError → ProcessorError
  | .asyncUsage _ index plugin => .asyncUsage entry index plugin
  | e => e

/-- Text and bytes become the contents; everything else becomes the result. -/
def File.holding (file : File) : Output → File
  | .text s => { file with contents := some (.text s) }
  | .bytes bs => { file with contents := some (.bytes bs) }
  | output => { file with result := some output }

theorem File.accept_eq_holding (file : File) (output : Output) :
    file.accept output = file.holding output := by
  cases output <;> rfl

theorem Pipeline.finish_eq (p : Pipeline) (d : Document) :
    p.finish d = (p.stringify d.tree d.file).map d.file.holding := by
  rw [finish]
  cases p.stringify d.tree d.file with
  | error e => rfl
  | ok output => exact congrArg Except.ok (d.file.accept_eq_holding output)

/-! ## Requests one after the other -/

namespace Processor

/-- What comes of a request, if it does not stall, with the processor and the world then. -/
structure Staged (α : Type) where
  result : Option (Except ProcessorError α)
  processor : Processor
  world : World

/-- Drives the call that was made and reads its outcome. -/
def awaited {α : Type} (read? : Outcome → Option α) (made : Call × Processor × World) :
    Staged α :=
  let (ended, w) := made.1.drive made.2.2
  ⟨Outcome.reading read? ended, made.2.1, w⟩

variable (book : Book)

def runAtOnce (p : Processor) (d : Document) (w : World) : Staged Document :=
  let (settled, p, w) := p.runSync book d w
  ⟨some settled, p, w⟩

def runAwaited (p : Processor) (d : Document) (w : World) : Staged Document :=
  awaited Outcome.document? (p.run book d w)

def processAtOnce (p : Processor) (file : File) (w : World) : Staged File :=
  let (result, p, w) := p.processSync book file w
  ⟨some result, p, w⟩

def processAwaited (p : Processor) (file : File) (w : World) : Staged File :=
  awaited Outcome.file? (p.process book file w)

/-- Parses a file, runs over the tree, and stringifies what comes of that. -/
def inStages (run : Processor → Document → World → Staged Document) (p : Processor)
    (file : File) (w : World) : Staged File :=
  match p.parse book file w with
  | (.error e, p, w) => ⟨some (.error e), p, w⟩
  | (.ok tree, p, w) =>
      match run p ⟨tree, file⟩ w with
      | ⟨none, p, w⟩ => ⟨none, p, w⟩
      | ⟨some (.error e), p, w⟩ => ⟨some (.error e), p, w⟩
      | ⟨some (.ok d), p, w⟩ =>
          match p.stringify book d.tree d.file w with
          | (.error e, p, w) => ⟨some (.error e), p, w⟩
          | (.ok output, p, w) => ⟨some (.ok (d.file.holding output)), p, w⟩

/--
Under a schedule, parsing, running and stringifying come to an end: at the first
poll if parsing fails, and otherwise when the run does.
-/
def EndsInStages (p : Processor) (file : File) (w : World) (ms : List Interval)
    (events : Journal) (result : Except ProcessorError File) (v : World) : Prop :=
  match p.parse book file w with
  | (.error e, p, w) =>
      ∃ m, ms = [m] ∧ m.After p.store w ∧ events = [] ∧ result = .error e ∧ v = m.world
  | (.ok tree, p, w) =>
      let (call, p, w) := p.run book ⟨tree, file⟩ w
      ∃ settled : Settled,
        Ends Call.poll p.store call w ms events (settled.map .document) v ∧
        result = settled.bind fun d => (p.stringify book d.tree d.file v).1.map d.file.holding

end Processor

/--
Nothing that is made depends on a stage behind one that did not succeed: not on
the transformers if parsing fails, and not on the compiler if the run fails.
-/
def Pipeline.FailsFast {α : Type} (p : Pipeline) (file : File)
    (run : Document → Option Settled) (made : Pipeline → α) : Prop :=
  ∀ later : Pipeline, later.parser = p.parser →
    (∀ e, p.parse file = .error e → made later = made p) ∧
    (later.transformers = p.transformers → ∀ tree, p.parse file = .ok tree →
      (∀ d, run ⟨tree, file⟩ ≠ some (.ok d)) → made later = made p)

/-! ## The run within -/

theorem enteredBy_of_failure {b : Bound} {e : ProcessorError} (h : b.Failure e) (entry : Entry) :
    e.enteredBy entry = e := by
  cases h <;> rfl

theorem runSync_enteredBy (entry : Entry) (store : Namespace.Handle) (transformers : List Bound)
    (d : Document) (w : World) :
    runSync entry store transformers d w =
      ((runSync .runSync store transformers d w).1.mapError (·.enteredBy entry),
        (runSync .runSync store transformers d w).2) := by
  induction transformers generalizing d w with
  | nil => rfl
  | cons b rest ih =>
      rw [runSync, runSync]
      cases invoked : b.invoke store d w with
      | mk invocation v =>
          cases invocation with
          | ready settled =>
              cases settled with
              | ok d' => exact ih d' v
              | error e =>
                  have failure := Bound.failure_of_invoke (congrArg Prod.fst invoked)
                  exact congrArg (Except.error ·, v) (enteredBy_of_failure failure entry).symm
          | task task => rfl
          | waiting cell => rfl

namespace Pipeline

variable {file : File} {w : World}

theorem parse_congr {p later : Pipeline} (same : later.parser = p.parser) (file : File) :
    later.parse file = p.parse file := by
  rw [parse, parse, same]

theorem failsFast_around (p : Pipeline) (run : List Bound → Document → Option Settled × World)
    {told : Document → Option Settled}
    (tells : ∀ d d', (run p.transformers d).1 = some (.ok d') → ∃ d', told d = some (.ok d')) :
    p.FailsFast file told fun later => later.around run file w := by
  intro later parser
  dsimp only
  constructor
  · intro e failed
    rw [around, around, parse_congr parser, failed]
  · intro transformers tree parsed failed
    rw [around, around, parse_congr parser, parsed, transformers]
    dsimp only
    rcases ran : (run p.transformers ⟨tree, file⟩).1 with _ | e | d
    · rfl
    · rfl
    · obtain ⟨d', success⟩ := tells _ _ ran
      exact absurd success (failed d')

/-- A run that may not suspend, as one that always comes to an end. -/
def atOnce (entry : Entry) (store : Namespace.Handle) (w : World) (transformers : List Bound)
    (d : Document) : Option Settled × World :=
  let (settled, w) := runSync entry store transformers d w
  (some settled, w)

theorem processSync_eq_around (p : Pipeline) (store : Namespace.Handle) (file : File)
    (w : World) :
    (some (p.processSync store file w).1, (p.processSync store file w).2) =
      p.around (atOnce .processSync store w) file w := by
  rw [processSync, around]
  cases p.parse file with
  | error e => rfl
  | ok tree =>
      dsimp only [atOnce]
      cases runSync .processSync store p.transformers ⟨tree, file⟩ w with
      | mk settled v => cases settled <;> rfl

theorem enteredBy_of_parse {p : Pipeline} {e : ProcessorError} (failed : p.parse file = .error e)
    (entry : Entry) : e.enteredBy entry = e := by
  unfold parse at failed
  split at failed
  · next parser _ =>
    cases parsed : parser.parse file.text file with
    | ok tree =>
        rw [parsed] at failed
        cases failed
    | error source =>
        rw [parsed] at failed
        cases failed
        rfl
  · cases failed

theorem enteredBy_of_finish {p : Pipeline} {d : Document} {e : ProcessorError}
    (failed : p.finish d = .error e) (entry : Entry) : e.enteredBy entry = e := by
  rw [finish_eq, stringify] at failed
  cases slot : p.compiler with
  | none =>
      rw [slot] at failed
      cases failed
  | some compiler =>
      cases compiled : compiler.compile d.tree d.file with
      | ok output =>
          simp only [slot, compiled] at failed
          cases failed
      | error source =>
          simp only [slot, compiled] at failed
          cases failed
          rfl

theorem mapError_finish (p : Pipeline) (d : Document) (entry : Entry) :
    (p.finish d).mapError (·.enteredBy entry) = p.finish d := by
  cases finished : p.finish d with
  | ok file => rfl
  | error e => exact congrArg Except.error (enteredBy_of_finish finished entry)

theorem around_enteredBy (p : Pipeline) (entry : Entry) (store : Namespace.Handle)
    (file : File) (w : World) :
    p.around (atOnce entry store w) file w =
      ((p.around (atOnce .runSync store w) file w).1.map (·.mapError (·.enteredBy entry)),
        (p.around (atOnce .runSync store w) file w).2) := by
  rw [around, around]
  cases parsed : p.parse file with
  | error e =>
      exact congrArg (fun e => (some (Except.error e), w)) (enteredBy_of_parse parsed entry).symm
  | ok tree =>
      simp only [atOnce, runSync_enteredBy entry store p.transformers ⟨tree, file⟩ w,
        Option.map_some]
      cases (runSync .runSync store p.transformers ⟨tree, file⟩ w).1 with
      | error e => rfl
      | ok d => exact congrArg (fun made => (some made, _)) (p.mapError_finish d entry).symm

end Pipeline

/-! ## A frozen processor -/

namespace Processor

variable {p : Processor} {pipeline : Pipeline}

theorem frozen_eq {α : Type} (frozen : p.state = .frozen pipeline) (book : Book) (w : World)
    (next : Pipeline → World → Except ProcessorError α × World) :
    p.frozen book w next = ((next pipeline w).1, p, (next pipeline w).2) := by
  rw [Processor.frozen, freeze_frozen book w frozen]

theorem inStages_eq_around (frozen : p.state = .frozen pipeline) (book : Book)
    {run : Processor → Document → World → Staged Document}
    (within : List Bound → Document → Option Settled × World) (file : File) (w : World)
    (runs : ∀ d, run p d w =
      ⟨(within pipeline.transformers d).1, p, (within pipeline.transformers d).2⟩) :
    p.inStages book run file w =
      ⟨(pipeline.around within file w).1, p, (pipeline.around within file w).2⟩ := by
  rw [inStages, parse, frozen_eq frozen, Pipeline.around]
  cases parsed : pipeline.parse file with
  | error e => rfl
  | ok tree =>
      dsimp only
      rw [runs]
      rcases within pipeline.transformers ⟨tree, file⟩ with ⟨_ | e | d, v⟩
      · rfl
      · rfl
      · dsimp only
        rw [stringify, frozen_eq frozen]
        cases output : pipeline.stringify d.tree d.file with
        | error e => simp [Pipeline.finish_eq, output, Except.bind, Except.map]
        | ok output' => simp [Pipeline.finish_eq, output, Except.bind, Except.map]

theorem runAtOnce_eq (frozen : p.state = .frozen pipeline) (book : Book) (d : Document)
    (w : World) :
    p.runAtOnce book d w =
      let ran := Pipeline.atOnce .runSync p.store w pipeline.transformers d
      ⟨ran.1, p, ran.2⟩ := by
  rw [runAtOnce, runSync, frozen_eq frozen]
  rfl

theorem runAwaited_eq (frozen : p.state = .frozen pipeline) (book : Book) (d : Document)
    (w : World) :
    p.runAwaited book d w =
      let ran := Run.drive ⟨p.store, pipeline.transformers, .at d⟩ w
      ⟨ran.1, p, ran.2⟩ := by
  rw [runAwaited, run, freeze_frozen book w frozen]
  rfl

theorem processAtOnce_eq_around (frozen : p.state = .frozen pipeline) (book : Book)
    (file : File) (w : World) :
    p.processAtOnce book file w =
      let fork := w.fork p.store
      let made := pipeline.around (Pipeline.atOnce .processSync fork.1 fork.2) file fork.2
      ⟨made.1, p, made.2⟩ := by
  have made := pipeline.processSync_eq_around (w.fork p.store).1 file (w.fork p.store).2
  rw [processAtOnce, processSync, frozen_eq frozen]
  dsimp only
  rw [← made]

theorem processAwaited_eq_around (frozen : p.state = .frozen pipeline) (book : Book)
    (file : File) (w : World) :
    p.processAwaited book file w =
      let fork := w.fork p.store
      let made := pipeline.around
        (fun transformers d => Run.drive ⟨fork.1, transformers, .at d⟩ fork.2) file fork.2
      ⟨made.1, p, made.2⟩ := by
  have reads : ∀ f, Outcome.file? (.file f) = some f := fun _ => rfl
  rw [processAwaited, process, freeze_frozen book w frozen]
  dsimp only
  rw [awaited, Call.drive_process]
  dsimp only
  rw [Outcome.reading_map reads]

theorem processAtOnce_staged (frozen : p.state = .frozen pipeline) (book : Book) (file : File)
    (w : World) :
    let clone := p.clone w
    let stages := clone.1.inStages book (runAtOnce book) file clone.2
    p.processAtOnce book file w =
      ⟨stages.result.map (·.mapError (·.enteredBy .processSync)), p, stages.world⟩ := by
  intro clone
  have cloned : clone.1.state = .frozen pipeline := frozen
  let within := Pipeline.atOnce .runSync clone.1.store clone.2
  rw [processAtOnce_eq_around frozen, inStages_eq_around cloned book within file clone.2
    fun d => runAtOnce_eq cloned book d clone.2]
  dsimp only
  rw [Pipeline.around_enteredBy]
  rfl

theorem processAwaited_staged (frozen : p.state = .frozen pipeline) (book : Book) (file : File)
    (w : World) :
    let clone := p.clone w
    let stages := clone.1.inStages book (runAwaited book) file clone.2
    p.processAwaited book file w = ⟨stages.result, p, stages.world⟩ := by
  intro clone
  have cloned : clone.1.state = .frozen pipeline := frozen
  let within (transformers : List Bound) (d : Document) :=
    Run.drive ⟨clone.1.store, transformers, .at d⟩ clone.2
  rw [processAwaited_eq_around frozen, inStages_eq_around cloned book within file clone.2
    fun d => runAwaited_eq cloned book d clone.2]
  rfl

theorem failsFast_processAtOnce (frozen : p.state = .frozen pipeline) (book : Book)
    (file : File) (w : World) :
    let clone := p.clone w
    pipeline.FailsFast file (fun d => (clone.1.runAtOnce book d clone.2).result) fun later =>
      let made := processAtOnce book ⟨.frozen later, p.store⟩ file w
      (made.result, made.world) := by
  intro clone
  have cloned : clone.1.state = .frozen pipeline := frozen
  have made (later : Pipeline) := processAtOnce_eq_around (p := ⟨.frozen later, p.store⟩) rfl
    book file w
  simp only [made, runAtOnce_eq cloned]
  refine pipeline.failsFast_around (Pipeline.atOnce .processSync clone.1.store clone.2) ?_
  intro d d' success
  rw [Pipeline.atOnce, runSync_enteredBy] at success
  cases settled :
      (DocPipeline.runSync .runSync clone.1.store pipeline.transformers d clone.2).1 with
  | ok d' => exact ⟨d', congrArg some settled⟩
  | error e =>
      rw [settled] at success
      cases success

theorem failsFast_processAwaited (frozen : p.state = .frozen pipeline) (book : Book)
    (file : File) (w : World) :
    let clone := p.clone w
    pipeline.FailsFast file (fun d => (clone.1.runAwaited book d clone.2).result) fun later =>
      let made := processAwaited book ⟨.frozen later, p.store⟩ file w
      (made.result, made.world) := by
  intro clone
  have cloned : clone.1.state = .frozen pipeline := frozen
  have made (later : Pipeline) := processAwaited_eq_around (p := ⟨.frozen later, p.store⟩) rfl
    book file w
  simp only [made, runAwaited_eq cloned]
  exact pipeline.failsFast_around (fun transformers d =>
    Run.drive ⟨clone.1.store, transformers, .at d⟩ clone.2) fun d d' success => ⟨d', success⟩

theorem map_stringify (frozen : p.state = .frozen pipeline) (book : Book) (d : Document)
    (w : World) :
    (p.stringify book d.tree d.file w).1.map d.file.holding = pipeline.finish d := by
  rw [stringify, frozen_eq frozen, Pipeline.finish_eq]

theorem endsInStages_iff (frozen : p.state = .frozen pipeline) (book : Book) (file : File)
    {w v : World} {ms : List Interval} {events : Journal} {result : Except ProcessorError File} :
    p.EndsInStages book file w ms events result v ↔
      match pipeline.parse file with
      | .error e =>
          ∃ m, ms = [m] ∧ m.After p.store w ∧ events = [] ∧ result = .error e ∧ v = m.world
      | .ok tree =>
          ∃ settled, Ends Run.poll p.store ⟨p.store, pipeline.transformers, .at ⟨tree, file⟩⟩ w
              ms events settled v ∧
            result = settled.bind pipeline.finish := by
  rw [EndsInStages, parse, frozen_eq frozen]
  cases parsed : pipeline.parse file with
  | error e => rfl
  | ok tree =>
      have called : p.run book ⟨tree, file⟩ w = (.run pipeline p.store ⟨tree, file⟩, p, w) := by
        rw [run, freeze_frozen book w frozen]
      simp only [called, map_stringify frozen, Call.run, Call.ends_running_iff]

/-- The processing of a file ends under the schedules under which the stages do, and alike. -/
theorem ends_process_iff (frozen : p.state = .frozen pipeline) (book : Book) (file : File)
    (w : World) {v : World} {ms : List Interval} {events : Journal}
    {outcome : Except ProcessorError Outcome} :
    let clone := p.clone w
    let made := p.process book file w
    Ends Call.poll clone.1.store made.1 made.2.2 ms events outcome v ↔
      ∃ result, clone.1.EndsInStages book file clone.2 ms events result v ∧
        outcome = result.map .file := by
  intro clone made
  have cloned : clone.1.state = .frozen pipeline := frozen
  have called : made = (.process pipeline clone.1.store file, p, clone.2) := by
    simp only [made, process, freeze_frozen book w frozen]
    rfl
  simp only [called, endsInStages_iff cloned]
  rw [Call.ends_process_iff]
  cases parsed : pipeline.parse file with
  | error e =>
      constructor
      · rintro ⟨m, rfl, after, rfl, rfl, rfl⟩
        exact ⟨.error e, ⟨m, rfl, after, rfl, rfl, rfl⟩, rfl⟩
      · rintro ⟨result, ⟨m, rfl, after, rfl, rfl, rfl⟩, rfl⟩
        exact ⟨m, rfl, after, rfl, rfl, rfl⟩
  | ok tree =>
      constructor
      · rintro ⟨settled, ends, rfl⟩
        exact ⟨_, ⟨settled, ends, rfl⟩, rfl⟩
      · rintro ⟨result, ⟨settled, ends, rfl⟩, rfl⟩
        exact ⟨settled, ends, rfl⟩

/-! ### What is left alone -/

theorem ne_fork {h : Namespace.Handle} {w : World} (valid : w.heap.Valid h) :
    h ≠ (w.fork p.store).1 := by
  rintro rfl
  exact (System.fresh_allocate w (w.data p.store)).1 valid

theorem data_processAtOnce (frozen : p.state = .frozen pipeline) (book : Book) (file : File)
    {w : World} {h : Namespace.Handle} (valid : w.heap.Valid h) :
    (p.processAtOnce book file w).world.data h = w.data h := by
  have forked : World.Confined (w.fork p.store).1 [] w (w.fork p.store).2 :=
    World.confined_allocate _
  rw [processAtOnce, processSync, frozen_eq frozen]
  exact (forked.trans_nil (pipeline.confined_processSync file)).data h valid (ne_fork valid)

theorem spares_processAwaited (frozen : p.state = .frozen pipeline) (book : Book) (file : File)
    {w : World} {h : Namespace.Handle} (valid : w.heap.Valid h) :
    World.Spares h w (p.processAwaited book file w).world := by
  have forked : World.Confined (w.fork p.store).1 [] w (w.fork p.store).2 :=
    World.confined_allocate _
  have other : h ≠ (w.fork p.store).1 := ne_fork valid
  rw [processAwaited, process, freeze_frozen book w frozen]
  exact ((World.Spares.refl valid).confined forked other).drive rfl other

end Processor

/--
Processing on a frozen processor is parsing, running and stringifying on a clone
of it, whether the run may suspend or not, and under whatever schedule.
-/
theorem processes_in_stages {p : Processor} {pipeline : Pipeline}
    (frozen : p.state = .frozen pipeline) (book : Book) (file : File) (w : World) :
    let clone := p.clone w
    let atOnce := p.processAtOnce book file w
    let awaited := p.processAwaited book file w
    let stages := clone.1.inStages book (Processor.runAtOnce book) file clone.2
    let awaitedStages := clone.1.inStages book (Processor.runAwaited book) file clone.2
    (atOnce.result = stages.result.map (·.mapError (·.enteredBy .processSync)) ∧
      atOnce.world = stages.world ∧
      pipeline.FailsFast file (fun d => (clone.1.runAtOnce book d clone.2).result)
        fun later =>
          let made := Processor.processAtOnce book ⟨.frozen later, p.store⟩ file w
          (made.result, made.world)) ∧
    (awaited.result = awaitedStages.result ∧
      awaited.world = awaitedStages.world ∧
      pipeline.FailsFast file (fun d => (clone.1.runAwaited book d clone.2).result)
        fun later =>
          let made := Processor.processAwaited book ⟨.frozen later, p.store⟩ file w
          (made.result, made.world)) ∧
    (∀ ms events outcome v,
      Ends Call.poll clone.1.store (p.process book file w).1 (p.process book file w).2.2
          ms events outcome v ↔
        ∃ result, clone.1.EndsInStages book file clone.2 ms events result v ∧
          outcome = result.map .file) ∧
    atOnce.processor = p ∧ awaited.processor = p ∧
    ∀ h, w.heap.Valid h → atOnce.world.data h = w.data h ∧
      ∃ fired, w.jobsOn h = fired ++ awaited.world.jobsOn h ∧
        (fired = [] → awaited.world.data h = w.data h) := by
  intro clone atOnce awaited stages awaitedStages
  have here : atOnce = _ := Processor.processAtOnce_staged frozen book file w
  have there : awaited = _ := Processor.processAwaited_staged frozen book file w
  refine ⟨⟨?_, ?_, Processor.failsFast_processAtOnce frozen book file w⟩,
    ⟨?_, ?_, Processor.failsFast_processAwaited frozen book file w⟩, ?_, ?_, ?_, ?_⟩
  · rw [here]
  · rw [here]
  · rw [there]
  · rw [there]
  · intro ms events outcome v
    exact Processor.ends_process_iff frozen book file w
  · rw [here]
  · rw [there]
  · intro h valid
    exact ⟨Processor.data_processAtOnce frozen book file valid,
      (Processor.spares_processAwaited frozen book file valid).fired⟩

/-! ## A pipeline that suspends -/

namespace Staging

def marking : Bound where
  index := 0
  plugin := "marking"
  transformer := .sync fun d => do
    let _ ← Work.insert "mark" .null
    return .ok { document := { d with file := d.file.warn "marked" none } }

def suspending : Bound where
  index := 1
  plugin := "suspending"
  transformer := .async fun d => do
    Suspending.suspend
    return .ok { document := d }

def pipeline : Pipeline where
  serial := 0
  registry := {}
  parser := some { parse := fun _ _ => .ok .root }
  compiler := some { compile := fun _ _ => .ok (.text "compiled") }
  transformers := [marking, suspending]

def processor : Processor := ⟨.frozen pipeline, ⟨0⟩⟩

def world : World := { heap := ⟨[{}]⟩, sealings := 1 }

def file : File := File.ofText "read"

def clone : Processor × World := processor.clone world

/-- The file once the marking transformer and the compiler are through with it. -/
def done : File := { contents := some (.text "compiled"), messages := [⟨"marked", none, false⟩] }

end Staging

/--
At once it fails behind the first transformer; awaited it succeeds, as the
stages do under the same schedule.
-/
theorem suspending_pipeline_in_stages :
    let atOnce := Staging.processor.processAtOnce {} Staging.file Staging.world
    let awaited := Staging.processor.processAwaited {} Staging.file Staging.world
    atOnce.result = some (.error (.asyncUsage .processSync 1 "suspending")) ∧
    awaited.result = some (.ok Staging.done) ∧
    (∃ ms events v,
      Staging.clone.1.EndsInStages {} Staging.file Staging.clone.2 ms events (.ok Staging.done) v) ∧
    atOnce.world.data ⟨0⟩ = {} ∧ awaited.world.data ⟨0⟩ = {} := by
  intro atOnce awaited
  obtain ⟨⟨result, -, -⟩, ⟨awaitedResult, -, -⟩, scheduled, -, -, kept⟩ :=
    processes_in_stages (p := Staging.processor) rfl {} Staging.file Staging.world
  obtain ⟨same, fired, none, awaitedSame⟩ := kept ⟨0⟩ Nat.one_pos
  have staged : (Staging.clone.1.inStages {} (Processor.runAwaited {}) Staging.file
      Staging.clone.2).result = some (.ok Staging.done) := by
    have parsed : Staging.clone.1.parse {} Staging.file Staging.clone.2 = (.ok .root, _, _) := rfl
    have called : Staging.clone.1.run {} ⟨.root, Staging.file⟩ Staging.clone.2 =
        (.run Staging.pipeline ⟨1⟩ ⟨.root, Staging.file⟩, _, _) := rfl
    have driven : (Call.run Staging.pipeline ⟨1⟩ ⟨.root, Staging.file⟩).drive Staging.clone.2 = _ :=
      (Call.drive_of_pending rfl rfl).trans (Call.drive_of_finished rfl rfl)
    simp only [Processor.inStages, parsed, Processor.runAwaited, called, Processor.awaited, driven]
    rfl
  have ends : ∃ ms events v, Staging.clone.1.EndsInStages {} Staging.file Staging.clone.2 ms events
      (.ok Staging.done) v := by
    have driven : (Call.process Staging.pipeline ⟨1⟩ Staging.file).drive Staging.clone.2 =
        (some (.ok (.file Staging.done)), _) :=
      (Call.drive_of_pending rfl rfl).trans (Call.drive_of_finished rfl rfl)
    obtain ⟨ms, events, ends⟩ := Ends.of_drive Staging.clone.1.store driven
    obtain ⟨result, ends, same⟩ := (scheduled ms events _ _).1 ends
    cases result <;> cases same
    exact ⟨ms, events, _, ends⟩
  exact ⟨result, awaitedResult.trans staged, ends, same,
    awaitedSame (List.append_eq_nil_iff.1 none.symm).1⟩

end DocPipeline
