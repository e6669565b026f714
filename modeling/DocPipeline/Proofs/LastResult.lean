import DocPipeline.CommandLine
import DocPipeline.Proofs.BuiltinPipelines

/-!
# The result of a file that is processed again

Output that is text or bytes becomes the contents of the file, and its result
stays as it was.  Along a chain of calls that hands on the file, the result is
thus the last output that was neither, however many calls ago that was.
-/

namespace DocPipeline

/-! ## What one call does -/

/-- Without suspending, or awaited to the end. -/
inductive Manner where
  | atOnce
  | awaited

/-- A run over the transformers that is gone through in a manner, beginning in a world. -/
def Manner.run (m : Manner) (store : Namespace.Handle) (w : World) (transformers : List Bound)
    (d : Document) : Option Settled × World :=
  match m with
  | .atOnce => Pipeline.atOnce .processSync store w transformers d
  | .awaited => Run.drive ⟨store, transformers, .at d⟩ w

/-- What processes files: a processor, or a pipeline with a store to work on. -/
inductive Handler where
  | processor (book : Book) (p : Processor)
  | pipeline (p : Pipeline) (store : Namespace.Handle)

/-- The document that the run ends with, and what the compiler makes of it. -/
def Pipeline.compiled? (p : Pipeline) (run : List Bound → Document → Option Settled × World)
    (file : File) : Option (Document × Output) := do
  let tree ← (p.parse file).toOption
  let settled ← (run p.transformers ⟨tree, file⟩).1
  let d ← settled.toOption
  let output ← (p.stringify d.tree d.file).toOption
  return (d, output)

namespace Handler

/-- What comes of the file, unless the call stalls. -/
def process (handler : Handler) (m : Manner) (file : File) (w : World) :
    Option (Except ProcessorError File) :=
  match handler, m with
  | .processor book p, .atOnce => (p.processAtOnce book file w).result
  | .processor book p, .awaited => (p.processAwaited book file w).result
  | .pipeline p store, .atOnce => some (p.processSync store file w).1
  | .pipeline p store, .awaited =>
      Outcome.reading Outcome.file? ((Call.process p store file).drive w).1

/-- A processor freezes first and works on a fork of its namespace. -/
def compiled? (handler : Handler) (m : Manner) (file : File) (w : World) :
    Option (Document × Output) :=
  match handler with
  | .pipeline p store => p.compiled? (m.run store w) file
  | .processor book p =>
      match p.freeze book w with
      | (.error _, _, _) => none
      | (.ok frozen, q, v) =>
          let (store, v) := v.fork q.store
          frozen.compiled? (m.run store v) file

end Handler

variable {p q : Processor} {pipeline : Pipeline} {book : Book} {w v : World} {m : Manner}
  {file out : File}

theorem Pipeline.around_ok_iff {run : List Bound → Document → Option Settled × World} :
    (pipeline.around run file w).1 = some (.ok out) ↔
      ∃ d output, pipeline.compiled? run file = some (d, output) ∧ out = d.file.accept output := by
  rw [around, compiled?]
  cases pipeline.parse file with
  | error e => simp [Except.toOption]
  | ok tree =>
      rcases ran : (run pipeline.transformers ⟨tree, file⟩).1 with _ | e | d
      · simp [ran, Except.toOption]
      · simp [ran, Except.toOption, Except.bind]
      · cases compiled : pipeline.stringify d.tree d.file with
        | error e => simp [ran, finish, compiled, Except.toOption, Except.bind]
        | ok output =>
            simp [ran, finish, compiled, Except.toOption, Except.bind, eq_comm]

theorem Processor.frozen_of_freeze (h : p.freeze book w = (.ok pipeline, q, v)) :
    q.state = .frozen pipeline := by
  cases state : p.state with
  | frozen sealed =>
      rw [freeze_frozen book w state] at h
      cases h
      exact state
  | configuring c =>
      cases attached : Setup.attachPending book ⟨c, w.data p.store, w.journal⟩ with
      | mk result s =>
          cases result with
          | error e =>
              rw [freeze_failed state attached] at h
              cases h
          | ok u =>
              rw [freeze_sealed state attached] at h
              cases h
              rfl

namespace Handler

theorem process_pipeline (p : Pipeline) (store : Namespace.Handle) (m : Manner) (file : File)
    (w : World) : process (.pipeline p store) m file w =
      (p.around (m.run store w) file w).1 := by
  cases m with
  | atOnce => exact congrArg Prod.fst (p.processSync_eq_around store file w)
  | awaited =>
      have reads : ∀ f, Outcome.file? (.file f) = some f := fun _ => rfl
      rw [process, Call.drive_process]
      exact Outcome.reading_map reads _

theorem process_processor {sealed : Pipeline} (frozen : p.freeze book w = (.ok sealed, q, v))
    (m : Manner) (file : File) :
    let fork := v.fork q.store
    process (.processor book p) m file w =
      (sealed.around (m.run fork.1 fork.2) file fork.2).1 := by
  intro fork
  have state := Processor.frozen_of_freeze frozen
  cases m with
  | atOnce =>
      have store : q.store = p.store := by rw [← p.store_freeze book (w := w), frozen]
      have made := sealed.processSync_eq_around fork.1 file fork.2
      rw [process, Processor.processAtOnce]
      dsimp only
      rw [Processor.processSync_of_freeze frozen, ← store]
      exact congrArg Prod.fst made
  | awaited =>
      rw [process, Processor.processAwaited_of_freeze frozen state,
        Processor.processAwaited_eq_around state]
      rfl

theorem process_of_freeze_error {e : ProcessorError}
    (failed : p.freeze book w = (.error e, q, v)) (m : Manner) (file : File) :
    process (.processor book p) m file w = some (.error e) := by
  cases m with
  | atOnce => rw [process, Processor.processAtOnce, Processor.processSync, Processor.frozen, failed]
  | awaited =>
      have driven : (Call.failed e).drive v = (some (.error e), v) :=
        Call.drive_of_finished rfl rfl
      rw [process, Processor.processAwaited, Processor.process, failed, Processor.awaited]
      dsimp only
      rw [driven]
      rfl

/-- A call succeeds with what the file accepts of the output. -/
theorem process_ok_iff (handler : Handler) :
    handler.process m file w = some (.ok out) ↔
      ∃ d output, handler.compiled? m file w = some (d, output) ∧
        out = d.file.accept output := by
  cases handler with
  | pipeline p store => rw [process_pipeline, compiled?, Pipeline.around_ok_iff]
  | processor book p =>
      rw [compiled?]
      rcases frozen : p.freeze book w with ⟨e | sealed, q, v⟩
      · rw [process_of_freeze_error frozen]
        simp
      · rw [process_processor frozen]
        exact Pipeline.around_ok_iff

end Handler

/-! ## Chains of calls -/

/-- Output that is neither text nor bytes. -/
def Output.structured (output : Output) : Bool := output.contents?.isNone

def lastStructured? (outputs : List Output) : Option Output :=
  (outputs.filter Output.structured).getLast?

/-- The transformers of a call leave the result of the file as it is. -/
def Handler.Untouching (handler : Handler) (m : Manner) (file : File) (w : World) : Prop :=
  ∀ d output, handler.compiled? m file w = some (d, output) → d.file.result = file.result

/-- The file that comes of handing one on through calls with these outputs. -/
inductive Passed (start : File) : List Output → File → Prop
  | start : Passed start [] start
  | next {outputs : List Output} {file out : File} {handler : Handler} {m : Manner} {w : World}
      {d : Document} {output : Output} (before : Passed start outputs file)
      (success : handler.process m file w = some (.ok out))
      (untouching : handler.Untouching m file w)
      (compiled : handler.compiled? m file w = some (d, output)) :
      Passed start (outputs ++ [output]) out

/-- The file has a result exactly if the output is neither text nor bytes, and then it is that. -/
def File.Reports (file : File) (output : Output) : Prop :=
  (file.result.isSome ↔ output.structured) ∧ (output.structured → file.result = some output)

def Contents.toOutput : Contents → Output
  | .text s => .text s
  | .bytes bs => .bytes bs

/-- What is shown by a front end that prefers the result to the contents. -/
def File.shown? (file : File) : Option Output :=
  file.result.or (file.contents.map Contents.toOutput)

theorem Contents.toOutput_eq {contents : Contents} {output : Output}
    (h : output.contents? = some contents) : contents.toOutput = output := by
  cases output <;> cases h <;> rfl

namespace File

theorem result_accept (file : File) (output : Output) :
    (file.accept output).result = if output.structured then some output else file.result := by
  rw [accept, Output.structured]
  cases output.contents? <;> rfl

theorem contents_accept (file : File) {output : Output} {contents : Contents}
    (h : output.contents? = some contents) : (file.accept output).contents = some contents := by
  rw [accept, h]

theorem reports_iff {file : File} {output : Output} {stale : Option Output}
    (result : file.result = if output.structured then some output else stale) :
    file.Reports output ↔ output.structured ∨ stale = none := by
  cases structured : output.structured with
  | true => simp [Reports, result, structured]
  | false => cases stale <;> simp [Reports, result, structured]

theorem shown?_iff {file : File} {output : Output} {stale : Option Output}
    (result : file.result = if output.structured then some output else stale)
    (contents : ∀ contents, output.contents? = some contents → file.contents = some contents) :
    file.shown? = some output ↔ output.structured ∨ stale = none ∨ stale = some output := by
  cases structured : output.structured with
  | true => simp [shown?, result, structured]
  | false =>
      have plain : output.contents?.isSome := by simpa [Output.structured] using structured
      obtain ⟨own, h⟩ := Option.isSome_iff_exists.1 plain
      have here := contents own h
      cases stale <;> simp [shown?, result, structured, here, Contents.toOutput_eq h]

end File

theorem lastStructured?_concat (outputs : List Output) (output : Output) :
    lastStructured? (outputs ++ [output]) =
      if output.structured then some output else lastStructured? outputs := by
  rw [lastStructured?, List.filter_append]
  cases structured : output.structured <;> simp [structured, lastStructured?]

theorem lastStructured?_eq_none_iff {outputs : List Output} :
    lastStructured? outputs = none ↔ ∀ o ∈ outputs, o.structured = false := by
  simp [lastStructured?]

variable {start : File} {outputs : List Output} {handler : Handler} {d : Document}
  {output : Output}

/-- Output of the other kind leaves the result that the file has brought along. -/
theorem Handler.result_of_process (success : handler.process m file w = some (.ok out))
    (untouching : handler.Untouching m file w)
    (compiled : handler.compiled? m file w = some (d, output)) :
    out.result = if output.structured then some output else file.result := by
  obtain ⟨d', output', compiled', rfl⟩ := handler.process_ok_iff.1 success
  rw [compiled] at compiled'
  cases compiled'
  rw [File.result_accept, untouching d output compiled]

theorem Passed.result (chain : Passed start outputs file) :
    file.result = (lastStructured? outputs).or start.result := by
  induction chain with
  | start => rfl
  | next before success untouching compiled ih =>
      rw [Handler.result_of_process success untouching compiled, lastStructured?_concat, ih]
      split <;> rfl

/--
After each call of a chain the result is the output if that is neither text nor
bytes, and otherwise what it was before: the last such output of an earlier call,
or what the file had at first.  So the result belongs to the call exactly if there
was none to stay, and only then does a front end that prefers the result show the
output, unless what stayed happens to be the same.
-/
theorem result_outlives_calls (before : Passed start outputs file)
    (success : handler.process m file w = some (.ok out))
    (untouching : handler.Untouching m file w) :
    ∃ d output, handler.compiled? m file w = some (d, output) ∧
      (∀ contents, output.contents? = some contents → out.contents = some contents) ∧
      let stale := (lastStructured? outputs).or start.result
      out.result = (if output.structured then some output else stale) ∧
      (stale = none ↔ start.result = none ∧ ∀ o ∈ outputs, o.structured = false) ∧
      (out.Reports output ↔ output.structured ∨ stale = none) ∧
      (out.shown? = some output ↔ output.structured ∨ stale = none ∨ stale = some output) := by
  obtain ⟨d, output, compiled, same⟩ := handler.process_ok_iff.1 success
  have wrote : ∀ contents, output.contents? = some contents → out.contents = some contents :=
    fun contents h => by rw [same, File.contents_accept d.file h]
  refine ⟨d, output, compiled, wrote, ?_⟩
  intro stale
  have result := Handler.result_of_process success untouching compiled
  rw [before.result] at result
  refine ⟨result, ?_, ?_, ?_⟩
  · rw [Option.or_eq_none_iff, lastStructured?_eq_none_iff, and_comm]
  · exact File.reports_iff result
  · exact File.shown?_iff result wrote

namespace Reprocessed

/-- It parses, and has no compiler. -/
def parsing : Handler := .processor {} ⟨.frozen {
  serial := 0
  registry := {}
  parser := some { parse := fun document _ => .ok (.text document) }
  compiler := none
  transformers := [] }, ⟨0⟩⟩

/-- It compiles to a text. -/
def compiling : Handler := .processor {} ⟨.frozen {
  serial := 1
  registry := {}
  parser := none
  compiler := some { compile := fun _ _ => .ok (.text "compiled") }
  transformers := [] }, ⟨0⟩⟩

def world : World := { heap := ⟨[{}]⟩, sealings := 2 }

def fresh : File := File.ofText "read"

def parsed : File := { fresh with result := some (.tree (.text "read")) }

def done : File := { parsed with contents := some (.text "compiled") }

theorem chain : Passed fresh [.tree (.text "read")] parsed := by
  have untouching : parsing.Untouching .atOnce fresh world := by
    rintro d output ⟨⟩
    rfl
  exact .next .start rfl untouching rfl

theorem untouching : compiling.Untouching .atOnce parsed world := by
  rintro d output ⟨⟩
  rfl

end Reprocessed

theorem tree_outlives_text :
    Reprocessed.compiling.process .atOnce Reprocessed.parsed Reprocessed.world =
      some (.ok Reprocessed.done) ∧
    Reprocessed.done.result = some (.tree (.text "read")) ∧
    Reprocessed.done.contents = some (.text "compiled") := by
  have success : Reprocessed.compiling.process .atOnce Reprocessed.parsed Reprocessed.world =
      some (.ok Reprocessed.done) := rfl
  obtain ⟨d, output, compiled, wrote, result, -⟩ :=
    result_outlives_calls Reprocessed.chain success Reprocessed.untouching
  cases compiled
  exact ⟨success, result, wrote _ rfl⟩

/-- The file has been compiled to a text, and what is shown is the tree from the call before. -/
theorem tree_shown_for_text :
    Passed Reprocessed.fresh [.tree (.text "read")] Reprocessed.parsed ∧
    Reprocessed.compiling.process .atOnce Reprocessed.parsed Reprocessed.world =
      some (.ok Reprocessed.done) ∧
    Reprocessed.compiling.Untouching .atOnce Reprocessed.parsed Reprocessed.world ∧
    (∃ d, Reprocessed.compiling.compiled? .atOnce Reprocessed.parsed Reprocessed.world =
      some (d, .text "compiled")) ∧
    ¬ Reprocessed.done.Reports (.text "compiled") ∧
    Reprocessed.done.shown? = some (.tree (.text "read")) ∧
    CommandLine.render Reprocessed.done = CommandLine.render Reprocessed.parsed := by
  refine ⟨Reprocessed.chain, rfl, Reprocessed.untouching, ⟨_, rfl⟩, ?_, rfl, rfl⟩
  rintro ⟨present, -⟩
  exact absurd (present.1 rfl) (by decide)

end DocPipeline
