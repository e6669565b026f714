import DocPipeline.CommandLine
import DocPipeline.Proofs.Staging

/-!
# The default pipeline

When neither a preset nor plugins are asked for, the command line assembles the
same processor every time.  It writes the paragraphs it has read, and leaves
everything else in the file alone.
-/

namespace DocPipeline.CommandLine

def defaultPlugins : Pluggable :=
  .list (["text_parse", "text_stringify"].map fun name => .ofPlugin (Builtin.plugin name))

def defaultRegistry : Registry where
  attachers := [
    ⟨Builtin.plugin "text_parse", [], true⟩,
    ⟨Builtin.plugin "text_stringify", [], true⟩]
  distinct := by decide

/-- The processor with the default plugins in use, and the world then. -/
def assembled : Processor × World :=
  (⟨.configuring { registry := defaultRegistry }, ⟨0⟩⟩, { heap := ⟨[{}]⟩ })

theorem basis_of_no_preset (catalog : Catalog) {a : Arguments} (h : a.preset = none) :
    basis catalog a = .done (.ok defaultPlugins) := by
  rw [basis, h]
  rfl

theorem assemble_of_no_plugin (catalog : Catalog) {a : Arguments} (h : a.plugins = []) :
    assemble catalog a defaultPlugins = .ok assembled := by
  rw [assemble, h]
  rfl

/-! ## Freezing -/

/-- The configuration once both plugins have had their turn. -/
def defaultConfiguration : Configuration where
  registry := defaultRegistry
  parser := some (Builtin.textParser false)
  compiler := some Builtin.textCompiler
  cursor := 2

def defaultPipeline : Pipeline := defaultConfiguration.seal 0

def defaultJournal : Journal := [.attached 0 "text_parse", .attached 1 "text_stringify"]

def sealedWorld : World := { heap := ⟨[{}]⟩, journal := defaultJournal, sealings := 1 }

def unattached : Setup := ⟨{ registry := defaultRegistry }, {}, []⟩

/-- The parser is in its slot, and the other plugin has its turn next. -/
def halfway : Setup where
  config := {
    registry := defaultRegistry
    parser := some (Builtin.textParser false)
    cursor := 1 }
  data := {}
  journal := [.attached 0 "text_parse"]

theorem attachPending_unattached :
    unattached.attachPending Builtin.book = (.ok (), ⟨defaultConfiguration, {}, defaultJournal⟩) := by
  have parse : unattached.attachOne Builtin.book ⟨Builtin.plugin "text_parse", [], true⟩ =
      (.ok (), halfway) := rfl
  have stringify : halfway.attachOne Builtin.book ⟨Builtin.plugin "text_stringify", [], true⟩ =
      (.ok (), ⟨defaultConfiguration, {}, defaultJournal⟩) := rfl
  rw [Setup.attachPending_of_ok rfl parse, Setup.attachPending_of_ok rfl stringify,
    Setup.attachPending_of_none rfl]

theorem freeze_assembled :
    assembled.1.freeze Builtin.book assembled.2 =
      (.ok defaultPipeline, ⟨.frozen defaultPipeline, ⟨0⟩⟩, sealedWorld) := by
  have sealed := Processor.freeze_sealed (p := assembled.1) (w := assembled.2) rfl
    attachPending_unattached
  exact sealed

/-! ## Processing -/

/-- The text with an empty line between its paragraphs, and no other blank lines. -/
def reflow (text : String) : String := Paragraph.compile (Paragraph.parse text false)

def reflowed (file : File) : File := { file with contents := some (.text (reflow file.text)) }

theorem text_reflowed (file : File) : (reflowed file).text = reflow file.text := by
  have text (s : String) : File.text { file with contents := some (.text s) } = s := rfl
  exact text (reflow file.text)

theorem reflowed_reflowed {file : File} (settled : reflow (reflow file.text) = reflow file.text) :
    reflowed (reflowed file) = reflowed file := by
  rw [reflowed, text_reflowed, settled]
  rfl

variable {run : List Bound → Document → Option Settled × World}

theorem around_defaultPipeline (idle : ∀ d, (run [] d).1 = some (.ok d)) (file : File)
    (w : World) : (defaultPipeline.around run file w).1 = some (.ok (reflowed file)) := by
  have parsed : defaultPipeline.parse file = .ok (Paragraph.parse file.text false) := rfl
  have none : defaultPipeline.transformers = [] := rfl
  rw [Pipeline.around, parsed, none]
  dsimp only
  rw [idle]
  rfl

theorem processSync_defaultPipeline (store : Namespace.Handle) (file : File) (w : World) :
    (defaultPipeline.processSync store file w).1 = .ok (reflowed file) := by
  have made := congrArg Prod.fst (defaultPipeline.processSync_eq_around store file w)
  exact Option.some.inj (made.trans (around_defaultPipeline (fun _ => rfl) file w))

theorem drive_defaultPipeline (store : Namespace.Handle) (file : File) (w : World) :
    ((Call.process defaultPipeline store file).drive w).1 =
      some (.ok (.file (reflowed file))) := by
  have idle (d : Document) : (Run.drive ⟨store, [], .at d⟩ w).1 = some (.ok d) := by
    rw [Run.drive_of_finished rfl]
  rw [Call.drive_process]
  dsimp only
  rw [around_defaultPipeline idle]
  rfl

theorem process_assembled (isSync : Bool) (file : File) :
    process Builtin.book isSync assembled file = .ok (reflowed file) := by
  rw [process]
  dsimp only
  cases isSync with
  | true =>
      rw [if_pos rfl, Processor.processSync, Processor.frozen, freeze_assembled]
      dsimp only
      rw [processSync_defaultPipeline]
      rfl
  | false =>
      rw [if_neg Bool.false_ne_true, Processor.process, freeze_assembled]
      dsimp only
      rw [drive_defaultPipeline]

end DocPipeline.CommandLine
