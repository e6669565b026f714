import DocPipeline.Proofs.BuiltinEffects
import DocPipeline.Proofs.MaximalRuns
import DocPipeline.Proofs.TrimmedTexts

/-!
# Trimming while parsing, or afterwards

A document that is parsed and then trimmed gives the tree that trimming while
parsing gives: no paragraph becomes empty, so none is dropped.  Hence the option
of the parser and the plugin behind it come to the same.
-/

namespace DocPipeline

namespace Paragraph

open Text (trimChars)

/-! ## Documents -/

theorem map_trimChars_texts (document : List Char) (trim : Bool) :
    (texts document trim).map trimChars = texts document true := by
  rw [texts, texts, List.map_map]
  refine List.map_congr_left fun run _ => ?_
  cases trim with
  | false => rfl
  | true => exact Text.trimChars_trimChars _

theorem ne_nil_of_mem_texts {document text : List Char} {trim : Bool}
    (h : text ∈ texts document trim) : text ≠ [] := by
  rw [texts_eq_map_textOf] at h
  obtain ⟨run, hrun, rfl⟩ := List.mem_map.1 h
  exact (isRun_of_mem_runsOf document run hrun).textOf_ne_nil trim

theorem trimText_parse (document : String) (trim : Bool) :
    (parse document trim).trimText = parse document true := by
  have each (cs : List Char) : (ofText (String.ofList cs)).mapText Text.trim =
      ofText (String.ofList (trimChars cs)) := by
    rw [mapText_ofText, Text.trim, String.toList_ofList]
  have trimmed : (parse document trim).children.map (Node.mapText Text.trim) =
      (texts document.toList true).map fun text => ofText (String.ofList text) := by
    rw [parse, Node.children_setChildren, List.map_map, ← map_trimChars_texts _ trim, List.map_map]
    exact List.map_congr_left fun text _ => each text
  have kept : ∀ child ∈ (texts document.toList true).map fun text => ofText (String.ofList text),
      child.keeps = true := by
    refine List.forall_mem_map.2 fun text htext => ?_
    simpa [keeps_ofText] using ne_nil_of_mem_texts htext
  rw [Node.trimText_eq, trimmed, List.filter_eq_self.2 kept, parse, Node.mapText_setChildren,
    Node.setChildren_setChildren, Node.mapValue_of_none Text.trim rfl, parse]

end Paragraph

/-! ## Pipelines -/

theorem Pipeline.finish_congr {p q : Pipeline} (same : p.compiler = q.compiler) (d : Document) :
    p.finish d = q.finish d := by
  rw [finish, finish, stringify, stringify, same]

namespace Builtin

def parsing (options : List Value) : Attacher := ⟨plugin "text_parse", options, true⟩

def trimming (options : List Value) : Attacher := ⟨plugin "trim", options, true⟩

variable {c : Configuration} {options : List Value} {rest : List Attacher}

theorem parser?_of_other {a : Attacher} (listed : Listed a.plugin)
    (other : a.identity ≠ (parsing options).identity) (settings : Option Object) :
    parser? settings a = none := by
  obtain ⟨own, options, enabled⟩ := a
  obtain ⟨name, -, rfl⟩ : Listed own := listed
  unfold parser?
  split
  · split
    · next same =>
        have same : name = "text_parse" := same
        exact absurd (same ▸ rfl) other
    · rfl
  · rfl

/-- The parser that stands first is the one that is used. -/
theorem slot_parsing {r : Registry} (listed : ∀ a ∈ r.attachers, Listed a.plugin)
    (own : r.attachers = parsing options :: rest) (settings : Option Object)
    (before : Option Parser) :
    slot (parser? settings) before r.attachers =
      some (textParser (wantsTrim options settings)) := by
  have distinct := r.distinct
  rw [own, List.map_cons, List.nodup_cons] at distinct
  rw [own] at listed ⊢
  have first : slot (parser? settings) before (parsing options :: rest) =
      slot (parser? settings) (some (textParser (wantsTrim options settings))) rest := rfl
  rw [first]
  refine slot_of_none (fun a ha => ?_) _
  have other : a.identity ≠ (parsing options).identity := by
    intro same
    exact distinct.1 (same ▸ List.mem_map_of_mem ha)
  exact parser?_of_other (listed a (List.mem_cons_of_mem _ ha)) other settings

/-- Words are counted by one of these attachers. -/
def Counted (as : List Attacher) : Prop := ∃ options, ⟨plugin counter, options, true⟩ ∈ as

theorem exists_countsAt_iff {r : Registry} : (∃ i, CountsAt r i) ↔ Counted r.attachers := by
  simp only [CountsAt, Counted, List.mem_iff_getElem?]
  exact exists_comm

theorem counted_cons {a : Attacher} (other : a.plugin ≠ plugin counter) :
    Counted (a :: rest) ↔ Counted rest := by
  refine exists_congr fun options => ?_
  rw [List.mem_cons, or_iff_right]
  rintro rfl
  exact other rfl

theorem exists_outcome (due : Due c) (own : c.registry.attachers = parsing options :: rest)
    (store : Namespace.Handle) (file : File) (w : World) :
    let p : Processor := ⟨.configuring c, store⟩
    let tree := Paragraph.parse file.text (wantsTrim options (w.data store).settings?)
    ∃ (pipeline : Pipeline) (out : File),
      pipeline.compiler = slot compiler? c.compiler rest ∧
      pipeline.finish (rest.foldl (fun d a => worked a d) ⟨tree, file⟩) = .ok out ∧
      (p.processAwaited book file w).result = some (.ok out) ∧
      ∀ made, (p.processSync book file w).1 = .ok made ↔ made = out ∧ ¬ Counted rest := by
  intro p tree
  obtain ⟨pipeline, v, frozen, sealed, registry, parser, compiler⟩ := due.exists_frozen store w
  have attachers : pipeline.registry.attachers = parsing options :: rest := by
    rw [registry, own]
  have parsed : pipeline.parse file = .ok tree := by
    rw [Pipeline.parse, parser, slot_parsing due.listed own]
    rfl
  obtain ⟨out, awaited, atOnce⟩ :=
    sealed.exists_processed (v.fork store).1 file (v.fork store).2
  have told := sealed.around parsed (v.fork store).1 (v.fork store).2
  rw [awaited, attachers, List.foldl_cons] at told
  have counts : (∃ i, CountsAt pipeline.registry i) ↔ Counted rest := by
    rw [exists_countsAt_iff, attachers]
    exact counted_cons (show plugin "text_parse" ≠ plugin counter by decide)
  refine ⟨pipeline, out, ?_, (Option.some.inj told).symm, ?_, ?_⟩
  · rw [compiler, own]
    rfl
  · rw [Processor.processAwaited_of_freeze frozen rfl, Processor.processAwaited_eq_around rfl]
    exact awaited
  · intro made
    rw [Processor.processSync_of_freeze frozen, ← counts]
    by_cases counted : ∃ i, CountsAt pipeline.registry i
    · have stopped := sealed.processSync_of_countsAt (v.fork store).1 file (v.fork store).2
        counted.choose_spec
      simp [stopped, counted]
    · rw [atOnce (not_exists.1 counted)]
      simp [counted, eq_comm]

end Builtin

open Builtin (Due parsing trimming wantsTrim)

open Paragraph (parse)

/--
The trimming transformer makes of any parsed document the tree that is parsed with
trimming.  So a parser that trims and any parser of paragraphs with the plugin that
trims behind it give the same file for every document, whatever built-in plugins
follow, and whether it is processed at once or awaited.
-/
theorem trim_option_agrees (d : String) :
    (∀ trim index plugin store file w,
      (Bound.invoke ⟨index, plugin, Builtin.trim⟩ store ⟨parse d trim, file⟩ w).1 =
        .ready (.ok ⟨parse d true, file⟩)) ∧
    ∀ {c c' : Configuration} {options others ignored : List Value} {rest : List Attacher}
      (store : Namespace.Handle) (w : World) (file : File),
      Due c → Due c' → c'.compiler = c.compiler →
      c.registry.attachers = parsing options :: rest →
      c'.registry.attachers = parsing others :: trimming ignored :: rest →
      wantsTrim options (w.data store).settings? = true → file.text = d →
      let p : Processor := ⟨.configuring c, store⟩
      let q : Processor := ⟨.configuring c', store⟩
      ∃ out, (p.processAwaited Builtin.book file w).result = some (.ok out) ∧
        (q.processAwaited Builtin.book file w).result = some (.ok out) ∧
        ∀ made, (p.processSync Builtin.book file w).1 = .ok made ↔
          (q.processSync Builtin.book file w).1 = .ok made := by
  refine ⟨?_, ?_⟩
  · intro trim index plugin store file w
    rw [← Paragraph.trimText_parse d trim]
    exact Builtin.invoke_editTree ..
  · rintro c c' options others ignored rest store w file due due' slots alone followed on rfl
    obtain ⟨pipeline, out, compiler, finished, awaited, atOnce⟩ :=
      Builtin.exists_outcome due alone store file w
    obtain ⟨pipeline', out', compiler', finished', awaited', atOnce'⟩ :=
      Builtin.exists_outcome due' followed store file w
    have same : pipeline'.compiler = pipeline.compiler := by
      rw [compiler', slots, compiler]
      rfl
    have trimmed (tree : Node) :
        Builtin.worked (trimming ignored) ⟨tree, file⟩ = ⟨tree.trimText, file⟩ := rfl
    -- what is behind the plugin finds the same tree as behind the parser that trims
    rw [List.foldl_cons, trimmed, Paragraph.trimText_parse, Pipeline.finish_congr same] at finished'
    rw [on, finished'] at finished
    cases finished
    have counted : Builtin.Counted (trimming ignored :: rest) ↔ Builtin.Counted rest :=
      Builtin.counted_cons (show Builtin.plugin "trim" ≠ Builtin.plugin "word_count" by decide)
    refine ⟨out, awaited, awaited', fun made => ?_⟩
    rw [atOnce, atOnce', counted]

namespace Padded

def document : String := " one\r\n\u00a0\n\n\u2003two "

def stringifying : Attacher := ⟨Builtin.plugin "text_stringify", [], true⟩

def alone : Configuration where
  registry := ⟨[parsing [Assembling.trimming], stringifying], by decide⟩

def followed : Configuration where
  registry := ⟨[parsing [], trimming [], stringifying], by decide⟩

theorem due_alone : Due alone := by
  refine Builtin.due_of_listed ?_
  unfold Builtin.Listed
  decide

theorem due_followed : Due followed := by
  refine Builtin.due_of_listed ?_
  unfold Builtin.Listed
  decide

end Padded

theorem padded_document_agrees :
    let w : World := { heap := ⟨[{}]⟩ }
    let p : Processor := ⟨.configuring Padded.alone, ⟨0⟩⟩
    let q : Processor := ⟨.configuring Padded.followed, ⟨0⟩⟩
    let file := File.ofText Padded.document
    wantsTrim [] (w.data ⟨0⟩).settings? = false ∧
    ∃ out, (p.processAwaited Builtin.book file w).result = some (.ok out) ∧
      (q.processAwaited Builtin.book file w).result = some (.ok out) := by
  intro w p q file
  obtain ⟨-, agree⟩ := trim_option_agrees Padded.document
  obtain ⟨out, awaited, awaited', -⟩ := agree ⟨0⟩ w file Padded.due_alone Padded.due_followed
    rfl rfl rfl rfl rfl
  exact ⟨rfl, out, awaited, awaited'⟩

end DocPipeline
