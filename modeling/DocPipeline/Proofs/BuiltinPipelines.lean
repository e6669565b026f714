import DocPipeline.Proofs.BuiltinPlugins
import DocPipeline.Proofs.OptionHistory
import DocPipeline.Proofs.PresetOptions
import DocPipeline.Proofs.Staging

/-!
# Pipelines of built-in plugins

However a processor is put together from built-in plugins, it freezes and
processes any file.  Only when words are counted can it not do so at once.
-/

namespace DocPipeline

namespace Processor

variable {p q : Processor} {pipeline : Pipeline} {book : Book} {w v : World}

theorem processAwaited_of_freeze (frozen : p.freeze book w = (.ok pipeline, q, v))
    (state : q.state = .frozen pipeline) (file : File) :
    p.processAwaited book file w = q.processAwaited book file v := by
  rw [processAwaited, process, frozen, processAwaited, process, freeze_frozen book v state]

theorem processSync_of_freeze (frozen : p.freeze book w = (.ok pipeline, q, v)) (file : File) :
    (p.processSync book file w).1 =
      (pipeline.processSync (v.fork p.store).1 file (v.fork p.store).2).1 := by
  rw [processSync, Processor.frozen, frozen]

end Processor

namespace Builtin

/-! ## Assembling -/

/-- A processor on which nothing but plugins of the built-in catalog has been used. -/
inductive Assembled : Processor → Prop
  | new (w : World) : Assembled (Processor.new w).1
  | use {p q : Processor} {what : Pluggable} {w v : World} (before : Assembled p)
      (known : ∀ a ∈ what.leaves, ∃ name, Catalog.builtin.get? name = some a.plugin)
      (used : p.use what w = (.ok q, v)) : Assembled q
  | freeze {p : Processor} (before : Assembled p) (w : World) :
      Assembled (p.freeze book w).2.1
  | clone {p : Processor} (before : Assembled p) (w : World) : Assembled (p.clone w).1
  | copy {p : Processor} (before : Assembled p) (w : World) : Assembled (p.copy w).1

/-- A preset document that resolves can be used on any processor. -/
theorem Assembled.use_resolved {p : Processor} {config : Preset.Config} {r : Catalog.Resolved}
    (before : Assembled p) (resolved : Catalog.builtin.resolve config = .ok r) (w : World) :
    ∃ q v, p.use r.toPluggable w = (.ok q, v) ∧ Assembled q := by
  obtain ⟨items, settings⟩ := Catalog.resolve_ok_iff.1 resolved
  obtain ⟨as, same, tells⟩ := Catalog.tells_of_resolved items
  have used := Processor.use_resolved settings as p w
  have known : ∀ a ∈ (Pluggable.preset (as.map Attacher.toUse) r.settings).leaves,
      ∃ name, Catalog.builtin.get? name = some a.plugin := by
    rw [Pluggable.leaves_preset]
    intro a ha
    have named : a.plugin ∈ config.plugins.filterMap fun spec =>
        Catalog.builtin.get? spec.pluginName := tells.plugins ▸ List.mem_map_of_mem ha
    obtain ⟨spec, -, found⟩ := List.mem_filterMap.1 named
    exact ⟨spec.pluginName, found⟩
  rw [Catalog.Resolved.toPluggable, same]
  exact ⟨_, _, used, before.use known used⟩

/-- A configuration whose attachers are all due. -/
structure Due (c : Configuration) : Prop extends Stocked c where
  cursor : c.cursor = 0
  transformers : c.transformers = []

theorem due_of_listed {r : Registry} (listed : ∀ a ∈ r.attachers, Listed a.plugin) :
    Due { registry := r } :=
  ⟨⟨listed, nofun, nofun⟩, rfl, rfl⟩

/-- The pipeline has the transformers of all its attachers. -/
structure Sealed (pipeline : Pipeline) : Prop where
  due : Due pipeline.reopen
  transformers : pipeline.transformers =
    Turn.contributions (pipeline.registry.attachers.map turn)

def Sound (p : Processor) : Prop :=
  match p.state with
  | .configuring c => Due c
  | .frozen pipeline => Sealed pipeline

variable {p : Processor} {pipeline : Pipeline}

theorem Sound.configuration (h : Sound p) : Due p.configuration := by
  obtain ⟨state, store⟩ := p
  cases state with
  | configuring c => exact h
  | frozen pipeline => exact h.due

theorem Sound.reopened (h : Sound p) : Due p.reopened := by
  obtain ⟨state, store⟩ := p
  cases state with
  | configuring c => exact ⟨⟨h.listed, h.parser, h.compiler⟩, rfl, rfl⟩
  | frozen pipeline => exact h.due

theorem Sound.registering (h : Sound p) {news : List Attacher}
    (listed : ∀ a ∈ news, Listed a.plugin) : Sound (p.registering news) := by
  have due := h.configuration
  refine ⟨⟨?_, due.parser, due.compiler⟩, due.cursor, due.transformers⟩
  intro a ha
  rcases Registry.plugin_of_mem_foldl_register ha with ⟨b, hb, same⟩ | ⟨b, hb, same⟩
  · rw [same]
    exact listed b hb
  · rw [same]
    exact due.listed b hb

/-- Freezing succeeds, and no attacher has changed the registry. -/
theorem Sound.exists_frozen (h : Sound p) (w : World) :
    ∃ pipeline v, p.freeze book w = (.ok pipeline, ⟨.frozen pipeline, p.store⟩, v) ∧
      Sealed pipeline ∧ pipeline.registry = p.registry := by
  obtain ⟨state, store⟩ := p
  cases state with
  | frozen pipeline => exact ⟨pipeline, w, Processor.freeze_frozen book w rfl, h, rfl⟩
  | configuring c =>
      have due : Due c := h
      let s : Setup := ⟨c, w.data store, w.journal⟩
      obtain ⟨t, attached, keeps, turns⟩ := attachPending_of_stocked (s := s) due.toStocked
      have stocked := keeps.stocked due.toStocked
      have none : s.config.Tells [] [] := Configuration.tells_nil due.cursor due.transformers
      obtain ⟨_, -, tells⟩ := Setup.attachPending_tells book none
      have registry : t.config.registry = c.registry := keeps.registry
      have all := tells.transformers
      rw [attached, turns, List.nil_append] at all
      refine ⟨_, _, Processor.freeze_sealed rfl attached, ⟨⟨?_, rfl, rfl⟩, ?_⟩, registry⟩
      · exact ⟨stocked.listed, stocked.parser, stocked.compiler⟩
      · have from_start : s.config.registry.attachers.drop s.config.cursor =
            t.config.registry.attachers := by
          rw [registry]
          exact congrArg c.registry.attachers.drop due.cursor
        rw [from_start] at all
        exact all

theorem Assembled.sound (h : Assembled p) : Sound p := by
  induction h with
  | new w => exact due_of_listed (List.forall_mem_nil _)
  | @use p q what w v before known used ih =>
      have wellFormed : what.malformed? = none := by
        by_contra bad
        obtain ⟨u, bad⟩ := Option.ne_none_iff_exists'.1 bad
        simp [Processor.use, Setup.use_eq, bad, Except.map] at used
      rw [Processor.use_of_wellFormed wellFormed] at used
      cases used
      refine ih.registering fun a ha => ?_
      obtain ⟨name, found⟩ := known a ha
      exact listed_of_get? found
  | freeze before w ih =>
      obtain ⟨pipeline, v, frozen, sealed, -⟩ := ih.exists_frozen w
      rw [frozen]
      exact sealed
  | clone before w ih => exact ih
  | copy before w ih => exact ih.reopened

/-! ## Transformers and attachers -/

/-- Words are counted by an enabled attacher at this place. -/
def CountsAt (r : Registry) (i : Nat) : Prop :=
  ∃ options, r.attachers[i]? = some ⟨plugin counter, options, true⟩

theorem Sealed.attacher (h : Sealed pipeline) {b : Bound} (hb : b ∈ pipeline.transformers) :
    ∃ a, pipeline.registry.attachers[b.index]? = some a ∧ a.enabled = true ∧
      b.plugin = a.plugin.name ∧ contribution? a.plugin.name a.options = some b.transformer := by
  rw [h.transformers] at hb
  obtain ⟨own, index, found, contributed⟩ := Turn.mem_of_indices _ hb
  obtain ⟨rfl, named, transformer⟩ := Turn.key_contribution? contributed
  rw [List.getElem?_map, Option.map_eq_some_iff] at found
  obtain ⟨a, found, rfl⟩ := found
  have on : a.enabled = true := (turn a).enabled (Option.isSome_of_eq_some transformer)
  have own : (if a.enabled then contribution? a.plugin.name a.options else none) =
    some b.transformer := transformer
  rw [if_pos on] at own
  exact ⟨a, found, on, named, own⟩

theorem Sealed.contributed (h : Sealed pipeline) : ∀ b ∈ pipeline.transformers, Contributed b := by
  intro b hb
  obtain ⟨a, -, -, named, contributed⟩ := h.attacher hb
  exact ⟨a.options, named ▸ contributed⟩

theorem Sealed.countsAt (h : Sealed pipeline) {b : Bound} (hb : b ∈ pipeline.transformers)
    (own : b.plugin = counter) : CountsAt pipeline.registry b.index := by
  obtain ⟨⟨q, options, enabled⟩, found, on, named, -⟩ := h.attacher hb
  obtain ⟨name, -, rfl⟩ := h.due.listed _ (List.mem_of_getElem? found)
  cases on
  cases own.symm.trans named
  exact ⟨options, found⟩

theorem Sealed.exists_counter (h : Sealed pipeline) {i : Nat}
    (counts : CountsAt pipeline.registry i) : ∃ b ∈ pipeline.transformers, b.plugin = counter := by
  obtain ⟨options, found⟩ := counts
  refine ⟨⟨i, counter, wordCount⟩, ?_, rfl⟩
  rw [h.transformers]
  refine List.mem_filterMap.2 ⟨(turn ⟨plugin counter, options, true⟩, i), ?_, rfl⟩
  rw [List.mk_mem_zipIdx_iff_getElem?, List.getElem?_map, found]
  rfl

theorem countsAt_unique {r : Registry} {i j : Nat} (hi : CountsAt r i) (hj : CountsAt r j) :
    i = j := by
  obtain ⟨_, hi⟩ := hi
  obtain ⟨_, hj⟩ := hj
  exact Registry.place_unique hj hi rfl

/-! ## Processing -/

theorem Sealed.exists_parsed (h : Sealed pipeline) (file : File) :
    ∃ tree, pipeline.parse file = .ok tree := by
  unfold Pipeline.parse
  cases slot : pipeline.parser with
  | none => exact ⟨_, rfl⟩
  | some parser =>
      obtain ⟨trim, rfl⟩ := h.due.parser parser slot
      exact ⟨_, rfl⟩

theorem Sealed.exists_compiled (h : Sealed pipeline) (d : Document) :
    ∃ out, pipeline.finish d = .ok out := by
  unfold Pipeline.finish Pipeline.stringify
  cases slot : pipeline.compiler with
  | none => exact ⟨_, rfl⟩
  | some compiler =>
      obtain rfl := h.due.compiler compiler slot
      exact ⟨_, rfl⟩

variable (h : Sealed pipeline) (store : Namespace.Handle) (file : File) (w : World)
include h

/-- If no words are counted, the file is the same for both entries. -/
theorem Sealed.exists_processed :
    ∃ out, (pipeline.around (fun transformers d => Run.drive ⟨store, transformers, .at d⟩ w)
        file w).1 = some (.ok out) ∧
      ((∀ i, ¬ CountsAt pipeline.registry i) →
        (pipeline.processSync store file w).1 = .ok out) := by
  obtain ⟨tree, parsed⟩ := h.exists_parsed file
  obtain ⟨d, v, finished⟩ := exists_finished h.contributed store ⟨tree, file⟩ w
  obtain ⟨out, compiled⟩ := h.exists_compiled d
  refine ⟨out, ?_, ?_⟩
  · rw [Pipeline.around, parsed]
    dsimp only
    rw [Run.drive_of_finished finished]
    exact congrArg some compiled
  · intro none
    have others : ∀ b ∈ pipeline.transformers, b.plugin ≠ counter := fun b hb own =>
      none b.index (h.countsAt hb own)
    obtain ⟨d', v', passes⟩ := exists_passes h.contributed others store ⟨tree, file⟩ w
    have advanced : Run.advance store (pipeline.transformers ++ []) ⟨tree, file⟩ w =
        (.finished (.ok d'), v') := passes.advance
    have settled : runSync .processSync store (pipeline.transformers ++ []) ⟨tree, file⟩ w =
        (.ok d', v') := passes.runSync
    rw [List.append_nil] at advanced settled
    obtain ⟨same, -⟩ := Prod.mk.inj (finished.symm.trans advanced)
    cases same
    rw [Pipeline.processSync, parsed]
    dsimp only
    rw [settled]
    exact compiled

theorem Sealed.processSync_of_countsAt {i : Nat} (counts : CountsAt pipeline.registry i) :
    (pipeline.processSync store file w).1 = .error (.asyncUsage .processSync i counter) := by
  obtain ⟨tree, parsed⟩ := h.exists_parsed file
  obtain ⟨c, hc, own⟩ := h.exists_counter counts
  have some : (pipeline.transformers.find? fun b => b.plugin == counter).isSome = true :=
    List.find?_isSome.2 ⟨c, hc, beq_iff_eq.2 own⟩
  obtain ⟨b, found⟩ := Option.isSome_iff_exists.1 some
  obtain ⟨own, before, after, split, first⟩ := List.find?_eq_some_iff_append.1 found
  have own := beq_iff_eq.1 own
  have here : b ∈ pipeline.transformers := List.mem_of_find?_eq_some found
  have place : b.index = i := countsAt_unique (h.countsAt here own) counts
  have stopped := runSync_counter (split ▸ h.contributed) (fun c hc => by simpa using first c hc)
    own .processSync store ⟨tree, file⟩ w
  rw [← split, place] at stopped
  rw [Pipeline.processSync, parsed]
  dsimp only
  cases ran : runSync .processSync store pipeline.transformers ⟨tree, file⟩ w with
  | mk settled v =>
      rw [ran] at stopped
      cases stopped
      rfl

end Builtin

open Builtin (Assembled CountsAt)

/--
Whatever built-in plugins a processor is assembled from, and with whatever options,
settings and switches, processing a file that is awaited succeeds.  Processing at
once fails only over the transformer that counts words, and gives the same file
whenever that one is not enabled.
-/
theorem builtin_pipelines_process {p : Processor} (assembled : Assembled p) (file : File)
    (w : World) :
    let sync := (p.processSync Builtin.book file w).1
    ∃ out, (p.processAwaited Builtin.book file w).result = some (.ok out) ∧
      ((∃ e, sync = .error e) ↔ ∃ i, CountsAt p.registry i) ∧
      (∀ i, CountsAt p.registry i →
        sync = .error (.asyncUsage .processSync i "word_count")) ∧
      ((∀ i, ¬ CountsAt p.registry i) → sync = .ok out) := by
  obtain ⟨pipeline, v, frozen, sealed, registry⟩ := assembled.sound.exists_frozen w
  obtain ⟨out, awaited, same⟩ := sealed.exists_processed (v.fork p.store).1 file (v.fork p.store).2
  have stopped {i : Nat} := sealed.processSync_of_countsAt (i := i) (v.fork p.store).1 file
    (v.fork p.store).2
  rw [registry] at same stopped
  dsimp only
  rw [Processor.processAwaited_of_freeze frozen rfl, Processor.processAwaited_eq_around rfl,
    Processor.processSync_of_freeze frozen]
  refine ⟨out, awaited, ?_, fun i => stopped, same⟩
  constructor
  · rintro ⟨e, failed⟩
    by_contra none
    have success := same (not_exists.1 none)
    rw [success] at failed
    cases failed
  · rintro ⟨i, counts⟩
    exact ⟨_, stopped counts⟩

namespace Assembling

def trimming : Value := .object (.ofList [("trim", .bool true)])

/-- A preset document that switches one of its plugins off again. -/
def config : Preset.Config where
  plugins := [
    .table "text_parse" [trimming] none,
    .name "uppercase",
    .name "annotate",
    .table "word_count" [] (some true),
    .table "uppercase" [] (some false)]
  settings := .object (.ofList [("text", trimming)])

def counting : Processor := (Processor.new {}).1.registering [
  ⟨Builtin.plugin "text_parse", [trimming], true⟩,
  ⟨Builtin.plugin "uppercase", [], true⟩,
  ⟨Builtin.plugin "annotate", [], true⟩,
  ⟨Builtin.plugin "word_count", [], true⟩,
  ⟨Builtin.plugin "uppercase", [], false⟩]

def switch : Pluggable := .switch (Builtin.plugin "word_count") false

def silenced : Processor := (counting.copy {}).1.registering switch.leaves

theorem assembled_counting : Assembled counting := by
  have resolved : Catalog.builtin.resolve config = .ok ⟨_, _⟩ := rfl
  obtain ⟨q, v, used, assembled⟩ := (Assembled.new {}).use_resolved resolved {}
  cases used
  exact assembled

theorem assembled_silenced : Assembled silenced := by
  have known : ∀ a ∈ switch.leaves, Catalog.builtin.get? a.plugin.name = some a.plugin := by
    decide
  exact .use (assembled_counting.copy {}) (fun a ha => ⟨_, known a ha⟩)
    (Processor.use_of_wellFormed (w := {}) rfl)

def file : File := .ofText " one two\n"

end Assembling

/-- The file is the same at once and awaited as soon as no words are counted. -/
theorem counting_fails_at_once :
    (∃ out, (Assembling.counting.processAwaited Builtin.book Assembling.file {}).result =
      some (.ok out)) ∧
    (Assembling.counting.processSync Builtin.book Assembling.file {}).1 =
      .error (.asyncUsage .processSync 3 "word_count") ∧
    ∃ out, (Assembling.silenced.processAwaited Builtin.book Assembling.file {}).result =
        some (.ok out) ∧
      (Assembling.silenced.processSync Builtin.book Assembling.file {}).1 = .ok out := by
  obtain ⟨out, awaited, -, stopped, -⟩ :=
    builtin_pipelines_process Assembling.assembled_counting Assembling.file {}
  obtain ⟨out', awaited', -, -, same⟩ :=
    builtin_pipelines_process Assembling.assembled_silenced Assembling.file {}
  refine ⟨⟨out, awaited⟩, stopped 3 ⟨[], rfl⟩, out', awaited', same ?_⟩
  rintro i ⟨options, found⟩
  have off : ∀ a ∈ Assembling.silenced.attachers,
      a.plugin = Builtin.plugin "word_count" → a.enabled = false := by decide
  exact Bool.noConfusion (off _ (List.mem_of_getElem? found) rfl)

end DocPipeline
