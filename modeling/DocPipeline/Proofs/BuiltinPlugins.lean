import DocPipeline.Proofs.Folding
import DocPipeline.Proofs.Resolving
import DocPipeline.Proofs.SyncAgreement
import DocPipeline.Proofs.Turns

/-!
# What the built-in plugins do

Attaching a built-in plugin never fails: it fills a slot or contributes a
transformer, and leaves the registry alone.  No transformer of theirs fails
either, and only the one that counts words is not settled as soon as it is invoked.
-/

namespace DocPipeline

namespace Configuration

variable {c : Configuration} {a : Attacher}

theorem drop_of_next?_none (next : c.next? = none) : c.registry.attachers.drop c.cursor = [] :=
  List.drop_eq_nil_iff.2 (List.getElem?_eq_none_iff.1 next)

theorem drop_of_next?_some (next : c.next? = some a) :
    c.registry.attachers.drop c.cursor = a :: c.registry.attachers.drop (c.cursor + 1) := by
  obtain ⟨inside, own⟩ := List.getElem?_eq_some_iff.1 next
  rw [List.drop_eq_getElem_cons inside, own]

end Configuration

namespace Builtin

/-! ## Attaching -/

/-- The transformer that comes from a name and options, if one does. -/
def contribution? (name : String) (options : List Value) : Option Transformer :=
  match name with
  | "uppercase" => some uppercase
  | "trim" => some trim
  | "word_count" => some wordCount
  | "annotate" => some (annotate options)
  | _ => none

/-- The turn of an attacher, whatever the setup is. -/
def turn (a : Attacher) : Turn where
  attacher := a
  transformer := if a.enabled then contribution? a.plugin.name a.options else none
  enabled some := by
    by_contra off
    simp [off] at some

/-- One of the plugins of the built-in catalog. -/
def Listed (p : Plugin) : Prop := ∃ name ∈ names, p = plugin name

theorem listed_of_get? {name : String} {p : Plugin} (h : Catalog.builtin.get? name = some p) :
    Listed p := by
  have history : Catalog.builtin =
      Catalog.ofHistory (names.map fun name => (name, plugin name)) := by
    rw [Catalog.ofHistory, List.foldl_map]
    rfl
  rw [history, Catalog.get?_ofHistory, List.lookup_eq_some_iff] at h
  obtain ⟨before, after, split, -⟩ := h
  have entry : (name, p) ∈ (names.map fun name => (name, plugin name)).reverse :=
    split ▸ List.mem_append_right before List.mem_cons_self
  obtain ⟨own, hown, same⟩ := List.mem_map.1 (List.mem_reverse.1 entry)
  cases same
  exact ⟨name, hown, rfl⟩

/-- All plugins are listed, and what is in the slots comes from them. -/
structure Stocked (c : Configuration) : Prop where
  listed : ∀ a ∈ c.registry.attachers, Listed a.plugin
  parser : ∀ parser ∈ c.parser, ∃ trim, parser = textParser trim
  compiler : ∀ compiler ∈ c.compiler, compiler = textCompiler

/-- The registry stays, and the slots are filled with nothing else. -/
structure Keeps (s t : Setup) : Prop where
  registry : t.config.registry = s.config.registry
  stocked : Stocked s.config → Stocked t.config

theorem Keeps.refl (s : Setup) : Keeps s s := ⟨rfl, id⟩

theorem run_behaviour {name : String} (h : name ∈ names) (index : Nat) (options : List Value)
    (s : Setup) :
    ∃ t, (book.behaviour (plugin name).identity index name options).run Attach.handle s =
      (.ok (contribution? name options), t) ∧ Keeps s t := by
  simp only [names, behaviours, List.map_cons, List.map_nil, List.mem_cons, List.not_mem_nil,
    or_false] at h
  rcases h with rfl | rfl | rfl | rfl | rfl | rfl
  · refine ⟨_, rfl, rfl, fun stocked => ⟨stocked.listed, ?_, stocked.compiler⟩⟩
    rintro parser own
    cases own
    exact ⟨_, rfl⟩
  · refine ⟨_, rfl, rfl, fun stocked => ⟨stocked.listed, stocked.parser, ?_⟩⟩
    rintro compiler own
    cases own
    rfl
  all_goals exact ⟨s, rfl, .refl s⟩

variable {s : Setup} {a : Attacher}

theorem attach_of_listed (listed : Listed a.plugin) (s : Setup) :
    ∃ t, s.attach book a = (.ok (contribution? a.plugin.name a.options), t) ∧ Keeps s t := by
  obtain ⟨own, options, enabled⟩ := a
  obtain ⟨name, known, rfl⟩ : Listed own := listed
  obtain ⟨t, ran, keeps⟩ := run_behaviour known s.config.cursor options
    ({ s with config := s.config.advance }.record (.attached s.config.cursor name))
  exact ⟨t, ran, keeps.registry, fun stocked =>
    keeps.stocked ⟨stocked.listed, stocked.parser, stocked.compiler⟩⟩

theorem turn_of_listed (listed : Listed a.plugin) (s : Setup) : s.turn book a = turn a := by
  obtain ⟨t, attached, -⟩ := attach_of_listed listed s
  simp only [Setup.turn, turn, attached]

theorem attachOne_of_listed (listed : Listed a.plugin) (s : Setup) :
    ∃ t, s.attachOne book a = (.ok (), t) ∧ Keeps s t := by
  cases on : a.enabled with
  | false =>
      refine ⟨{ s with config := s.config.advance }, by simp [Setup.attachOne, on], rfl, ?_⟩
      exact fun stocked => ⟨stocked.listed, stocked.parser, stocked.compiler⟩
  | true =>
      obtain ⟨t, attached, keeps⟩ := attach_of_listed listed s
      rw [Setup.attachOne_of_enabled on, attached]
      cases contribution? a.plugin.name a.options with
      | none => exact ⟨t, rfl, keeps⟩
      | some transformer =>
          refine ⟨_, rfl, keeps.registry, fun stocked => ?_⟩
          have stocked := keeps.stocked stocked
          exact ⟨stocked.listed, stocked.parser, stocked.compiler⟩

/-- All attachers that are due have their turns, and none of them fails. -/
theorem attachPending_of_stocked (stocked : Stocked s.config) :
    ∃ t, s.attachPending book = (.ok (), t) ∧ Keeps s t ∧
      s.turns book = (s.config.registry.attachers.drop s.config.cursor).map turn := by
  -- the induction is on the turns; none of them changes the registry, so the
  -- attachers that are still due stay the same
  generalize hbook : book = b
  fun_induction Setup.attachPending b s with
  | case1 s next =>
      refine ⟨s, rfl, .refl s, ?_⟩
      rw [Setup.turns_of_none next, Configuration.drop_of_next?_none next, List.map_nil]
  | case2 s a next t one ih =>
      subst hbook
      have listed := stocked.listed a (List.mem_of_getElem? next)
      obtain ⟨t', one', keeps⟩ := attachOne_of_listed listed s
      obtain rfl : t' = t := congrArg Prod.snd (one'.symm.trans one)
      obtain ⟨u, attached, kept, turns⟩ := ih (keeps.stocked stocked)
      have cursor := s.cursor_attachOne book a
      rw [one] at cursor
      refine ⟨u, attached, ⟨kept.registry.trans keeps.registry,
        fun _ => kept.stocked (keeps.stocked stocked)⟩, ?_⟩
      rw [Setup.turns_of_ok next one, turns, turn_of_listed listed,
        Configuration.drop_of_next?_some next, List.map_cons, cursor, keeps.registry]
  | case3 s a next e t one =>
      subst hbook
      obtain ⟨t', one', -⟩ := attachOne_of_listed (stocked.listed a (List.mem_of_getElem? next)) s
      rw [one] at one'
      cases one'

end Builtin

/-! ## Invoking -/

namespace Bound

variable {b : Bound}

/-- The first call made through the handle is accepted. -/
theorem complete_entered (b : Bound) (store : Namespace.Handle) (w : World)
    (result : Completed) :
    ((b.entered w).calling store w.cells.length (.now (.complete result))).1 = .ok () := by
  have told := (b.entered_tells w).calling store (.now (.complete result))
  exact told.2.answers 0 _ rfl

/-- A callback that calls its handle once and returns the answer is settled at once. -/
theorem invoke_of_completion {run : Document → Program Calling (Except Cause Unit)}
    {d d' : Document} (style : b.transformer = .callback run)
    (completes : run d = do
      let answer ← Completing.calling (Completing.complete (.ok d'))
      return answer.mapError .error)
    (store : Namespace.Handle) (w : World) : (b.invoke store d w).1 = .ready (.ok d') := by
  have accepted := b.complete_entered store (b.called w) (.ok d')
  have early : b.early store (run d) (b.called w) = [⟨.ok d', .ok ()⟩] := by
    rw [completes, ← accepted]
    rfl
  have returned : b.returned store (run d) (b.called w) = .ok () := by
    rw [completes]
    exact congrArg (·.mapError Cause.error) accepted
  rw [invoke_callback style, atReturn?, early, returned]
  rfl

end Bound

namespace Builtin

/-- The transformer is one that a plugin of this name contributes. -/
def Contributed (b : Bound) : Prop :=
  ∃ options, contribution? b.plugin options = some b.transformer

/-- The name of the plugin that counts words. -/
def counter : String := "word_count"

variable {b : Bound} {store : Namespace.Handle} {transformers before after : List Bound}
  {d : Document} {w : World}

/-- What the transformer of a plugin makes of a document, if it contributes one. -/
def effect (name : String) (options : List Value) (d : Document) : Document :=
  match name with
  | "uppercase" => { d with tree := d.tree.mapText Text.upper }
  | "trim" => { d with tree := d.tree.trimText }
  | "word_count" => { d with file := d.file.setData wordCountKey (.int d.tree.wordCount) }
  | "annotate" => { d with file := d.file.warn (remark options d.tree) (some "annotate") }
  | _ => d

section Contribution

variable {options : List Value} (h : contribution? b.plugin options = some b.transformer)
  (store : Namespace.Handle) (d : Document) (w : World)
include h

theorem invoke_of_contribution (other : b.plugin ≠ counter) :
    ∃ v, b.invoke store d w = (.ready (.ok (effect b.plugin options d)), v) := by
  obtain ⟨index, name, transformer⟩ := b
  dsimp only at h other
  unfold contribution? at h
  split at h
  · cases h
    exact ⟨_, rfl⟩
  · cases h
    exact ⟨_, rfl⟩
  · exact (other rfl).elim
  · cases h
    exact ⟨_, Prod.ext (Bound.invoke_of_completion rfl rfl store w) rfl⟩
  · cases h

theorem invoke_counter (own : b.plugin = counter) :
    b.invoke store d w = (.task (.done (.ok (effect b.plugin options d))), b.called w) := by
  obtain ⟨index, name, transformer⟩ := b
  cases own
  cases h
  rfl

/-- A run goes straight on behind such a transformer. -/
theorem advance_of_contribution (rest : List Bound) :
    ∃ v, Run.advance store (b :: rest) d w =
      Run.advance store rest (effect b.plugin options d) v := by
  rw [Run.advance]
  by_cases own : b.plugin = counter
  · rw [invoke_counter h store d w own]
    exact ⟨_, rfl⟩
  · obtain ⟨v, settled⟩ := invoke_of_contribution h store d w own
    rw [settled]
    exact ⟨v, rfl⟩

end Contribution

theorem exists_passes (every : ∀ b ∈ transformers, Contributed b)
    (others : ∀ b ∈ transformers, b.plugin ≠ counter) (store : Namespace.Handle)
    (d : Document) (w : World) : ∃ d' v, Passes store transformers d w d' v := by
  induction transformers generalizing d w with
  | nil => exact ⟨d, w, .nil d w⟩
  | cons b rest ih =>
      obtain ⟨⟨options, here⟩, later⟩ := List.forall_mem_cons.1 every
      obtain ⟨other, others⟩ := List.forall_mem_cons.1 others
      obtain ⟨v, settled⟩ := invoke_of_contribution here store d w other
      obtain ⟨d', u, passes⟩ := ih later others (effect b.plugin options d) v
      exact ⟨d', u, .cons settled passes⟩

/-- A run over such transformers ends at its first poll, and well. -/
theorem exists_finished (every : ∀ b ∈ transformers, Contributed b) (store : Namespace.Handle)
    (d : Document) (w : World) :
    ∃ d' v, Run.advance store transformers d w = (.finished (.ok d'), v) := by
  induction transformers generalizing d w with
  | nil => exact ⟨d, w, rfl⟩
  | cons b rest ih =>
      obtain ⟨⟨options, contributed⟩, later⟩ := List.forall_mem_cons.1 every
      obtain ⟨v, onward⟩ := advance_of_contribution contributed store d w rest
      rw [onward]
      exact ih later _ v

/-- Up to the transformer that counts words everything is settled at once. -/
theorem runSync_counter (every : ∀ c ∈ before ++ b :: after, Contributed c)
    (first : ∀ c ∈ before, c.plugin ≠ counter) (own : b.plugin = counter) (entry : Entry)
    (store : Namespace.Handle) (d : Document) (w : World) :
    (runSync entry store (before ++ b :: after) d w).1 =
      .error (.asyncUsage entry b.index counter) := by
  obtain ⟨earlier, later⟩ := List.forall_mem_append.1 every
  obtain ⟨d', v, passes⟩ := exists_passes earlier first store d w
  obtain ⟨options, contributed⟩ := later b List.mem_cons_self
  have task := invoke_counter contributed store d' v own
  have pending : (b.invoke store d' v).1.isReady = false := by
    rw [task]
    rfl
  rw [PendsAfter.runSync entry ⟨passes, pending⟩, own]

end Builtin
end DocPipeline
