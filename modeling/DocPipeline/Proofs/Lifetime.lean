import DocPipeline.Proofs.Turns
import DocPipeline.Processor
import Mathlib.Logic.Relation

/-!
# Lifetimes of processors

A processor is configured, frozen, cloned, copied and configured again, in any
order and with attachers that behave differently each time.  Throughout, entries
keep their places, each attacher is invoked at most once in a configuration, and
the transformers follow the order of their attachers.
-/

namespace DocPipeline

namespace Processor

/-- The configuration as it stands; a sealed one has passed all its attachers. -/
def current (p : Processor) : Configuration :=
  match p.state with
  | .configuring c => c
  | .frozen pipeline => {
      registry := pipeline.registry
      parser := pipeline.parser
      compiler := pipeline.compiler
      transformers := pipeline.transformers
      cursor := pipeline.registry.size }

def turns (book : Book) (p : Processor) (w : World) : List Turn :=
  match p.state with
  | .configuring c => Setup.turns book ⟨c, w.data p.store, w.journal⟩
  | .frozen _ => []

theorem registry_current (p : Processor) : p.current.registry = p.registry := by
  unfold current registry
  cases p.state <;> rfl

theorem registry_reopened (p : Processor) : p.reopened.registry = p.registry := by
  unfold reopened registry
  cases p.state <;> rfl

end Processor

namespace Processor

variable {p q : Processor} {w w' : World}

theorem current_of_configuring {c : Configuration} (h : p.state = .configuring c) :
    p.current = c := by
  rw [current, h]

theorem configuration_of_configuring {c : Configuration} (h : p.state = .configuring c) :
    p.configuration = c := by
  rw [configuration, h]

theorem current_use {what : Pluggable} (h : p.use what w = (.ok q, w')) :
    q.current = (Setup.use what ⟨p.configuration, w.data p.store, w.journal⟩).2.config := by
  unfold use at h
  cases run : Setup.use what ⟨p.configuration, w.data p.store, w.journal⟩ with
  | mk result s =>
      rw [run] at h
      cases result with
      | error e => simp [Except.map] at h
      | ok u =>
          simp only [Except.map, Prod.mk.injEq, Except.ok.injEq] at h
          rw [← h.1]
          rfl

theorem freeze_configuring (book : Book) (w : World) {c : Configuration}
    (h : p.state = .configuring c) :
    let s := Setup.attachPending book ⟨c, w.data p.store, w.journal⟩
    (p.freeze book w).2.2.journal = s.2.journal ∧
      ((∃ u, s.1 = .ok u) ∧
          (p.freeze book w).2.1.state = .frozen (s.2.config.seal w.sealings) ∨
        (p.freeze book w).2.1.state = .configuring s.2.config) := by
  cases run : Setup.attachPending book ⟨c, w.data p.store, w.journal⟩ with
  | mk result s =>
      cases result with
      | error e =>
          rw [freeze_failed h run]
          exact ⟨rfl, .inr rfl⟩
      | ok u =>
          rw [freeze_sealed h run]
          exact ⟨rfl, .inl ⟨⟨u, rfl⟩, rfl⟩⟩

end Processor

def World.since (w w' : World) : Journal := w'.journal.drop w.journal.length

/--
A processor with the past of its present configuration: the turns given, and the
attachers invoked according to the journal.
-/
structure Life where
  processor : Processor
  turns : List Turn := []
  attached : List (Nat × String) := []

namespace Life

def start (w : World) : Life := { processor := (Processor.new w).1 }

/-- The processor once configured; a frozen one begins a new configuration. -/
def configured (l : Life) (p : Processor) : Life :=
  if l.processor.isFrozen then { processor := p } else { l with processor := p }

/-- Every step takes any world and any book: what attachers do may change over time. -/
inductive Step : Life → Life → Prop
  | use {l p w w'} (what : Pluggable) (h : l.processor.use what w = (.ok p, w')) :
      Step l (l.configured p)
  | useWith {l p w w'} (plugin : Plugin) (options : List Value)
      (h : l.processor.useWith plugin options w = (.ok p, w')) : Step l (l.configured p)
  | withParser (l : Life) (parser : Parser) :
      Step l (l.configured (l.processor.withParser parser))
  | withCompiler (l : Life) (compiler : Compiler) :
      Step l (l.configured (l.processor.withCompiler compiler))
  | freeze (l : Life) (book : Book) (w : World) :
      Step l {
        processor := (l.processor.freeze book w).2.1
        turns := l.turns ++ l.processor.turns book w
        attached := l.attached ++ (w.since (l.processor.freeze book w).2.2).attached }
  | clone (l : Life) (w : World) : Step l { l with processor := (l.processor.clone w).1 }
  | copy (l : Life) (w : World) : Step l { processor := (l.processor.copy w).1 }

def Sound (l : Life) : Prop := l.processor.current.Tells l.turns l.attached

variable {l l' : Life}

theorem Sound.configuration (h : l.Sound) (p : Processor) :
    l.processor.configuration.Tells (l.configured p).turns (l.configured p).attached := by
  cases hstate : l.processor.state with
  | configuring c =>
      have unfrozen : l.processor.isFrozen = false := by simp [Processor.isFrozen, hstate]
      rw [Processor.configuration_of_configuring hstate, configured, unfrozen]
      rw [Sound, Processor.current_of_configuring hstate] at h
      exact h
  | frozen pipeline =>
      have frozen : l.processor.isFrozen = true := by simp [Processor.isFrozen, hstate]
      rw [configured, if_pos frozen]
      simp only [Processor.configuration, hstate]
      exact ⟨rfl, List.nil_prefix, rfl, rfl⟩

theorem processor_configured (l : Life) (p : Processor) :
    (l.configured p).processor = p := by
  unfold configured
  split <;> rfl

theorem Sound.configured (h : l.Sound) {p : Processor}
    (plugins : l.processor.configuration.registry.plugins <+: p.current.registry.plugins)
    (cursor : p.current.cursor = l.processor.configuration.cursor)
    (transformers : p.current.transformers = l.processor.configuration.transformers) :
    (l.configured p).Sound := by
  have tells := h.configuration p
  rw [Sound, processor_configured]
  exact ⟨cursor.trans tells.cursor, tells.passed.trans plugins, tells.attached,
    transformers.trans tells.transformers⟩

theorem Sound.use {p : Processor} {w w' : World} {what : Pluggable} (h : l.Sound)
    (used : l.processor.use what w = (.ok p, w')) : (l.configured p).Sound := by
  have current := Processor.current_use used
  refine h.configured ?_ ?_ ?_
  · rw [current]
    exact what.plugins_applyTo (l.processor.configuration.registry, w.data l.processor.store)
  · rw [current]
    rfl
  · rw [current]
    rfl

theorem Sound.freeze (h : l.Sound) (book : Book) (w : World) :
    (l.processor.freeze book w).2.1.current.Tells
      (l.turns ++ l.processor.turns book w)
      (l.attached ++ (w.since (l.processor.freeze book w).2.2).attached) := by
  cases hstate : l.processor.state with
  | frozen pipeline =>
      rw [Processor.freeze_frozen book w hstate]
      simp only [Processor.turns, hstate, World.since, List.drop_length, List.append_nil,
        Journal.attached, List.filterMap_nil]
      exact h
  | configuring c =>
      rw [Sound, Processor.current_of_configuring hstate] at h
      obtain ⟨events, hevents, tells⟩ := Setup.attachPending_tells book
        (s := ⟨c, w.data l.processor.store, w.journal⟩) h
      obtain ⟨hjournal, hsealed⟩ := Processor.freeze_configuring book w hstate
      have since : w.since (l.processor.freeze book w).2.2 = events := by
        rw [World.since, hjournal, hevents, List.drop_left]
      have turns : l.processor.turns book w =
          Setup.turns book ⟨c, w.data l.processor.store, w.journal⟩ := by
        rw [Processor.turns, hstate]
      rw [since, turns]
      rcases hsealed with ⟨⟨u, hok⟩, hfrozen⟩ | hconfiguring
      · have done := tells.size_of_done (Setup.next_attachPending hok)
        simp only [Processor.current, hfrozen, Configuration.seal]
        exact ⟨done.trans tells.cursor, tells.passed, tells.attached, tells.transformers⟩
      · rw [Processor.current_of_configuring hconfiguring]
        exact tells

theorem Sound.copy (l : Life) (w : World) :
    Sound { processor := (l.processor.copy w).1 } := by
  refine Configuration.tells_nil ?_ ?_
  · simp only [Processor.copy, Processor.current, Processor.reopened]
    cases l.processor.state <;> rfl
  · simp only [Processor.copy, Processor.current, Processor.reopened]
    cases l.processor.state <;> rfl

theorem Sound.step (h : l.Sound) (step : Step l l') : l'.Sound := by
  cases step with
  | use what used => exact h.use used
  | useWith plugin options used => exact h.use used
  | withParser parser => exact h.configured List.prefix_rfl rfl rfl
  | withCompiler compiler => exact h.configured List.prefix_rfl rfl rfl
  | freeze book w => exact h.freeze book w
  | clone w => exact h
  | copy w => exact .copy l w

theorem Sound.steps (h : l.Sound) (steps : Relation.ReflTransGen Step l l') :
    l'.Sound := by
  induction steps with
  | refl => exact h
  | tail _ step ih => exact ih.step step

/-! ## Entries keep their places -/

theorem plugins_use {p q : Processor} {w w' : World} {what : Pluggable}
    (used : p.use what w = (.ok q, w')) : p.registry.plugins <+: q.registry.plugins := by
  rw [← q.registry_current, Processor.current_use used, ← p.registry_configuration]
  exact what.plugins_applyTo (p.configuration.registry, w.data p.store)

theorem plugins_freeze (book : Book) (p : Processor) (w : World) :
    p.registry.plugins <+: (p.freeze book w).2.1.registry.plugins := by
  cases hstate : p.state with
  | frozen pipeline =>
      simp only [Processor.freeze_frozen book w hstate, List.prefix_rfl]
  | configuring c =>
      have grows := Setup.plugins_attachPending book ⟨c, w.data p.store, w.journal⟩
      have registry : p.registry = c.registry := by rw [Processor.registry, hstate]
      rw [registry]
      obtain ⟨-, ⟨-, hfrozen⟩ | hconfiguring⟩ := Processor.freeze_configuring book w hstate
      · rw [Processor.registry, hfrozen]
        exact grows
      · rw [Processor.registry, hconfiguring]
        exact grows

theorem plugins_step (step : Step l l') :
    l.processor.registry.plugins <+: l'.processor.registry.plugins := by
  cases step with
  | use what used =>
      rw [processor_configured]
      exact plugins_use used
  | useWith plugin options used =>
      rw [processor_configured]
      exact plugins_use used
  | withParser parser =>
      rw [processor_configured, ← Processor.registry_configuration]
      exact List.prefix_rfl
  | withCompiler compiler =>
      rw [processor_configured, ← Processor.registry_configuration]
      exact List.prefix_rfl
  | freeze book w => exact plugins_freeze book l.processor w
  | clone w => exact List.prefix_rfl
  | copy w =>
      rw [← Processor.registry_reopened]
      exact List.prefix_rfl

theorem plugins_steps (steps : Relation.ReflTransGen Step l l') :
    l.processor.registry.plugins <+: l'.processor.registry.plugins := by
  induction steps with
  | refl => exact List.prefix_rfl
  | tail _ step ih => exact ih.trans (plugins_step step)

/-! ## What an invariant configuration shows -/

end Life

namespace Configuration

variable {turns : List Turn} {attached : List (Nat × String)} {c : Configuration}

theorem Tells.attached_increasing (h : c.Tells turns attached) :
    attached.Pairwise fun e e' => e.1 < e'.1 := by
  rw [h.attached]
  refine Turn.pairwise_of_indices _ Prod.fst ?_ turns
  intro turn index e he
  rw [(Turn.key_invocation? he).2]

theorem Tells.transformers_increasing (h : c.Tells turns attached) :
    c.transformers.Pairwise fun b b' => b.index < b'.index := by
  rw [h.transformers]
  refine Turn.pairwise_of_indices _ Bound.index ?_ turns
  intro turn index b hb
  exact (Turn.key_contribution? hb).1

theorem Tells.entry (h : c.Tells turns attached) {turn : Turn} {index : Nat}
    (hturn : turns[index]? = some turn) :
    index < c.cursor ∧
      ∃ a, c.registry.attachers[index]? = some a ∧ a.plugin = turn.plugin := by
  have inside : index < turns.length := (List.getElem?_eq_some_iff.1 hturn).1
  obtain ⟨rest, hrest⟩ := h.passed
  have place : c.registry.plugins[index]? = some turn.plugin := by
    rw [← hrest, List.getElem?_append_left (by rwa [List.length_map]), List.getElem?_map, hturn]
    rfl
  rw [Registry.plugins, List.getElem?_map] at place
  exact ⟨h.cursor ▸ inside, Option.map_eq_some_iff.1 place⟩

theorem Tells.transformers_placed (h : c.Tells turns attached) {b : Bound}
    (hb : b ∈ c.transformers) :
    b.index < c.cursor ∧
      ∃ a, c.registry.attachers[b.index]? = some a ∧ a.plugin.name = b.plugin := by
  rw [h.transformers] at hb
  obtain ⟨turn, index, hturn, hcontribution⟩ := Turn.mem_of_indices _ hb
  obtain ⟨hindex, hplugin, -⟩ := Turn.key_contribution? hcontribution
  obtain ⟨below, a, ha, hname⟩ := h.entry hturn
  rw [hindex, hplugin]
  exact ⟨below, a, ha, by rw [hname]⟩

end Configuration

/--
Over a whole lifetime: no two entries are the same plugin; entries keep their
places and none is lost; the cursor stays within the list and the attachers of a
configuration are invoked in ascending order; and so stand the transformers,
each below the cursor and under the name of its attacher.
-/
theorem lifetime_invariants {w : World} {l : Life}
    (lived : Relation.ReflTransGen Life.Step (Life.start w) l) :
    (l.processor.attachers.Pairwise fun a b => a.plugin.same b.plugin = false) ∧
    (∀ l', Relation.ReflTransGen Life.Step l l' →
      l.processor.registry.plugins <+: l'.processor.registry.plugins) ∧
    (l.processor.current.cursor ≤ l.processor.attachers.length ∧
      l.attached.Pairwise fun e e' => e.1 < e'.1) ∧
    (l.processor.current.transformers.Pairwise fun b b' => b.index < b'.index) ∧
    (∀ b ∈ l.processor.current.transformers, b.index < l.processor.current.cursor ∧
      ∃ a, l.processor.attachers[b.index]? = some a ∧ a.plugin.name = b.plugin) := by
  have born : (Life.start w).Sound := Configuration.tells_nil rfl rfl
  have tells : l.processor.current.Tells l.turns l.attached := born.steps lived
  have entries : l.processor.attachers = l.processor.current.registry.attachers := by
    rw [Processor.registry_current, Processor.attachers]
  rw [entries]
  refine ⟨l.processor.current.registry.pairwise_not_same, ?_,
    ⟨tells.cursor_le, tells.attached_increasing⟩, tells.transformers_increasing, ?_⟩
  · intro l' steps
    exact Life.plugins_steps steps
  · intro b hb
    exact tells.transformers_placed hb

/-! ## A lifetime with a reentrant attacher -/

namespace Nesting

def inner : Plugin := ⟨⟨"own", "inner"⟩, "inner"⟩

def outer : Plugin := ⟨⟨"own", "outer"⟩, "outer"⟩

/-- The outer plugin uses the inner one and itself once more. -/
def book : Book where
  entries := [(outer.identity, fun _ _ _ => do
    let _ ← Attach.use (.ofPlugin inner)
    let _ ← Attach.use (.ofPlugin outer)
    return .ok none)]

def used : Processor where
  state := .configuring { registry := Registry.register {} ⟨outer, [], true⟩ }
  store := ⟨0⟩

def frozen : Life where
  processor := (used.freeze book {}).2.1
  turns := used.turns book {}
  attached := (World.since {} (used.freeze book {}).2.2).attached

theorem frozen_of_start : Relation.ReflTransGen Life.Step (Life.start {}) frozen :=
  .tail (.single (.use (w := {}) (.ofPlugin outer) rfl)) (.freeze (Life.configured _ used) book {})

end Nesting

theorem nested_use_invariants :
    Nesting.frozen.attached = [(0, "outer"), (1, "inner")] ∧
    Nesting.frozen.processor.current.cursor = 2 ∧
    (Nesting.frozen.processor.attachers.Pairwise
      fun a b => a.plugin.same b.plugin = false) := by
  have attached : Setup.attachPending Nesting.book ⟨Nesting.used.configuration, {}, []⟩ = _ :=
    (Setup.attachPending_of_ok rfl rfl).trans
      ((Setup.attachPending_of_ok rfl rfl).trans (Setup.attachPending_of_none rfl))
  have frozen : Nesting.used.freeze Nesting.book {} = _ := Processor.freeze_sealed rfl attached
  refine ⟨?_, ?_, (lifetime_invariants Nesting.frozen_of_start).1⟩
  · rw [Nesting.frozen, frozen]
    rfl
  · rw [Nesting.frozen, frozen]
    rfl

end DocPipeline
