import DocPipeline.Processor
import DocPipeline.Proofs.Resolving
import DocPipeline.Proofs.Using

/-!
# Using a resolved preset

A preset that a catalog has resolved is a list of plugins and settings that are
in order, so it can be used on any processor.  It does the same as using its
plugins one after the other and merging the settings then.
-/

namespace DocPipeline

/-- The settings of a document are merged, unless there are none. -/
def World.mergingSettings (w : World) (store : Namespace.Handle) : Value → World
  | .null => w
  | settings => w.writeData store ((w.data store).mergeSettings settings)

/-! ## Single plugins -/

def Attacher.toUse (a : Attacher) : Pluggable := .plugin a.plugin a.options a.enabled

/-- What is registered for a plugin of a document. -/
def Preset.Spec.attacher (plugin : Plugin) : Preset.Spec → Attacher
  | .name _ => ⟨plugin, [], true⟩
  | .table _ _ (some false) => ⟨plugin, [], false⟩
  | .table _ [.bool enabled] _ => ⟨plugin, [], enabled⟩
  | .table _ options _ => ⟨plugin, options, true⟩

theorem Preset.Spec.toUse_eq (spec : Preset.Spec) (plugin : Plugin) :
    spec.toUse plugin = (spec.attacher plugin).toUse := by
  fun_cases Preset.Spec.attacher plugin spec with
  | case1 | case2 => rfl
  | case3 name enabled given on =>
      rw [toUse, if_neg on]
      rfl
  | case4 name options enabled on several =>
      rw [toUse, if_neg on, Pluggable.entry]
      · rfl
      · exact several

namespace Pluggable

variable {α : Type} (leaf : Attacher → List α) (enter leave : Value → List α)

theorem walkAll_toUse (as : List Attacher) :
    walkAll leaf enter leave (as.map Attacher.toUse) = as.flatMap leaf := by
  induction as with
  | nil => rfl
  | cons a as ih =>
      rw [List.map_cons, walkAll, ih]
      rfl

variable (as : List Attacher) (settings : Option Value)

theorem walk_preset :
    (preset (as.map Attacher.toUse) settings).walk leaf enter leave =
      settings.toList.flatMap enter ++ as.flatMap leaf ++ settings.toList.flatMap leave := by
  rw [walk, walkAll_toUse]

theorem leaves_preset : (preset (as.map Attacher.toUse) settings).leaves = as := by
  cases settings <;> simp [leaves, walk_preset]

theorem stated_preset :
    (preset (as.map Attacher.toUse) settings).stated = settings.toList := by
  simp [stated, walk_preset]

theorem merged_preset :
    (preset (as.map Attacher.toUse) settings).merged = settings.toList := by
  have none : as.flatMap (fun _ => ([] : List Value)) = [] := by simp
  cases settings <;> simp [merged, walk_preset, none]

end Pluggable

/-! ## Processors -/

namespace Processor

variable {p : Processor} {w : World}

/-- Uses one thing after the other, up to the first that is rejected. -/
def useEach (p : Processor) : List Pluggable → World → Except ProcessorError Processor × World
  | [], w => (.ok p, w)
  | what :: more, w =>
      match p.use what w with
      | (.ok p, w) => p.useEach more w
      | (.error e, w) => (.error e, w)

/-- The processor to be configured, with more plugins in use. -/
def registering (p : Processor) (as : List Attacher) : Processor :=
  ⟨.configuring { p.configuration with
    registry := as.foldl Registry.register p.configuration.registry }, p.store⟩

theorem use_of_wellFormed {what : Pluggable} (sound : what.malformed? = none) :
    p.use what w = (.ok (p.registering what.leaves),
      w.writeData p.store (what.merged.foldl Namespace.mergeSettings (w.data p.store))) := by
  rw [use, Setup.use_eq, sound]
  simp only [Setup.take, Pluggable.taken_of_wellFormed sound, Pluggable.registered_steps,
    Pluggable.merged_steps]
  rfl

theorem use_toUse (p : Processor) (a : Attacher) (w : World) :
    p.use a.toUse w = (.ok (p.registering [a]), w) := by
  have used : p.use a.toUse w = (.ok (p.registering [a]), w.writeData p.store (w.data p.store)) :=
    use_of_wellFormed rfl
  rw [used, w.writeData_data]

theorem useEach_toUse (p : Processor) (as : List Attacher) (w : World) :
    ∃ q, p.useEach (as.map Attacher.toUse) w = (.ok q, w) ∧ q.store = p.store ∧
      q.configuration = (p.registering as).configuration := by
  induction as generalizing p with
  | nil => exact ⟨p, rfl, rfl, rfl⟩
  | cons a as ih =>
      obtain ⟨q, used, store, configuration⟩ := ih (p.registering [a])
      refine ⟨q, ?_, store, configuration⟩
      rw [List.map_cons, useEach, use_toUse]
      exact used

end Processor

/-! ## Resolved presets -/

/-- What the plugins of a document register is told by the catalog. -/
def Catalog.Tells (c : Catalog) : List Preset.Spec → List Attacher → Prop :=
  List.Forall₂ fun spec a => ∃ plugin,
    c.get? spec.pluginName = some plugin ∧ a = spec.attacher plugin

theorem Catalog.tells_of_resolved {c : Catalog} {specs : List Preset.Spec}
    {items : List Pluggable}
    (h : List.Forall₂ (fun spec item => c.resolveSpec spec = .ok item) specs items) :
    ∃ as, items = as.map Attacher.toUse ∧ c.Tells specs as := by
  induction h with
  | nil => exact ⟨[], rfl, .nil⟩
  | cons first _ ih =>
      obtain ⟨as, rfl, tells⟩ := ih
      obtain ⟨plugin, found, rfl⟩ := Catalog.resolveSpec_ok_iff.1 first
      exact ⟨_ :: as, by rw [List.map_cons, Preset.Spec.toUse_eq], .cons ⟨plugin, found, rfl⟩ tells⟩

theorem Processor.use_resolved {settings : Value} {resolved : Option Value}
    (h : Catalog.resolveSettings settings = .ok resolved) (as : List Attacher)
    (p : Processor) (w : World) :
    p.use (.preset (as.map Attacher.toUse) resolved) w =
      (.ok (p.registering as), w.mergingSettings p.store settings) := by
  rcases Catalog.resolveSettings_ok_iff.1 h with ⟨rfl, rfl⟩ | ⟨fields, rfl, rfl⟩
  · rw [use_of_wellFormed, Pluggable.leaves_preset, Pluggable.merged_preset]
    · exact congrArg _ (w.writeData_data p.store)
    · rw [Pluggable.malformed?, Pluggable.stated_preset]
      rfl
  · rw [use_of_wellFormed, Pluggable.leaves_preset, Pluggable.merged_preset]
    · rfl
    · rw [Pluggable.malformed?, Pluggable.stated_preset]
      rfl

/--
A document resolves exactly if the catalog knows all its names and its settings
are an object or missing; otherwise the first unknown name is reported, whatever
the settings are.  What has been resolved can be used on every processor, and
does the same as using, in order, the plugins that were registered last under the
names, and merging the settings in the end.
-/
theorem resolved_use_agrees (history : List (String × Plugin)) (config : Preset.Config) :
    let catalog := Catalog.ofHistory history
    let names := history.map Prod.fst
    ((∃ r, catalog.resolve config = .ok r) ↔
      (∀ spec ∈ config.plugins, spec.pluginName ∈ names) ∧
        (config.settings = .null ∨ ∃ fields, config.settings = .object fields)) ∧
    (∀ before spec after, config.plugins = before ++ spec :: after →
      (∀ known ∈ before, known.pluginName ∈ names) → spec.pluginName ∉ names →
      catalog.resolve config = .error (.unknownPlugin spec.pluginName)) ∧
    ∀ r, catalog.resolve config = .ok r → ∃ items,
      List.Forall₂ (fun spec item => ∃ plugin,
        history.reverse.lookup spec.pluginName = some plugin ∧ item = spec.toUse plugin)
        config.plugins items ∧
      ∀ (p : Processor) (w : World), ∃ q v used,
        p.useEach items w = (.ok q, v) ∧
        p.use r.toPluggable w = (.ok used, v.mergingSettings q.store config.settings) ∧
        used.attachers = q.attachers ∧ used.store = q.store ∧
        used.configuration = q.configuration := by
  intro catalog names
  have known {spec : Preset.Spec} : catalog.get? spec.pluginName ≠ none ↔
      spec.pluginName ∈ names := by
    rw [ne_eq, Catalog.get?_ofHistory_eq_none_iff, not_not]
  refine ⟨?_, ?_, ?_⟩
  · simp only [Catalog.exists_resolved_iff, known]
  · intro before spec after split earlier new
    refine Catalog.resolve_of_unknown split ?_ (Catalog.get?_ofHistory_eq_none_iff.2 new)
    intro other hother
    exact known.2 (earlier other hother)
  · intro r resolved
    obtain ⟨plugins, settings⟩ := Catalog.resolve_ok_iff.1 resolved
    obtain ⟨as, items, -⟩ := Catalog.tells_of_resolved plugins
    refine ⟨r.plugins, ?_, ?_⟩
    · refine plugins.imp ?_
      intro spec item found
      rw [← Catalog.get?_ofHistory]
      exact Catalog.resolveSpec_ok_iff.1 found
    · intro p w
      obtain ⟨q, used, store, configuration⟩ := p.useEach_toUse as w
      refine ⟨q, w, p.registering as, items ▸ used, ?_, ?_, store.symm, configuration.symm⟩
      · rw [Catalog.Resolved.toPluggable, items, Processor.use_resolved settings, store]
      · rw [Processor.attachers, Processor.attachers, ← Processor.registry_configuration,
          ← Processor.registry_configuration, configuration]

namespace Replaced

/-- Both names stand for `b` in the end. -/
def history : List (String × Plugin) :=
  [("p", Nested.named "a"), ("q", Nested.named "b"), ("p", Nested.named "b")]

def config : Preset.Config where
  plugins := [
    .table "q" [Nested.setting "first" .null, .bool false] none,
    .table "p" [.bool true] (some false),
    .name "q",
    .table "p" [Nested.setting "second" .null] (some true)]
  settings := Nested.outer

def unknown : Preset.Config where
  plugins := [.name "q", .table "r" [] (some false), .name "s"]
  settings := .bool true

end Replaced

/-- One plugin is used four times, at once and one by one. -/
theorem replaced_plugin_resolves :
    (Catalog.ofHistory Replaced.history).resolve Replaced.unknown = .error (.unknownPlugin "r") ∧
    ∃ r items q v used w,
      (Catalog.ofHistory Replaced.history).resolve Replaced.config = .ok r ∧
      (Processor.new {}).1.useEach items (Processor.new {}).2 = (.ok q, v) ∧
      (Processor.new {}).1.use r.toPluggable (Processor.new {}).2 = (.ok used, w) ∧
      q.attachers = [⟨Nested.named "b", [Nested.setting "second" .null], true⟩] ∧
      used.attachers = q.attachers ∧ (w.data used.store).settings? = Nested.outer.object? := by
  obtain ⟨-, unknown, -⟩ := resolved_use_agrees Replaced.history Replaced.unknown
  have first := unknown [.name "q"] (.table "r" [] (some false)) [.name "s"] rfl (by decide)
    (by decide)
  obtain ⟨resolves, -, agrees⟩ := resolved_use_agrees Replaced.history Replaced.config
  obtain ⟨r, resolved⟩ := resolves.2 ⟨by decide, .inr ⟨_, rfl⟩⟩
  obtain ⟨items, -, uses⟩ := agrees r resolved
  obtain ⟨q, v, used, each, whole, same, -⟩ := uses (Processor.new {}).1 (Processor.new {}).2
  have made : ∃ used w,
      (Processor.new {}).1.use r.toPluggable (Processor.new {}).2 = (.ok used, w) ∧
      used.attachers = [⟨Nested.named "b", [Nested.setting "second" .null], true⟩] ∧
      (w.data used.store).settings? = Nested.outer.object? := by
    cases resolved
    exact ⟨_, _, rfl, rfl, rfl⟩
  obtain ⟨used', w, whole', attachers, settings⟩ := made
  obtain rfl := Except.ok.inj (congrArg Prod.fst (whole.symm.trans whole'))
  exact ⟨first, r, items, q, v, used, w, resolved, each, whole', same ▸ attachers, same, settings⟩

end DocPipeline
