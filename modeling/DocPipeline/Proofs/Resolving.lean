import DocPipeline.Catalog
import Mathlib.Data.List.Forall2
import Mathlib.Data.List.Induction

/-!
# Resolving preset documents

A catalog knows under a name the plugin that was registered under it last.  A
document resolves name by name: the first name that the catalog does not know
decides, and only then the settings are looked at.
-/

namespace DocPipeline

/-! ## Traversing a list -/

section Traversal

variable {α β ε : Type} {f : α → Except ε β}

theorem exists_forall₂_iff {R : α → β → Prop} {as : List α} :
    (∃ bs, List.Forall₂ R as bs) ↔ ∀ a ∈ as, ∃ b, R a b := by
  induction as with
  | nil => simp
  | cons a as ih =>
      rw [List.forall_mem_cons, ← ih]
      constructor
      · rintro ⟨_, all⟩
        cases all with
        | cons first later => exact ⟨⟨_, first⟩, _, later⟩
      · rintro ⟨⟨_, first⟩, _, later⟩
        exact ⟨_, .cons first later⟩

theorem mapM_ok_iff {as : List α} {bs : List β} :
    as.mapM f = .ok bs ↔ List.Forall₂ (fun a b => f a = .ok b) as bs := by
  induction as generalizing bs with
  | nil => cases bs <;> simp [pure, Except.pure]
  | cons a as ih =>
      rw [List.mapM_cons, List.forall₂_cons_left_iff]
      simp only [← ih]
      cases f a with
      | error e => simp [bind, Except.bind]
      | ok b =>
          cases as.mapM f with
          | error e => simp [bind, Except.bind]
          | ok rest => simp [bind, Except.bind, pure, Except.pure, eq_comm]

theorem mapM_error_of_first {before after : List α} {a : α} {e : ε}
    (h : ∀ b ∈ before, ∃ c, f b = .ok c) (failed : f a = .error e) :
    (before ++ a :: after).mapM f = .error e := by
  induction before with
  | nil =>
      rw [List.nil_append, List.mapM_cons, failed]
      rfl
  | cons b before ih =>
      obtain ⟨⟨c, first⟩, later⟩ := List.forall_mem_cons.1 h
      rw [List.cons_append, List.mapM_cons, first, ih later]
      rfl

end Traversal

/-! ## Catalogs -/

namespace Catalog

theorem lookup_cons (key : String) (e : String × Plugin) (entries : List (String × Plugin)) :
    (e :: entries).lookup key = if key = e.1 then some e.2 else entries.lookup key := by
  rw [List.lookup_cons]
  by_cases own : key = e.1
  · rw [beq_iff_eq.2 own, if_pos own]
  · rw [beq_eq_false_iff_ne.2 own, if_neg own]

theorem lookup_registerIn (name key : String) (plugin : Plugin)
    (entries : List (String × Plugin)) :
    (registerIn name plugin entries).lookup key =
      if key = name then some plugin else entries.lookup key := by
  induction entries with
  | nil => exact lookup_cons key (name, plugin) []
  | cons e entries ih =>
      by_cases same : e.1 = name
      · rw [registerIn, if_pos same, lookup_cons, lookup_cons, same]
        by_cases own : key = name <;> simp [own]
      · rw [registerIn, if_neg same, lookup_cons, lookup_cons, ih]
        by_cases here : key = e.1
        · rw [if_pos here, if_pos here, if_neg fun own => same (here.symm.trans own)]
        · rw [if_neg here, if_neg here]

theorem get?_register (c : Catalog) (name key : String) (plugin : Plugin) :
    (c.register name plugin).get? key = if key = name then some plugin else c.get? key :=
  lookup_registerIn name key plugin c.entries

/-- The catalog after registering one plugin after the other. -/
def ofHistory (history : List (String × Plugin)) : Catalog :=
  history.foldl (fun c e => c.register e.1 e.2) {}

/-- A name stands for the plugin that was registered under it last. -/
theorem get?_ofHistory (history : List (String × Plugin)) (name : String) :
    (ofHistory history).get? name = history.reverse.lookup name := by
  induction history using List.reverseRecOn with
  | nil => rfl
  | append_singleton history e ih =>
      have last : ofHistory (history ++ [e]) = (ofHistory history).register e.1 e.2 :=
        List.foldl_append
      rw [last, get?_register, ih, List.reverse_append, List.reverse_singleton,
        List.singleton_append, lookup_cons]

theorem get?_ofHistory_eq_none_iff {history : List (String × Plugin)} {name : String} :
    (ofHistory history).get? name = none ↔ name ∉ history.map Prod.fst := by
  rw [get?_ofHistory, List.lookup_eq_none_iff]
  simp only [List.mem_reverse, bne_iff_ne, List.mem_map, not_exists, not_and]
  exact ⟨fun h e he own => h e he own.symm, fun h e he own => h e he own.symm⟩

end Catalog

/-! ## Plugins of a document -/

namespace Preset.Spec

/-- What to use for a plugin: itself, or with its options, or a switch to turn it off. -/
def toUse (plugin : Plugin) : Spec → Pluggable
  | .name _ => .ofPlugin plugin
  | .table _ options enabled =>
      if enabled = some false then .switch plugin false else .entry plugin options

end Preset.Spec

namespace Catalog

variable {c : Catalog} {spec : Preset.Spec} {config : Preset.Config}

theorem resolveSpec_eq (c : Catalog) (spec : Preset.Spec) :
    c.resolveSpec spec = (c.require spec.pluginName).map fun plugin => spec.toUse plugin := by
  cases spec with
  | name name =>
      rw [resolveSpec, Preset.Spec.pluginName]
      cases c.require name <;> rfl
  | table name options enabled =>
      rw [Preset.Spec.pluginName]
      match enabled with
      | some false =>
          rw [resolveSpec]
          cases c.require name <;> rfl
      | some true | none =>
          rw [resolveSpec]
          · cases c.require name <;> rfl
          · simp

theorem resolveSpec_of_some {plugin : Plugin} (h : c.get? spec.pluginName = some plugin) :
    c.resolveSpec spec = .ok (spec.toUse plugin) := by
  rw [resolveSpec_eq, require, h]
  rfl

theorem resolveSpec_of_none (h : c.get? spec.pluginName = none) :
    c.resolveSpec spec = .error (.unknownPlugin spec.pluginName) := by
  rw [resolveSpec_eq, require, h]
  rfl

theorem resolveSpec_ok_iff {item : Pluggable} :
    c.resolveSpec spec = .ok item ↔
      ∃ plugin, c.get? spec.pluginName = some plugin ∧ item = spec.toUse plugin := by
  cases found : c.get? spec.pluginName with
  | none => simp [resolveSpec_of_none found]
  | some plugin => simp [resolveSpec_of_some found, eq_comm]

/-! ## Documents -/

theorem resolveSettings_ok_iff {settings : Value} {resolved : Option Value} :
    resolveSettings settings = .ok resolved ↔
      (settings = .null ∧ resolved = none) ∨
        ∃ fields, settings = .object fields ∧ resolved = some (.object fields) := by
  cases settings <;> simp [resolveSettings, eq_comm]

theorem resolve_ok_iff {r : Resolved} :
    c.resolve config = .ok r ↔
      List.Forall₂ (fun spec item => c.resolveSpec spec = .ok item) config.plugins r.plugins ∧
        resolveSettings config.settings = .ok r.settings := by
  rw [← mapM_ok_iff, resolve]
  cases config.plugins.mapM c.resolveSpec with
  | error e => simp [bind, Except.bind]
  | ok items =>
      cases resolveSettings config.settings with
      | error e => simp [bind, Except.bind]
      | ok settings =>
          cases r
          simp [bind, Except.bind, pure, Except.pure]

/-- Whatever the settings are, the first name that is not known is reported. -/
theorem resolve_of_unknown {before after : List Preset.Spec}
    (split : config.plugins = before ++ spec :: after)
    (known : ∀ other ∈ before, c.get? other.pluginName ≠ none)
    (unknown : c.get? spec.pluginName = none) :
    c.resolve config = .error (.unknownPlugin spec.pluginName) := by
  have plugins : config.plugins.mapM c.resolveSpec = .error (.unknownPlugin spec.pluginName) := by
    rw [split]
    refine mapM_error_of_first ?_ (resolveSpec_of_none unknown)
    intro other hother
    obtain ⟨plugin, found⟩ := Option.ne_none_iff_exists'.1 (known other hother)
    exact ⟨_, resolveSpec_of_some found⟩
  rw [resolve, plugins]
  rfl

theorem exists_resolved_iff :
    (∃ r, c.resolve config = .ok r) ↔
      (∀ spec ∈ config.plugins, c.get? spec.pluginName ≠ none) ∧
        (config.settings = .null ∨ ∃ fields, config.settings = .object fields) := by
  have plugins : (∃ items, List.Forall₂ (fun spec item => c.resolveSpec spec = .ok item)
      config.plugins items) ↔ ∀ spec ∈ config.plugins, c.get? spec.pluginName ≠ none := by
    simp only [exists_forall₂_iff, resolveSpec_ok_iff, Option.ne_none_iff_exists']
    exact forall₂_congr fun spec _ => ⟨fun ⟨_, plugin, found, _⟩ => ⟨plugin, found⟩,
      fun ⟨plugin, found⟩ => ⟨_, plugin, found, rfl⟩⟩
  have settings : (∃ resolved, resolveSettings config.settings = .ok resolved) ↔
      config.settings = .null ∨ ∃ fields, config.settings = .object fields := by
    cases config.settings <;> simp [resolveSettings]
  rw [← plugins, ← settings]
  simp only [resolve_ok_iff]
  constructor
  · rintro ⟨r, items, settings⟩
    exact ⟨⟨_, items⟩, _, settings⟩
  · rintro ⟨⟨items, found⟩, resolved, settings⟩
    exact ⟨⟨items, resolved⟩, found, settings⟩

end Catalog

end DocPipeline
