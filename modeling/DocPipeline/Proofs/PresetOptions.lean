import DocPipeline.Proofs.PresetUse
import DocPipeline.Proofs.Registration

/-!
# Options from a preset document

A document has a field of its own for switching a plugin off.  Options are taken
from it as they are, with one exception: an option that is a Boolean and stands
alone is taken for a switch, and lost as an option.
-/

namespace DocPipeline

namespace Preset.Spec

/-! ## What a document asks for -/

def options : Spec → List Value
  | .name _ => []
  | .table _ options _ => options

def enabled? : Spec → Option Bool
  | .name _ => none
  | .table _ _ enabled => enabled

/-- An entry is as the document says: off if it is switched off, and with the options if not. -/
structure Kept (spec : Spec) (a : Attacher) : Prop where
  disabled : a.enabled = false ↔ spec.enabled? = some false
  options : a.enabled = true → a.options = spec.options

/-- The one option of a plugin that is not switched off, if it is a Boolean. -/
def lone? : Spec → Option Bool
  | .table _ _ (some false) => none
  | .table _ [.bool b] _ => some b
  | _ => none

/-! ## What is registered -/

variable {spec : Spec}

theorem plugin_attacher (spec : Spec) (plugin : Plugin) :
    (spec.attacher plugin).plugin = plugin := by
  fun_cases attacher plugin spec <;> rfl

theorem attacher_of_lone {b : Bool} (h : spec.lone? = some b) (plugin : Plugin) :
    spec.attacher plugin = ⟨plugin, [], b⟩ := by
  unfold lone? at h
  split at h
  · cases h
  · next name enabled on =>
    cases h
    rw [attacher]
    exact on
  · cases h

theorem kept_iff (spec : Spec) (plugin : Plugin) :
    spec.Kept (spec.attacher plugin) ↔ spec.lone? = none := by
  fun_cases attacher plugin spec with
  | case1 name =>
      exact iff_of_true ⟨by simp [enabled?], fun _ => rfl⟩ rfl
  | case2 name options =>
      refine iff_of_true ⟨by simp [enabled?], ?_⟩ rfl
      intro on
      cases on
  | case3 name switch given on =>
      refine iff_of_false ?_ ?_
      · intro kept
        cases switch with
        | false => exact on (kept.disabled.1 rfl)
        | true => cases kept.options rfl
      · rw [lone?]
        · simp
        · exact on
  | case4 name options enabled on several =>
      refine iff_of_true ⟨?_, fun _ => rfl⟩ ?_
      · simpa [enabled?] using on
      · rw [lone?]
        · rintro _ _ ⟨⟩
          exact on rfl
        · rintro _ _ _ ⟨⟩
          exact several _ rfl

end Preset.Spec

namespace Catalog

/-- The plugins that the names of a document stand for. -/
def pluginsOf (c : Catalog) (config : Preset.Config) : List Plugin :=
  config.plugins.filterMap fun spec => c.get? spec.pluginName

theorem Tells.plugins {c : Catalog} {specs : List Preset.Spec} {as : List Attacher}
    (h : c.Tells specs as) :
    (specs.filterMap fun spec => c.get? spec.pluginName) = as.map Attacher.plugin := by
  induction h with
  | nil => rfl
  | cons first _ ih =>
      obtain ⟨plugin, found, rfl⟩ := first
      rw [List.filterMap_cons, found, List.map_cons, ih, Preset.Spec.plugin_attacher]

end Catalog

theorem Processor.attachers_registering_new (w : World) {as : List Attacher}
    (distinct : (as.map Attacher.identity).Nodup) :
    ((Processor.new w).1.registering as).attachers = as :=
  Registry.attachers_foldl_register (r := {}) distinct

/--
If a document resolves to different plugins, a new processor that uses it has one
entry for each, in order, and every entry is as the document says exactly if its
plugin does not have a Boolean for its only option.  That one becomes the switch.
-/
theorem preset_entry_kept_iff {c : Catalog} {config : Preset.Config} {r : Catalog.Resolved}
    (resolved : c.resolve config = .ok r)
    (distinct : ((c.pluginsOf config).map Plugin.identity).Nodup) (w : World) :
    ∃ q v, (Processor.new w).1.use r.toPluggable (Processor.new w).2 = (.ok q, v) ∧
      q.attachers.map Attacher.plugin = c.pluginsOf config ∧
      List.Forall₂ (fun spec a =>
        c.get? spec.pluginName = some a.plugin ∧
        (spec.Kept a ↔ spec.lone? = none) ∧
        ∀ b, spec.lone? = some b → a.enabled = b ∧ a.options = [])
        config.plugins q.attachers := by
  obtain ⟨plugins, settings⟩ := Catalog.resolve_ok_iff.1 resolved
  obtain ⟨as, items, tells⟩ := Catalog.tells_of_resolved plugins
  have entries : ((Processor.new w).1.registering as).attachers = as := by
    refine Processor.attachers_registering_new w ?_
    rw [Catalog.pluginsOf, tells.plugins, List.map_map] at distinct
    exact distinct
  have used := Processor.use_resolved settings as (Processor.new w).1 (Processor.new w).2
  rw [← items] at used
  refine ⟨_, _, used, ?_, ?_⟩
  · rw [entries, Catalog.pluginsOf, tells.plugins]
  · rw [entries]
    refine tells.imp ?_
    rintro spec _ ⟨plugin, found, rfl⟩
    refine ⟨?_, spec.kept_iff plugin, ?_⟩
    · rw [found, spec.plugin_attacher]
    · intro b lone
      rw [Preset.Spec.attacher_of_lone lone]
      exact ⟨rfl, rfl⟩

namespace Lone

def catalog : Catalog := .ofHistory [("p", Nested.named "a"), ("q", Nested.named "b")]

def kept : Preset.Config where
  plugins := [.table "q" [.bool false, .null] none, .table "p" [.bool true] (some false)]

def lost : Preset.Config where
  plugins := [.name "p", .table "q" [.bool false] (some true)]

end Lone

/-- A Boolean that does not stand alone stays, and one that is switched off does no harm. -/
theorem accompanied_options_kept :
    ∃ r q v, Lone.catalog.resolve Lone.kept = .ok r ∧
      (Processor.new {}).1.use r.toPluggable (Processor.new {}).2 = (.ok q, v) ∧
      q.attachers.map Attacher.plugin = [Nested.named "b", Nested.named "a"] ∧
      List.Forall₂ Preset.Spec.Kept Lone.kept.plugins q.attachers := by
  have resolved : Lone.catalog.resolve Lone.kept = .ok _ := rfl
  obtain ⟨q, v, used, plugins, entries⟩ := preset_entry_kept_iff resolved (by decide) {}
  have several : ∀ spec ∈ Lone.kept.plugins, spec.lone? = none := by decide
  refine ⟨_, q, v, resolved, used, plugins, ?_⟩
  exact ((List.forall₂_and_left _ _).2 ⟨several, entries⟩).imp fun _ _ h => h.2.2.1.2 h.1

/-- The document says that `b` is on and has an option, and it is off and has none. -/
theorem lone_option_lost :
    ∃ r q v, Lone.catalog.resolve Lone.lost = .ok r ∧
      ((Lone.catalog.pluginsOf Lone.lost).map Plugin.identity).Nodup ∧
      (Processor.new {}).1.use r.toPluggable (Processor.new {}).2 = (.ok q, v) ∧
      q.attachers = [⟨Nested.named "a", [], true⟩, ⟨Nested.named "b", [], false⟩] ∧
      ¬ List.Forall₂ Preset.Spec.Kept Lone.lost.plugins q.attachers := by
  refine ⟨_, _, _, rfl, by decide, rfl, rfl, ?_⟩
  rintro (_ | ⟨-, _ | ⟨kept, -⟩⟩)
  exact Bool.noConfusion (Option.some.inj (kept.disabled.1 rfl))

end DocPipeline
