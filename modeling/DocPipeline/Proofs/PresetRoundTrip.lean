import DocPipeline.Preset.Config

/-!
# Preset documents that are written and read

A value read as the datum it is states itself again, since the fields of an
object are stated in the order of their keys and each of them once.  So options
and settings come back as they were, whatever is in them, and what is written
for an entry tells by its shape whether it is a bare name or a table.
-/

namespace DocPipeline

/-! ## Values -/

mutual

theorem Value.toValue?_toDatum (v : Value) : v.toDatum.toValue? = some v := by
  cases v with
  | null | bool | number | string => rfl
  | array items =>
      rw [Value.toDatum, Datum.toValue?, Value.toValues?_toData items]
      rfl
  | object fields =>
      obtain ⟨stated, told, same⟩ := Fields.toFields?_toEntries fields .nil
      have whole : stated = fields := Fields.ext_get? fun key => (same key).trans Option.or_none
      rw [Value.toDatum, Datum.toValue?, told, whole]
      rfl

theorem Value.toValues?_toData (items : List Value) :
    Datum.toValues? (Value.toData items) = some items := by
  cases items with
  | nil => rfl
  | cons v vs =>
      rw [Value.toData, Datum.toValues?, v.toValue?_toDatum, Value.toValues?_toData vs]
      rfl

/-- The fields stated go over what was stored under their keys before. -/
theorem Fields.toFields?_toEntries {lo : Option String} (fields : Fields lo) (stored : Object) :
    ∃ stated, Datum.toFields? stored fields.toEntries = some stated ∧
      ∀ key, stated.get? key = (fields.get? key).or (stored.get? key) := by
  cases fields with
  | nil => exact ⟨stored, rfl, fun _ => rfl⟩
  | cons key above value rest =>
      obtain ⟨stated, told, same⟩ := Fields.toFields?_toEntries rest (stored.insert key value)
      refine ⟨stated, ?_, fun other => ?_⟩
      · rw [Fields.toEntries, Datum.toFields?, value.toValue?_toDatum]
        exact told
      · rw [same, Fields.get?_insert, Fields.get?_cons]
        split
        · next here =>
            subst here
            rw [Fields.get?_eq_none_of_not_lt rest (String.lt_irrefl _)]
            rfl
        · rfl

end

namespace Preset

/-! ## Entries -/

theorem toDatum_table (plugin : String) (options : List Value) (enabled : Option Bool) :
    (Spec.table plugin options enabled).toValue.toDatum = .table [
      (.text "enabled", ((enabled.map Value.bool).getD .null).toDatum),
      (.text "name", .text plugin),
      (.text "options", .list (Value.toData options))] := by
  have options_last : ¬ "options" < "name" := by decide
  have enabled_first : "enabled" < "name" := by decide
  simp only [Spec.toValue, Value.toDatum, Fields.ofList, List.foldl_cons, List.foldl_nil,
    Fields.insert, Fields.insertAbove, Fields.toEntries, options_last, enabled_first,
    String.reduceEq, reduceDIte]

/-- A switch that is absent is written as null, and null is read as absent. -/
theorem switch?_toDatum (enabled : Option Bool) :
    Draft.switch? ((enabled.map Value.bool).getD .null).toDatum = some enabled := by
  cases enabled <;> rfl

theorem Spec.ofDatum?_toDatum (spec : Spec) : Spec.ofDatum? spec.toValue.toDatum = some spec := by
  cases spec with
  | name plugin => rfl
  | table plugin options enabled =>
      have switched := switch?_toDatum enabled
      have listed : Draft.values? (.list (Value.toData options)) = some options :=
        Value.toValues?_toData options
      rw [toDatum_table, ofDatum?]
      simp [Draft.take, Field.ofKey?, Draft.setOnce, Draft.text?, Draft.spec?, switched, listed]

theorem plugins?_toData (plugins : List Spec) :
    plugins? (.list (Value.toData (plugins.map Spec.toValue))) = some plugins := by
  rw [plugins?]
  induction plugins with
  | nil => rfl
  | cons spec plugins ih =>
      rw [List.map_cons, Value.toData, List.mapM_cons, spec.ofDatum?_toDatum, ih]
      rfl

/-! ## Documents -/

theorem toDatum_document (c : Config) :
    c.toValue.toDatum = .table [
      (.text "plugins", .list (Value.toData (c.plugins.map Spec.toValue))),
      (.text "settings", c.settings.toDatum)] := by
  have settings_last : ¬ "settings" < "plugins" := by decide
  simp only [Config.toValue, Value.toDatum, Fields.ofList, List.foldl_cons, List.foldl_nil,
    Fields.insert, Fields.insertAbove, Fields.toEntries, settings_last, String.reduceEq, reduceDIte]

/-- Every preset document, written as a value, is read again as it was. -/
theorem document_survives_writing (c : Config) : Config.ofValue? c.toValue = some c := by
  have plugins := plugins?_toData c.plugins
  have settings := c.settings.toValue?_toDatum
  rw [Config.ofValue?, toDatum_document, Config.ofDatum?]
  simp [ConfigDraft.take, Draft.setOnce, ConfigDraft.config, plugins, settings]

end Preset

end DocPipeline
