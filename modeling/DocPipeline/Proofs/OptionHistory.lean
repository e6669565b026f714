import DocPipeline.Proofs.PresetUse
import DocPipeline.Proofs.Registration
import Mathlib.Data.List.DropRight

/-!
# The history of options

The options that a plugin ends with tell of its last registrations only: of the
run of registrations at the end that all merge their first option into the one
before, and of nothing that comes before a registration that replaces it.
-/

namespace DocPipeline

namespace Value

/-- The values merged from left to right. -/
def mergeAll : List Value → Value
  | [] => .null
  | v :: vs => vs.foldl merge v

theorem mergeAll_eq_foldl (vs : List Value) : mergeAll vs = vs.foldl merge .null := by
  cases vs with
  | nil => rfl
  | cons v vs => rw [mergeAll, List.foldl_cons, null_merge]

theorem mergeAll_concat (vs : List Value) (v : Value) :
    mergeAll (vs ++ [v]) = (mergeAll vs).merge v := by
  rw [mergeAll_eq_foldl, mergeAll_eq_foldl, List.foldl_concat]

/-- Of a target that an object is merged into, it only matters which object it is. -/
theorem merge_congr_object {t t' s : Value} (same : t.object? = t'.object?)
    (object : s.object? ≠ none) : t.merge s = t'.merge s := by
  cases s with
  | object fields => rw [merge_object, merge_object, same]
  | _ => exact absurd rfl object

end Value

namespace Attacher

instance : DecidablePred Merges := fun _ => inferInstanceAs (Decidable (_ ∧ _))

/-- Registered by giving a plugin some options, with a lone Boolean for a switch. -/
def Converted (a : Attacher) : Prop := ∃ options, a.toUse = .entry a.plugin options

theorem Converted.firstOption {a : Attacher} (h : a.Converted) (replaces : ¬ a.Merges) :
    a.firstOption.object? = none := by
  obtain ⟨plugin, given, enabled⟩ := a
  obtain ⟨options, entry⟩ := h
  unfold Pluggable.entry at entry
  split at entry
  · cases entry
    rfl
  · cases entry
    by_contra object
    exact replaces ⟨rfl, object⟩

/-- The registrations at the end that are merged one into the other. -/
def lastRun (history : List Attacher) : List Attacher :=
  history.rtakeWhile fun a => a.Merges

def mergedOption (history : List Attacher) : Value :=
  .mergeAll ((lastRun history).map firstOption)

theorem mergedOption_concat_of_merges {last : Attacher} (h : last.Merges)
    (history : List Attacher) :
    mergedOption (history ++ [last]) = (mergedOption history).merge last.firstOption := by
  have run : lastRun (history ++ [last]) = lastRun history ++ [last] :=
    List.rtakeWhile_concat_pos _ _ _ (by simpa using h)
  rw [mergedOption, run, List.map_append, List.map_singleton, Value.mergeAll_concat]
  rfl

theorem mergedOption_concat_of_not_merges {last : Attacher} (h : ¬ last.Merges)
    (history : List Attacher) : mergedOption (history ++ [last]) = .null := by
  have run : lastRun (history ++ [last]) = [] :=
    List.rtakeWhile_concat_neg _ _ _ (by simpa using h)
  rw [mergedOption, run]
  rfl

/-- Merging into the first option of the entry is merging into that of the last run. -/
theorem firstOption_foldl_update {history : List Attacher} {blank : Attacher}
    (converted : ∀ a ∈ history, a.Converted) (none : blank.firstOption.object? = none) :
    (history.foldl update blank).firstOption.object? = (mergedOption history).object? := by
  induction history using List.reverseRecOn with
  | nil => exact none
  | append_singleton history last ih =>
      obtain ⟨earlier, now⟩ := List.forall_mem_append.1 converted
      rw [List.foldl_concat]
      by_cases merges : last.Merges
      · rw [update_of_merges merges, mergedOption_concat_of_merges merges]
        exact congrArg Value.object? (Value.merge_congr_object (ih earlier) merges.2)
      · rw [update_of_not_merges merges, mergedOption_concat_of_not_merges merges]
        exact (now last List.mem_cons_self).firstOption merges

theorem foldl_update_concat_of_merges {history : List Attacher} {last blank : Attacher}
    (converted : ∀ a ∈ history, a.Converted) (none : blank.firstOption.object? = none)
    (merges : last.Merges) :
    ((history ++ [last]).foldl update blank).options =
      mergedOption (history ++ [last]) :: last.options.tail := by
  have first := firstOption_foldl_update converted none
  rw [List.foldl_concat, update_of_merges merges, mergedOption_concat_of_merges merges,
    Value.merge_congr_object first merges.2]

/-- What an entry becomes is told by its options and its flag. -/
theorem foldl_update_congr {s t : Attacher} (news : List Attacher)
    (options : s.options = t.options) (enabled : s.enabled = t.enabled) :
    (news.foldl update s).options = (news.foldl update t).options ∧
      (news.foldl update s).enabled = (news.foldl update t).enabled := by
  induction news generalizing s t with
  | nil => exact ⟨options, enabled⟩
  | cons new news ih =>
      refine ih ?_ rfl
      rw [update, update, nextOptions, nextOptions, options]

end Attacher

/-! ## Places in the registry -/

namespace Registry

variable {r : Registry} {first : Attacher} {earlier : List Attacher}

theorem plugins_foldl_register (news : List Attacher) (r : Registry) :
    r.plugins <+: (news.foldl register r).plugins := by
  induction news generalizing r with
  | nil => exact List.prefix_rfl
  | cons new news ih => exact (r.plugins_register new).trans (ih (r.register new))

/-- A plugin stays where it was put first, and only its own registrations tell of its entry. -/
theorem exists_entry_foldl_register (new : first.identity ∉ r.identities)
    (others : ∀ a ∈ earlier, a.identity ≠ first.identity) (later : List Attacher) :
    ∃ entry, ((earlier ++ first :: later).foldl register r).attachers[
        (earlier.foldl register r).size]? = some entry ∧ entry.plugin = first.plugin ∧
      entry = ((first :: later).filter fun a => a.identity = first.identity).foldl
        Attacher.update ⟨first.plugin, [], false⟩ := by
  have fresh : first.identity ∉ (earlier.foldl register r).identities := by
    rw [mem_identities_foldl_register_iff]
    rintro (old | ⟨a, ha, same⟩)
    · exact new old
    · exact others a ha same
  obtain ⟨more, grown⟩ := plugins_foldl_register later ((earlier.foldl register r).register first)
  have place : ((earlier ++ first :: later).foldl register r).plugins[
      (earlier.foldl register r).size]? = some first.plugin := by
    rw [List.foldl_append, List.foldl_cons, ← grown, plugins,
      attachers_register_of_not_mem fresh, List.map_append, size]
    simp
  rw [plugins, List.getElem?_map] at place
  obtain ⟨entry, here, plugin⟩ := Option.map_eq_some_iff.1 place
  refine ⟨entry, here, plugin, ?_⟩
  have named : entry.identity = first.identity := congrArg Plugin.identity plugin
  have none : earlier.filter (fun a => a.identity = first.identity) = [] := by
    simpa using others
  have own : (first :: later).filter (fun a => a.identity = first.identity) =
      first :: later.filter fun a => a.identity = first.identity := by
    simp
  have found := lookup_of_getElem? here
  rw [named, lookup_foldl_register, List.filter_append, none, List.nil_append, own,
    lookup_eq_none new, Attacher.foldl_revise_none, ← own] at found
  exact (Option.some.inj found).symm

theorem place_unique {j k : Nat} {a b : Attacher} (ha : r.attachers[j]? = some a)
    (hb : r.attachers[k]? = some b) (same : b.identity = a.identity) : k = j := by
  have distinct : r.identities.Nodup := r.distinct
  have inside : k < r.identities.length := by
    rw [identities, List.length_map]
    exact (List.getElem?_eq_some_iff.1 hb).1
  refine (List.getElem?_inj inside distinct).1 ?_
  simp [identities, ha, hb, same]

/-- Registrations of one plugin alone leave its entry and nothing else. -/
theorem foldl_register_alone {new : Attacher} {more : List Attacher}
    (same : ∀ a ∈ more, a.identity = new.identity) :
    ∃ entry, ((new :: more).foldl register {}).attachers = [entry] ∧
      entry = (new :: more).foldl Attacher.update ⟨new.plugin, [], false⟩ := by
  have listed : (register {} new).identities = [new.identity] := rfl
  have identities : ((new :: more).foldl register {}).identities = [new.identity] := by
    rw [List.foldl_cons, identities_foldl_register_of_mem, listed]
    intro a ha
    rw [listed, same a ha]
    exact List.mem_singleton_self _
  obtain ⟨entry, alone, named⟩ := List.map_eq_singleton_iff.1 identities
  refine ⟨entry, alone, ?_⟩
  have own : (new :: more).filter (fun a => a.identity = new.identity) = new :: more := by
    simpa using same
  have found : ((new :: more).foldl register {}).lookup new.identity = some entry := by
    rw [lookup, alone]
    simp [named]
  rw [lookup_foldl_register, own, lookup_eq_none (r := {}) List.not_mem_nil,
    Attacher.foldl_revise_none] at found
  exact (Option.some.inj found).symm

end Registry

/-! ## Uses one after the other -/

theorem Processor.useEach_of_wellFormed {items : List Pluggable}
    (sound : ∀ what ∈ items, what.malformed? = none) (p : Processor) (w : World) :
    ∃ q v, p.useEach items w = (.ok q, v) ∧
      q.registry = (items.flatMap Pluggable.leaves).foldl Registry.register p.registry := by
  induction items generalizing p w with
  | nil => exact ⟨p, w, rfl, rfl⟩
  | cons what items ih =>
      obtain ⟨now, later⟩ := List.forall_mem_cons.1 sound
      obtain ⟨q, v, used, registry⟩ := ih later (p.registering what.leaves)
        (w.writeData p.store (what.merged.foldl Namespace.mergeSettings (w.data p.store)))
      refine ⟨q, v, ?_, ?_⟩
      · rw [useEach, use_of_wellFormed now]
        exact used
      · rw [registry, List.flatMap_cons, List.foldl_append, ← p.registry_configuration]
        rfl

open Attacher (Converted mergedOption)

/--
However a plugin is used, and whatever else is used in between, it has one entry,
at the place of its first registration.  The last registration decides whether it
is enabled, and what its options are behind the first.  If the last first option
is an object that is merged, the first option is what the run of such registrations
at the end comes to.  A registration that does not merge makes up for all that was
before it.
-/
theorem options_in_closed_form {p : Processor} {items : List Pluggable}
    {earlier later : List Attacher} {first : Attacher}
    (wellFormed : ∀ what ∈ items, what.malformed? = none)
    (registers : items.flatMap Pluggable.leaves = earlier ++ first :: later)
    (new : first.identity ∉ p.registry.identities)
    (others : ∀ a ∈ earlier, a.identity ≠ first.identity)
    (converted : ∀ a ∈ first :: later, a.identity = first.identity → a.Converted)
    (w : World) :
    let own := (first :: later).filter fun a => a.identity = first.identity
    let place := (earlier.foldl Registry.register p.registry).size
    ∃ q v entry last, p.useEach items w = (.ok q, v) ∧ own.getLast? = some last ∧
      q.attachers[place]? = some entry ∧ entry.plugin = first.plugin ∧
      (∀ k a, q.attachers[k]? = some a → a.identity = first.identity → k = place) ∧
      entry.enabled = last.enabled ∧
      (¬ last.Merges → entry.options = last.options) ∧
      (last.Merges → entry.options = mergedOption own :: last.options.tail) ∧
      ∀ before u after, own = before ++ u :: after → ¬ u.Merges →
        ∃ alone, ((u :: after).foldl Registry.register {}).attachers = [alone] ∧
          entry.options = alone.options ∧ entry.enabled = alone.enabled := by
  intro own place
  obtain ⟨q, v, used, registry⟩ := p.useEach_of_wellFormed wellFormed w
  rw [registers] at registry
  obtain ⟨entry, here, plugin, made⟩ := Registry.exists_entry_foldl_register new others later
  rw [← registry] at here
  change entry = own.foldl Attacher.update _ at made
  have named : entry.identity = first.identity := congrArg Plugin.identity plugin
  have kept : ∀ a ∈ own, a.identity = first.identity ∧ a.Converted := by
    intro a ha
    obtain ⟨listed, same⟩ := List.mem_filter.1 ha
    exact ⟨of_decide_eq_true same, converted a listed (of_decide_eq_true same)⟩
  have some : own ≠ [] := List.ne_nil_of_mem (List.mem_filter.2
    ⟨List.mem_cons_self, decide_eq_true rfl⟩)
  obtain ⟨front, last, split⟩ := (List.eq_nil_or_concat' own).resolve_left some
  have clean : ∀ a ∈ front, a.Converted := fun a ha =>
    (kept a (split ▸ List.mem_append_left _ ha)).2
  refine ⟨q, v, entry, last, used, ?_, here, plugin, ?_, ?_, ?_, ?_, ?_⟩
  · rw [split, List.getLast?_concat]
  · intro k a ha same
    exact Registry.place_unique here ha (same.trans named.symm)
  · rw [made, split, List.foldl_concat]
    rfl
  · intro replaces
    rw [made, split, List.foldl_concat, Attacher.update_of_not_merges replaces]
  · intro merges
    rw [made, split]
    exact Attacher.foldl_update_concat_of_merges clean rfl merges
  · intro before u after divided replaces
    have same : ∀ a ∈ after, a.identity = u.identity := by
      intro a ha
      have own_u := kept u (divided ▸ List.mem_append_right _ List.mem_cons_self)
      have own_a := kept a (divided ▸ List.mem_append_right _ (List.mem_cons_of_mem _ ha))
      exact own_a.1.trans own_u.1.symm
    obtain ⟨alone, listed, formed⟩ := Registry.foldl_register_alone same
    refine ⟨alone, listed, ?_⟩
    rw [made, formed, divided, List.foldl_append, List.foldl_cons, List.foldl_cons,
      Attacher.update_of_not_merges replaces, Attacher.update_of_not_merges replaces]
    exact Attacher.foldl_update_congr after rfl rfl

namespace Remembered

def a : Plugin := Nested.named "a"

def b : Plugin := Nested.named "b"

/-- The plugin is turned off between the first options and the others. -/
def items : List Pluggable := [
  .ofPlugin b,
  .entry a [Nested.setting "first" .null],
  .switch a false,
  .list [.entry a [Nested.setting "second" .null], .entry b [.null]],
  .preset [.entry a [Nested.setting "third" .null, .null]] (some Nested.outer)]

end Remembered

theorem options_since_switched_off :
    ∃ q v entry, (Processor.new {}).1.useEach Remembered.items (Processor.new {}).2 = (.ok q, v) ∧
      q.attachers[1]? = some entry ∧ entry.plugin = Remembered.a ∧ entry.enabled = true ∧
      entry.options = [.object (.ofList [("second", .null), ("third", .null)]), .null] := by
  have wellFormed : ∀ what ∈ Remembered.items, what.malformed? = none := by decide
  have registers : Remembered.items.flatMap Pluggable.leaves =
      [⟨Remembered.b, [], true⟩] ++ ⟨Remembered.a, [Nested.setting "first" .null], true⟩ :: [
        ⟨Remembered.a, [], false⟩,
        ⟨Remembered.a, [Nested.setting "second" .null], true⟩,
        ⟨Remembered.b, [.null], true⟩,
        ⟨Remembered.a, [Nested.setting "third" .null, .null], true⟩] := rfl
  obtain ⟨q, v, entry, last, used, found, here, plugin, -, enabled, -, merged, -⟩ :=
    options_in_closed_form (p := (Processor.new {}).1) wellFormed registers (by decide) (by decide)
      (by
        simp only [List.forall_mem_cons]
        exact ⟨fun _ => ⟨[Nested.setting "first" .null], rfl⟩, fun _ => ⟨[.bool false], rfl⟩,
          fun _ => ⟨[Nested.setting "second" .null], rfl⟩, fun _ => ⟨[.null], rfl⟩,
          fun _ => ⟨[Nested.setting "third" .null, .null], rfl⟩, List.forall_mem_nil _⟩)
      (Processor.new {}).2
  cases found
  refine ⟨q, v, entry, used, here, plugin, enabled, ?_⟩
  rw [merged (by decide)]
  rfl

end DocPipeline
