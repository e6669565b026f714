import DocPipeline.Configuration
import DocPipeline.Proofs.Entries
import DocPipeline.Proofs.Walking

/-!
# Using pluggables

What a use makes of a setup: how it is rejected and what is there then, what it
registers and merges when it is accepted, and that accepting it again changes
nothing.
-/

namespace DocPipeline

/-! ## What becomes of the namespace -/

namespace Namespace

theorem get?_foldl_mergeSettings (vs : List Value) (ns : Namespace) (k : String) :
    (vs.foldl mergeSettings ns).get? k =
      if k = settingsKey ∧ vs ≠ [] then
        some (vs.foldl Value.merge ((ns.get? settingsKey).getD .null))
      else ns.get? k := by
  induction vs generalizing ns with
  | nil => simp
  | cons v vs ih =>
      rw [List.foldl_cons, ih, mergeSettings, get?_merge, get?_merge]
      by_cases own : k = settingsKey
      · cases vs <;> simp [own]
      · simp [own]

theorem foldl_mergeSettings_again (vs : List Value) (ns : Namespace) :
    vs.foldl mergeSettings (vs.foldl mergeSettings ns) = vs.foldl mergeSettings ns := by
  apply ext_get?
  intro k
  rw [get?_foldl_mergeSettings, get?_foldl_mergeSettings vs ns settingsKey]
  by_cases own : k = settingsKey ∧ vs ≠ []
  · rw [if_pos own, if_pos ⟨rfl, own.2⟩, get?_foldl_mergeSettings, if_pos own]
    exact congrArg some (Value.foldl_merge_again vs _)
  · rw [if_neg own]

end Namespace

theorem ConfigurationFault.text_settingsNotObject (got : Value.Kind) :
    (ProcessorError.configuration (.settingsNotObject got)).text =
      "configuration error: preset settings must be an object, got " ++ got.phrase := by
  have joined : "configuration error: preset settings must be an object, got " =
      "configuration error: " ++ "preset settings must be an object, got " := by decide
  rw [joined, String.append_assoc]
  rfl

/-! ## Using -/

namespace Setup

/-- What registering and merging make of a setup. -/
def take (steps : List Pluggable.Step) (s : Setup) : Setup :=
  { s with
    config := { s.config with
      registry := (steps.filterMap Pluggable.Step.registered?).foldl Registry.register
        s.config.registry }
    data := (steps.filterMap Pluggable.Step.merged?).foldl Namespace.mergeSettings s.data }

theorem take_again (steps : List Pluggable.Step) (s : Setup) :
    (s.take steps).take steps = s.take steps := by
  simp only [take, Registry.foldl_register_again, Namespace.foldl_mergeSettings_again]

theorem use_eq (what : Pluggable) (s : Setup) :
    s.use what = ((match what.malformed? with
      | none => .ok ()
      | some v => .error (.configuration (.settingsNotObject v.kind))), s.take what.taken) := by
  unfold use
  rw [what.applyTo_eq_takeAll, Pluggable.Step.takeAll_eq, what.fault_steps,
    Pluggable.Step.foldl_apply]
  cases what.malformed? <;> rfl

end Setup

/--
A use is rejected for the first malformed settings in the document, outer presets
before the ones inside them.  Otherwise the plugins are registered from left to
right, the settings merged with inner presets first, and all else stays.
-/
theorem use_follows_document (what : Pluggable) (s : Setup) :
    ((∃ e, (s.use what).1 = .error e) ↔ ∃ v ∈ what.stated, v.object? = none) ∧
    (∀ e, (s.use what).1 = .error e → ∃ before v after,
      what.stated = before ++ v :: after ∧ v.object? = none ∧
      (∀ u ∈ before, u.object? ≠ none) ∧
      e = .configuration (.settingsNotObject v.kind) ∧
      e.text = "configuration error: preset settings must be an object, got " ++ v.kind.phrase) ∧
    ((s.use what).1 = .ok () → ∃ data,
      s.use what = (.ok (), { s with
        config := { s.config with
          registry := what.leaves.foldl Registry.register s.config.registry }
        data }) ∧
      (what.merged = [] → data = s.data) ∧
      (what.merged ≠ [] → data.get? Namespace.settingsKey =
        some (what.merged.foldl Value.merge ((s.data.get? Namespace.settingsKey).getD .null))) ∧
      ∀ k, k ≠ Namespace.settingsKey → data.get? k = s.data.get? k) := by
  rw [s.use_eq what, ← Pluggable.malformed_iff]
  cases found : what.malformed? with
  | none =>
      refine ⟨by simp, by simp, ?_⟩
      intro _
      refine ⟨what.merged.foldl Namespace.mergeSettings s.data, ?_, ?_, ?_, ?_⟩
      · simp only [Setup.take, Pluggable.taken_of_wellFormed found,
          Pluggable.registered_steps, Pluggable.merged_steps]
      · intro none
        rw [none, List.foldl_nil]
      · intro some
        rw [Namespace.get?_foldl_mergeSettings, if_pos ⟨rfl, some⟩]
      · intro k other
        rw [Namespace.get?_foldl_mergeSettings, if_neg fun own => other own.1]
  | some v =>
      refine ⟨⟨fun _ => Option.some_ne_none v, fun _ => ⟨_, rfl⟩⟩, ?_, nofun⟩
      intro e failed
      cases failed
      obtain ⟨before, after, split, bad, good⟩ := Pluggable.stated_of_malformed found
      refine ⟨before, v, after, split, bad, good, rfl, ?_⟩
      exact ConfigurationFault.text_settingsNotObject v.kind

namespace Nested

def named (label : String) : Plugin := ⟨⟨"own", label⟩, label⟩

def setting (key : String) (v : Value) : Value := .object (.cons key trivial v .nil)

def outer : Value := setting "depth" (setting "deep" (.bool true))

def deepAndMore (deep : Value) : Value :=
  setting "depth" (.object (.cons "deep" trivial deep (.cons "more" (by decide) .null .nil)))

def inner : Value := deepAndMore .null

/-- A plugin with options, and a preset within that turns it off. -/
def presets : Pluggable :=
  .preset [
    .entry (named "a") [setting "first" .null],
    .preset [.switch (named "a") false] (some inner)] (some outer)

def setup : Setup := ⟨{}, {}, []⟩

end Nested

/-- The outer settings are checked first and merged last, into the inner ones. -/
theorem nested_presets_in_order :
    Nested.presets.stated = [Nested.outer, Nested.inner] ∧
    ∃ t, Nested.setup.use Nested.presets = (.ok (), t) ∧
      t.config.registry.attachers = [⟨Nested.named "a", [], false⟩] ∧
      t.data.get? Namespace.settingsKey = some (Nested.deepAndMore (.bool true)) := by
  refine ⟨rfl, ?_⟩
  obtain ⟨data, used, -, settings, -⟩ :=
    (use_follows_document Nested.presets Nested.setup).2.2 rfl
  refine ⟨_, used, rfl, ?_⟩
  rw [settings (List.cons_ne_nil _ _)]
  rfl

/-- What an accepted use has done, it does not do a second time. -/
theorem use_again {what : Pluggable} {s t : Setup} (used : s.use what = (.ok (), t)) :
    t.use what = (.ok (), t) := by
  rw [Setup.use_eq] at used ⊢
  obtain ⟨accepted, rfl⟩ := Prod.mk.inj used
  rw [accepted, s.take_again]

/-- One plugin is given options, turned off and given options again. -/
def Nested.mixed : Pluggable :=
  .list [
    .entry (named "b") [.string "plain"],
    presets,
    .entry (named "a") [setting "second" .null],
    .preset [.entry (named "b") [setting "third" .null]] (some inner)]

theorem mixed_list_again :
    ∃ t, Nested.setup.use Nested.mixed = (.ok (), t) ∧
      t.config.registry.attachers =
        [⟨Nested.named "b", [Nested.setting "third" .null], true⟩,
          ⟨Nested.named "a", [Nested.setting "second" .null], true⟩] ∧
      t.data.get? Namespace.settingsKey = some Nested.inner ∧
      t.use Nested.mixed = (.ok (), t) := by
  have used : Nested.setup.use Nested.mixed = (.ok (), (Nested.setup.use Nested.mixed).2) :=
    Prod.ext rfl rfl
  exact ⟨_, used, rfl, rfl, use_again used⟩

/-! ## Rejected uses -/

namespace Setup

theorem take_eq_iff (steps : List Pluggable.Step) (s : Setup) :
    s.take steps = s ↔
      (steps.filterMap Pluggable.Step.registered?).foldl Registry.register s.config.registry =
        s.config.registry ∧
      (steps.filterMap Pluggable.Step.merged?).foldl Namespace.mergeSettings s.data = s.data := by
  constructor
  · intro same
    exact ⟨congrArg (·.config.registry) same, congrArg (·.data) same⟩
  · rintro ⟨registry, data⟩
    rw [take, registry, data]

/-- Registering leaves an entry behind, and merging an entry under `settings`. -/
theorem take_eq_self_iff (steps : List Pluggable.Step) :
    (∀ s : Setup, s.take steps = s) ↔
      steps.filterMap Pluggable.Step.registered? = [] ∧
        steps.filterMap Pluggable.Step.merged? = [] := by
  constructor
  · intro same
    obtain ⟨registry, data⟩ := (take_eq_iff steps ⟨{}, {}, []⟩).1 (same _)
    constructor
    · refine List.eq_nil_iff_forall_not_mem.2 ?_
      intro a ha
      have listed := (Registry.mem_identities_foldl_register_iff (r := {})).2 (.inr ⟨a, ha, rfl⟩)
      rw [registry] at listed
      exact List.not_mem_nil listed
    · by_contra some
      have entry := congrArg (·.get? Namespace.settingsKey) data
      rw [Namespace.get?_foldl_mergeSettings, if_pos ⟨rfl, some⟩] at entry
      cases entry
  · rintro ⟨registered, merged⟩ s
    rw [take, registered, merged]
    rfl

end Setup

/--
What a rejected use leaves behind is what it took on before it came to the
malformed settings.
-/
theorem rejected_use_leaves {what : Pluggable} {s : Setup} {e : ProcessorError}
    (rejected : (s.use what).1 = .error e) :
    (∃ v rest, what.steps = what.taken ++ .check v :: rest ∧ v.object? = none ∧
      e = .configuration (.settingsNotObject v.kind)) ∧
    let registered := what.taken.filterMap Pluggable.Step.registered?
    let merged := what.taken.filterMap Pluggable.Step.merged?
    registered <+: what.leaves ∧ merged <+: what.merged ∧
    (s.use what).2 = { s with
      config := { s.config with
        registry := registered.foldl Registry.register s.config.registry }
      data := merged.foldl Namespace.mergeSettings s.data } ∧
    ((s.use what).2 = s ↔
      registered.foldl Registry.register s.config.registry = s.config.registry ∧
        merged.foldl Namespace.mergeSettings s.data = s.data) ∧
    ((∀ t : Setup, (t.use what).2 = t) ↔ registered = [] ∧ merged = []) := by
  have taken : what.taken <+: what.steps := List.takeWhile_prefix _
  have left : ∀ t : Setup, (t.use what).2 = t.take what.taken := by
    intro t
    rw [t.use_eq]
  refine ⟨?_, ?_, ?_, left s, ?_, ?_⟩
  · rw [s.use_eq] at rejected
    cases found : what.malformed? with
    | none => simp [found] at rejected
    | some v =>
        obtain ⟨u, rest, split, bad, kind⟩ := Pluggable.steps_of_malformed found
        rw [found] at rejected
        cases rejected
        exact ⟨u, rest, split, bad, by rw [kind]⟩
  · rw [← what.registered_steps]
    exact taken.filterMap _
  · rw [← what.merged_steps]
    exact taken.filterMap _
  · rw [left]
    exact Setup.take_eq_iff ..
  · simp only [left]
    exact Setup.take_eq_self_iff _

namespace Rejected

/-- The settings of a flat preset are checked before anything is registered. -/
def flat : Pluggable := .preset [.ofPlugin (Nested.named "a")] (some .null)

def late : Pluggable :=
  .list [.ofPlugin (Nested.named "a"), .preset [] (some Nested.outer), .preset [] (some .null)]

/-- Uses the list, puts up with the error, and goes on. -/
def attacher : Program Attach (Bool × Option Object) := do
  let result ← Attach.use late
  let ns ← Attach.data
  return (result.toOption.isSome, ns.settings?)

end Rejected

theorem rejected_preset_unnoticed :
    (Nested.setup.use Rejected.flat).1 = .error (.configuration (.settingsNotObject .null)) ∧
      ∀ t : Setup, (t.use Rejected.flat).2 = t := by
  have rejected : (Nested.setup.use Rejected.flat).1 =
    .error (.configuration (.settingsNotObject .null)) := rfl
  obtain ⟨-, -, -, -, -, always⟩ := rejected_use_leaves rejected
  exact ⟨rejected, always.2 ⟨rfl, rfl⟩⟩

/-- The plugin and the settings before the malformed ones are there to stay. -/
theorem rejected_list_noticed :
    let t := (Nested.setup.use Rejected.late).2
    (Nested.setup.use Rejected.late).1 =
      .error (.configuration (.settingsNotObject .null)) ∧
    Nested.setup.config.registry.attachers = [] ∧
    t.config.registry.attachers = [⟨Nested.named "a", [], true⟩] ∧
    Nested.setup.data.get? Namespace.settingsKey = none ∧
    t.data.get? Namespace.settingsKey = some Nested.outer ∧ t ≠ Nested.setup ∧
    (Rejected.attacher.run Attach.handle Nested.setup).1 = (false, Nested.outer.object?) := by
  intro t
  refine ⟨rfl, rfl, rfl, rfl, rfl, ?_, rfl⟩
  intro same
  have noticed := congrArg (·.config.registry.attachers.isEmpty) same
  exact Bool.noConfusion noticed

end DocPipeline
