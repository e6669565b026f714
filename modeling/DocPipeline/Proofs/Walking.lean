import DocPipeline.Registry
import Mathlib.Data.List.TakeWhile

/-!
# Walks through pluggables

Using a pluggable is a recursion over lists and presets that stops at the first
preset with malformed settings.  The same is done by a plain list of steps that
are taken one after the other: what is registered, checked and merged can be
read off the list in its own order.
-/

namespace DocPipeline

namespace Pluggable

variable {α β : Type}

/-! ## Walks -/

mutual

/--
What a walk through a pluggable meets, from left to right.  It comes to the
settings of a preset twice: before everything inside the preset, and after it.
-/
def walk (leaf : Attacher → List α) (enter leave : Value → List α) : Pluggable → List α
  | .plugin used options enabled => leaf ⟨used, options, enabled⟩
  | .list items => walkAll leaf enter leave items
  | .preset items settings =>
      settings.toList.flatMap enter ++ walkAll leaf enter leave items ++
        settings.toList.flatMap leave

def walkAll (leaf : Attacher → List α) (enter leave : Value → List α) :
    List Pluggable → List α
  | [] => []
  | item :: items => item.walk leaf enter leave ++ walkAll leaf enter leave items

end

/-- The plugins to register, from left to right. -/
def leaves : Pluggable → List Attacher :=
  walk (fun a => [a]) (fun _ => []) (fun _ => [])

/-- The settings that presets come with, those of an outer preset before those inside it. -/
def stated : Pluggable → List Value :=
  walk (fun _ => []) (fun v => [v]) (fun _ => [])

/-- The same settings, those of an outer preset after those inside it. -/
def merged : Pluggable → List Value :=
  walk (fun _ => []) (fun _ => []) (fun v => [v])

section Filter

variable (leaf : Attacher → List α) (enter leave : Value → List α) (f : α → Option β)

mutual

theorem filterMap_walk (p : Pluggable) :
    (p.walk leaf enter leave).filterMap f =
      p.walk (fun a => (leaf a).filterMap f) (fun v => (enter v).filterMap f)
        (fun v => (leave v).filterMap f) := by
  match p with
  | .plugin used options enabled => rfl
  | .list items => exact filterMap_walkAll items
  | .preset items settings =>
      simp only [walk, List.filterMap_append, filterMap_walkAll items]
      cases settings with
      | none => rfl
      | some v => simp

theorem filterMap_walkAll (items : List Pluggable) :
    (walkAll leaf enter leave items).filterMap f =
      walkAll (fun a => (leaf a).filterMap f) (fun v => (enter v).filterMap f)
        (fun v => (leave v).filterMap f) items := by
  match items with
  | [] => rfl
  | item :: items =>
      simp only [walkAll, List.filterMap_append, filterMap_walk item, filterMap_walkAll items]

end

end Filter

/-! ## Steps -/

/-- What using does at each place that the walk comes to. -/
inductive Step where
  | check (settings : Value)
  | register (new : Attacher)
  | merge (settings : Value)

namespace Step

def checked? : Step → Option Value
  | .check settings => some settings
  | _ => none

def registered? : Step → Option Attacher
  | .register new => some new
  | _ => none

def merged? : Step → Option Value
  | .merge settings => some settings
  | _ => none

def fault? : Step → Option ConfigurationFault
  | .check (.object _) => none
  | .check settings => some (.settingsNotObject settings.kind)
  | _ => none

def apply : Step → Registry × Namespace → Registry × Namespace
  | .check _, s => s
  | .register new, (r, ns) => (r.register new, ns)
  | .merge settings, (r, ns) => (r, ns.mergeSettings settings)

/-- Takes step after step, up to the first that is at fault. -/
def takeAll : List Step → Registry × Namespace →
    Except ConfigurationFault Unit × (Registry × Namespace)
  | [], s => (.ok (), s)
  | step :: steps, s =>
      match step.fault? with
      | none => takeAll steps (step.apply s)
      | some fault => (.error fault, s)

theorem takeAll_append (steps more : List Step) (s : Registry × Namespace) :
    takeAll (steps ++ more) s =
      match takeAll steps s with
      | (.ok (), s) => takeAll more s
      | failed => failed := by
  induction steps generalizing s with
  | nil => rfl
  | cons step steps ih =>
      rw [List.cons_append, takeAll, takeAll]
      cases step.fault? with
      | none => exact ih (step.apply s)
      | some fault => rfl

/-- The steps before the first that is at fault. -/
def sound (steps : List Step) : List Step := steps.takeWhile fun step => step.fault?.isNone

theorem takeAll_eq (steps : List Step) (s : Registry × Namespace) :
    takeAll steps s =
      ((match steps.findSome? fault? with
        | none => .ok ()
        | some fault => .error fault), (sound steps).foldl (fun s step => step.apply s) s) := by
  induction steps generalizing s with
  | nil => rfl
  | cons step steps ih =>
      rw [takeAll, List.findSome?_cons, sound, List.takeWhile_cons]
      cases step.fault? with
      | none => exact ih (step.apply s)
      | some fault => rfl

theorem foldl_apply (steps : List Step) (s : Registry × Namespace) :
    steps.foldl (fun s step => step.apply s) s =
      ((steps.filterMap registered?).foldl Registry.register s.1,
        (steps.filterMap merged?).foldl Namespace.mergeSettings s.2) := by
  induction steps generalizing s with
  | nil => rfl
  | cons step steps ih =>
      rw [List.foldl_cons, ih]
      cases step <;> rfl

end Step

def steps : Pluggable → List Step :=
  walk (fun a => [.register a]) (fun v => [.check v]) (fun v => [.merge v])

def stepsAll : List Pluggable → List Step :=
  walkAll (fun a => [.register a]) (fun v => [.check v]) (fun v => [.merge v])

theorem registered_steps (p : Pluggable) : p.steps.filterMap Step.registered? = p.leaves :=
  filterMap_walk ..

theorem checked_steps (p : Pluggable) : p.steps.filterMap Step.checked? = p.stated :=
  filterMap_walk ..

theorem merged_steps (p : Pluggable) : p.steps.filterMap Step.merged? = p.merged :=
  filterMap_walk ..

-- The induction is on the pluggable.  A preset is entered with a check and left
-- with a merge, and the steps in between are those of its items.

mutual

theorem applyTo_eq_takeAll (p : Pluggable) (s : Registry × Namespace) :
    p.applyTo s = Step.takeAll p.steps s := by
  match p with
  | .plugin used options enabled => rfl
  | .list items =>
      rw [applyTo]
      exact applyAll_eq_takeAll items s
  | .preset items none =>
      have inside : steps (.preset items none) = stepsAll items := by
        simp [steps, stepsAll, walk]
      rw [applyTo, inside]
      exact applyAll_eq_takeAll items s
  | .preset items (some settings) =>
      cases settings with
      | object fields =>
          have entered : steps (.preset items (some (.object fields))) =
              .check (.object fields) :: (stepsAll items ++ [.merge (.object fields)]) := by
            simp [steps, stepsAll, walk]
          rw [applyTo, entered]
          change _ = Step.takeAll (stepsAll items ++ [.merge (.object fields)]) s
          rw [Step.takeAll_append, applyAll_eq_takeAll items s]
          cases Step.takeAll (stepsAll items) s with
          | mk result s' => cases result <;> rfl
      | _ => rfl

theorem applyAll_eq_takeAll (items : List Pluggable) (s : Registry × Namespace) :
    applyAll items s = Step.takeAll (stepsAll items) s := by
  match items with
  | [] => rfl
  | item :: items =>
      have first : stepsAll (item :: items) = item.steps ++ stepsAll items := rfl
      rw [applyAll, first, Step.takeAll_append, applyTo_eq_takeAll item s]
      cases Step.takeAll item.steps s with
      | mk result s' =>
          cases result with
          | ok done => exact applyAll_eq_takeAll items s'
          | error fault => rfl

end

/-- The first settings that are no object, if there are any. -/
def malformed? (p : Pluggable) : Option Value := p.stated.find? fun v => v.object?.isNone

theorem stated_of_malformed {p : Pluggable} {v : Value} (h : p.malformed? = some v) :
    ∃ before after, p.stated = before ++ v :: after ∧ v.object? = none ∧
      ∀ u ∈ before, u.object? ≠ none := by
  obtain ⟨bad, before, after, split, good⟩ := List.find?_eq_some_iff_append.1 h
  refine ⟨before, after, split, by simpa using bad, ?_⟩
  intro u hu whole
  have kept := good u hu
  simp [whole] at kept

theorem malformed_iff {p : Pluggable} :
    p.malformed? ≠ none ↔ ∃ v ∈ p.stated, v.object? = none := by
  simp [malformed?]

/-- The steps that using takes before it comes to malformed settings. -/
def taken (p : Pluggable) : List Step := Step.sound p.steps

theorem Step.findSome?_fault (steps : List Step) :
    steps.findSome? Step.fault? =
      ((steps.filterMap Step.checked?).find? fun v => v.object?.isNone).map fun v =>
        .settingsNotObject v.kind := by
  induction steps with
  | nil => rfl
  | cons step steps ih =>
      rw [List.findSome?_cons, List.filterMap_cons]
      cases step with
      | check settings =>
          cases settings with
          | object fields => exact ih
          | _ => rfl
      | _ => exact ih

theorem fault_steps (p : Pluggable) : p.steps.findSome? Step.fault? =
    p.malformed?.map fun v => .settingsNotObject v.kind := by
  rw [Step.findSome?_fault, checked_steps, malformed?]

theorem Step.check_of_fault {step : Step} {fault : ConfigurationFault}
    (h : step.fault? = some fault) : ∃ v, step = .check v ∧ v.object? = none ∧
      fault = .settingsNotObject v.kind := by
  cases step with
  | check v =>
      cases v with
      | object fields => cases h
      | _ =>
        cases h
        exact ⟨_, rfl, rfl, rfl⟩
  | _ => cases h

/-- The steps that are taken are those before the check of the malformed settings. -/
theorem steps_of_malformed {p : Pluggable} {v : Value} (h : p.malformed? = some v) :
    ∃ u rest, p.steps = p.taken ++ .check u :: rest ∧ u.object? = none ∧ v.kind = u.kind := by
  have fault := p.fault_steps
  rw [h, Option.map_some, List.findSome?_eq_some_iff] at fault
  obtain ⟨before, step, after, split, faulty, good⟩ := fault
  obtain ⟨u, rfl, bad, kind⟩ := Step.check_of_fault faulty
  have taken : p.taken = before := by
    rw [taken, split, Step.sound, List.takeWhile_append_of_pos (by simpa using good),
      List.takeWhile_cons_of_neg (by simp [faulty]), List.append_nil]
  refine ⟨u, after, ?_, bad, ConfigurationFault.settingsNotObject.inj kind⟩
  rw [split, taken]

theorem taken_of_wellFormed {p : Pluggable} (h : p.malformed? = none) : p.taken = p.steps := by
  have sound := p.fault_steps
  rw [h, Option.map_none, List.findSome?_eq_none_iff] at sound
  refine List.takeWhile_eq_self_iff.2 ?_
  intro step hstep
  rw [sound step hstep]
  rfl

end Pluggable

end DocPipeline
