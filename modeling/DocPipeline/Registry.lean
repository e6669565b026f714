import DocPipeline.Plugin
import DocPipeline.Namespace
import DocPipeline.Error

/-!
# The attacher registry

The registry lists the plugins in use in the order of their first registration,
each once.  Registering a plugin again changes its entry in place: new options
replace the old ones, except that an object as first option is merged into an
object that was the first option before.
-/

namespace DocPipeline

/-- A plugin in use, with its options; a disabled one is listed but never attached. -/
structure Attacher where
  plugin : Plugin
  options : List Value
  enabled : Bool
  deriving DecidableEq

namespace Attacher

def identity (a : Attacher) : Identity := a.plugin.identity

/-- The options after `new` registered the plugin once more. -/
def nextOptions (old new : Attacher) : List Value :=
  match new.enabled, old.options, new.options with
  | true, .object target :: _, .object source :: tail =>
      .object (target.merge source) :: tail
  | _, _, options => options

def update (old new : Attacher) : Attacher :=
  { old with options := old.nextOptions new, enabled := new.enabled }

end Attacher

structure Registry where
  attachers : List Attacher := []
  distinct : (attachers.map Attacher.identity).Nodup := by exact List.nodup_nil
  deriving DecidableEq

namespace Registry

instance : Inhabited Registry := ⟨{}⟩

def identities (r : Registry) : List Identity := r.attachers.map Attacher.identity

def size (r : Registry) : Nat := r.attachers.length

def registerIn (new : Attacher) : List Attacher → List Attacher
  | [] => [new]
  | a :: as => if a.plugin.same new.plugin then a.update new :: as else a :: registerIn new as

theorem identities_registerIn (new : Attacher) (as : List Attacher) :
    (registerIn new as).map Attacher.identity =
      if new.identity ∈ as.map Attacher.identity then as.map Attacher.identity
      else as.map Attacher.identity ++ [new.identity] := by
  induction as with
  | nil => rfl
  | cons a as ih =>
      unfold registerIn
      by_cases h : a.plugin.same new.plugin = true
      · have hid : a.identity = new.identity := by
          simpa [Plugin.same, Attacher.identity] using h
        have hup : (a.update new).identity = a.identity := rfl
        rw [if_pos h, List.map_cons, List.map_cons, hup,
          if_pos (List.mem_cons.2 (.inl hid.symm))]
      · have hid : new.identity ≠ a.identity := by
          intro he
          exact h (by simpa [Plugin.same, Attacher.identity] using he.symm)
        rw [if_neg h, List.map_cons, List.map_cons, ih]
        by_cases hm : new.identity ∈ as.map Attacher.identity
        · rw [if_pos hm, if_pos (List.mem_cons_of_mem _ hm)]
        · rw [if_neg hm, if_neg (fun hc => (List.mem_cons.1 hc).elim hid hm)]
          rfl

def register (r : Registry) (new : Attacher) : Registry where
  attachers := registerIn new r.attachers
  distinct := by
    rw [identities_registerIn]
    split
    · exact r.distinct
    · next hnew =>
      refine List.nodup_append.2 ⟨r.distinct, by simp, ?_⟩
      intro i hi j hj he
      rw [List.mem_singleton] at hj
      exact hnew (hj ▸ he ▸ hi)

/-- Registering keeps every entry at its place and adds at most one at the end. -/
theorem identities_register (r : Registry) (new : Attacher) :
    (r.register new).identities =
      if new.identity ∈ r.identities then r.identities
      else r.identities ++ [new.identity] :=
  identities_registerIn new r.attachers

theorem mem_identities_register_iff {r : Registry} {new : Attacher} {i : Identity} :
    i ∈ (r.register new).identities ↔ i ∈ r.identities ∨ i = new.identity := by
  rw [identities_register]
  split
  · next old =>
    constructor
    · exact Or.inl
    · rintro (here | rfl)
      · exact here
      · exact old
  · simp

end Registry

/-! ## Using -/

mutual

/--
Registers everything in a pluggable, in order.  A preset's settings must be an
object, which is checked before its plugins are registered; they are merged
into the namespace after that.  What was done before a fault is found stays.
-/
def Pluggable.applyTo : Pluggable → Registry × Namespace →
    Except ConfigurationFault Unit × (Registry × Namespace)
  | .plugin used options enabled, (r, ns) =>
      (.ok (), r.register ⟨used, options, enabled⟩, ns)
  | .list items, s => Pluggable.applyAll items s
  | .preset items none, s => Pluggable.applyAll items s
  | .preset items (some (.object settings)), s =>
      match Pluggable.applyAll items s with
      | (.ok (), r, ns) => (.ok (), r, ns.mergeSettings (.object settings))
      | failed => failed
  | .preset _ (some settings), s => (.error (.settingsNotObject settings.kind), s)

def Pluggable.applyAll : List Pluggable → Registry × Namespace →
    Except ConfigurationFault Unit × (Registry × Namespace)
  | [], s => (.ok (), s)
  | item :: items, s =>
      match item.applyTo s with
      | (.ok (), s) => Pluggable.applyAll items s
      | failed => failed

end

mutual

theorem Pluggable.identities_applyTo (p : Pluggable) (s : Registry × Namespace) :
    s.1.identities <+: (p.applyTo s).2.1.identities := by
  match p with
  | .plugin used options enabled =>
      simp only [Pluggable.applyTo, Registry.identities_register]
      split
      · exact List.prefix_rfl
      · exact List.prefix_append _ _
  | .list items =>
      simpa only [Pluggable.applyTo] using Pluggable.identities_applyAll items s
  | .preset items none =>
      simpa only [Pluggable.applyTo] using Pluggable.identities_applyAll items s
  | .preset items (some settings) =>
      have ih := Pluggable.identities_applyAll items s
      cases settings with
      | object fields =>
          simp only [Pluggable.applyTo]
          split
          · next heq => simpa [heq] using ih
          · exact ih
      | _ => exact List.prefix_rfl

theorem Pluggable.identities_applyAll (items : List Pluggable) (s : Registry × Namespace) :
    s.1.identities <+: (Pluggable.applyAll items s).2.1.identities := by
  match items with
  | [] => exact List.prefix_rfl
  | item :: items =>
      have first := Pluggable.identities_applyTo item s
      simp only [Pluggable.applyAll]
      split
      · next s' heq =>
        rw [heq] at first
        exact first.trans (Pluggable.identities_applyAll items s')
      · exact first

end

end DocPipeline
