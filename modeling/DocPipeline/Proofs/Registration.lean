import DocPipeline.Registry

/-!
# What registering can do

Registering a plugin changes one entry in place or adds one at the end; using a
pluggable is a sequence of registrations and of merges into the settings.
-/

namespace DocPipeline

namespace Registry

def plugins (r : Registry) : List Plugin := r.attachers.map Attacher.plugin

theorem length_plugins (r : Registry) : r.plugins.length = r.size := by
  simp [plugins, size]

theorem registerIn_cases (new : Attacher) (as : List Attacher) :
    (∃ before a after, as = before ++ a :: after ∧ a.identity = new.identity ∧
        registerIn new as = before ++ a.update new :: after) ∨
      registerIn new as = as ++ [new] := by
  induction as with
  | nil => exact .inr rfl
  | cons a as ih =>
      unfold registerIn
      by_cases h : a.plugin.same new.plugin = true
      · have hid : a.identity = new.identity := by
          simpa [Plugin.same, Attacher.identity] using h
        rw [if_pos h]
        exact .inl ⟨[], a, as, rfl, hid, rfl⟩
      · rw [if_neg h]
        rcases ih with ⟨before, b, after, rfl, hid, hnew⟩ | hnew
        · rw [hnew]
          exact .inl ⟨a :: before, b, after, rfl, hid, rfl⟩
        · rw [hnew]
          exact .inr rfl

theorem plugins_register (r : Registry) (new : Attacher) :
    r.plugins <+: (r.register new).plugins := by
  change r.attachers.map Attacher.plugin <+:
    (registerIn new r.attachers).map Attacher.plugin
  rcases registerIn_cases new r.attachers with ⟨before, a, after, has, -, hnew⟩ | hnew
  · rw [hnew, has]
    simp [Attacher.update]
  · rw [hnew, List.map_append]
    exact List.prefix_append _ _

theorem plugin_of_mem_register {r : Registry} {new a : Attacher}
    (h : a ∈ (r.register new).attachers) :
    a.plugin = new.plugin ∨ ∃ b ∈ r.attachers, a.plugin = b.plugin := by
  rcases registerIn_cases new r.attachers with ⟨before, b, after, has, -, updated⟩ | added
  · have own : a ∈ before ++ b.update new :: after := updated ▸ h
    rcases List.mem_append.1 own with early | late
    · exact .inr ⟨a, has ▸ List.mem_append_left _ early, rfl⟩
    · rcases List.mem_cons.1 late with rfl | late
      · exact .inr ⟨b, has ▸ List.mem_append_right _ List.mem_cons_self, rfl⟩
      · exact .inr ⟨a, has ▸ List.mem_append_right _ (List.mem_cons_of_mem _ late), rfl⟩
  · have own : a ∈ r.attachers ++ [new] := added ▸ h
    rcases List.mem_append.1 own with old | fresh
    · exact .inr ⟨a, old, rfl⟩
    · exact .inl (congrArg Attacher.plugin (List.mem_singleton.1 fresh))

theorem plugin_of_mem_foldl_register {r : Registry} {news : List Attacher} {a : Attacher}
    (h : a ∈ (news.foldl register r).attachers) :
    (∃ b ∈ news, a.plugin = b.plugin) ∨ ∃ b ∈ r.attachers, a.plugin = b.plugin := by
  induction news generalizing r with
  | nil => exact .inr ⟨a, h, rfl⟩
  | cons new news ih =>
      rcases ih h with ⟨b, hb, same⟩ | ⟨b, hb, same⟩
      · exact .inl ⟨b, List.mem_cons_of_mem _ hb, same⟩
      · rcases plugin_of_mem_register hb with own | ⟨c, hc, old⟩
        · exact .inl ⟨new, List.mem_cons_self, same.trans own⟩
        · exact .inr ⟨c, hc, same.trans old⟩

/-- A plugin that is not in use yet is added at the end, as it is registered. -/
theorem attachers_register_of_not_mem {r : Registry} {new : Attacher}
    (h : new.identity ∉ r.identities) : (r.register new).attachers = r.attachers ++ [new] := by
  rcases registerIn_cases new r.attachers with ⟨before, a, after, has, same, -⟩ | added
  · refine absurd (List.mem_map.2 ⟨a, ?_, same⟩) h
    rw [has]
    exact List.mem_append_right before List.mem_cons_self
  · exact added

theorem attachers_foldl_register {news : List Attacher} {r : Registry}
    (distinct : (r.identities ++ news.map Attacher.identity).Nodup) :
    (news.foldl register r).attachers = r.attachers ++ news := by
  induction news generalizing r with
  | nil => exact (List.append_nil _).symm
  | cons new news ih =>
      rw [List.map_cons] at distinct
      have fresh : new.identity ∉ r.identities := fun old =>
        (List.nodup_append.1 distinct).2.2 _ old _ List.mem_cons_self rfl
      have added : (r.register new).identities = r.identities ++ [new.identity] := by
        rw [identities_register, if_neg fresh]
      rw [List.foldl_cons, ih, attachers_register_of_not_mem fresh, ← List.append_cons]
      rw [added, ← List.append_cons]
      exact distinct

theorem pairwise_not_same (r : Registry) :
    r.attachers.Pairwise fun a b => a.plugin.same b.plugin = false := by
  have distinct := List.pairwise_map.1 r.distinct
  refine distinct.imp ?_
  intro a b hne
  simpa [Plugin.same, Attacher.identity] using hne

end Registry

/-! ## Using -/

/-- A way to get from a registry and a namespace to others, open to all that using does. -/
structure Reaches (R : Registry × Namespace → Registry × Namespace → Prop) : Prop where
  refl : ∀ s, R s s
  trans : ∀ {s t u}, R s t → R t u → R s u
  register : ∀ r ns a, R (r, ns) (r.register a, ns)
  merge : ∀ r ns settings, R (r, ns) (r, ns.mergeSettings (.object settings))

namespace Pluggable

variable {R : Registry × Namespace → Registry × Namespace → Prop}

mutual

theorem applyTo_reaches (h : Reaches R) (p : Pluggable) (s : Registry × Namespace) :
    R s (p.applyTo s).2 := by
  match p with
  | .plugin used options enabled => exact h.register s.1 s.2 ⟨used, options, enabled⟩
  | .list items =>
      rw [Pluggable.applyTo]
      exact applyAll_reaches h items s
  | .preset items none =>
      rw [Pluggable.applyTo]
      exact applyAll_reaches h items s
  | .preset items (some settings) =>
      cases settings with
      | object fields =>
          have all := applyAll_reaches h items s
          simp only [Pluggable.applyTo]
          split
          · next heq =>
            rw [heq] at all
            exact h.trans all (h.merge _ _ fields)
          · exact all
      | _ => exact h.refl s

theorem applyAll_reaches (h : Reaches R) (items : List Pluggable)
    (s : Registry × Namespace) : R s (applyAll items s).2 := by
  match items with
  | [] => exact h.refl s
  | item :: items =>
      have first := applyTo_reaches h item s
      simp only [applyAll]
      split
      · next s' heq =>
        rw [heq] at first
        exact h.trans first (applyAll_reaches h items s')
      · exact first

end

theorem plugins_applyTo (p : Pluggable) (s : Registry × Namespace) :
    s.1.plugins <+: (p.applyTo s).2.1.plugins := by
  have growing : Reaches fun s t => s.1.plugins <+: t.1.plugins := {
    refl := fun _ => List.prefix_rfl
    trans := List.IsPrefix.trans
    register := fun r _ a => r.plugins_register a
    merge := fun _ _ _ => List.prefix_rfl }
  exact p.applyTo_reaches growing s

end Pluggable

end DocPipeline
