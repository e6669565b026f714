import DocPipeline.Registry
import DocPipeline.Proofs.Merging

/-!
# Entries of the registry

What a list of registrations makes of the registry, entry by entry: an entry is
revised by the registrations of its own plugin and by no others.  The same list
registered once more revises nothing.
-/

namespace DocPipeline

namespace Attacher

def firstOption (a : Attacher) : Value := a.options.headD .null

/-- A registration of this kind is merged into an entry, any other replaces it. -/
def Merges (a : Attacher) : Prop := a.enabled = true ∧ a.firstOption.object? ≠ none

theorem update_of_merges {new : Attacher} (h : new.Merges) (old : Attacher) :
    old.update new = { old with
      options := old.firstOption.merge new.firstOption :: new.options.tail
      enabled := true } := by
  obtain ⟨plugin, options, enabled⟩ := new
  obtain ⟨rfl, object⟩ := h
  cases options with
  | nil => exact absurd rfl object
  | cons first tail =>
      cases first with
      | object fields =>
          obtain ⟨plugin, options, enabled⟩ := old
          cases options with
          | nil => rfl
          | cons v vs => cases v <;> rfl
      | _ => exact absurd rfl object

theorem update_of_not_merges {new : Attacher} (h : ¬ new.Merges) (old : Attacher) :
    old.update new = { old with options := new.options, enabled := new.enabled } := by
  unfold update nextOptions
  split
  · next enabled _ options =>
    refine absurd ⟨enabled, ?_⟩ h
    rw [firstOption, options]
    simp [Value.object?]
  · rfl

/-- Registrations that all merge come to one that merges, whatever the entry was. -/
theorem foldl_update_of_merges {new : Attacher} {more : List Attacher}
    (h : ∀ a ∈ new :: more, a.Merges) : ∃ tail, ∀ old : Attacher,
      (new :: more).foldl update old = { old with
        options := ((new :: more).map firstOption).foldl Value.merge old.firstOption :: tail
        enabled := true } := by
  induction more generalizing new with
  | nil =>
      refine ⟨new.options.tail, ?_⟩
      intro old
      exact update_of_merges (h new List.mem_cons_self) old
  | cons next more ih =>
      obtain ⟨tail, later⟩ := ih fun a ha => h a (List.mem_cons_of_mem _ ha)
      refine ⟨tail, ?_⟩
      intro old
      rw [List.foldl_cons, later, update_of_merges (h new List.mem_cons_self)]
      rfl

theorem foldl_update_again (news : List Attacher) (old : Attacher) :
    news.foldl update (news.foldl update old) = news.foldl update old := by
  have kept : (news.foldl update old).plugin = old.plugin := by
    induction news generalizing old with
    | nil => rfl
    | cons new news ih => exact ih (old.update new)
  by_cases merge : ∀ a ∈ news, a.Merges
  -- all first options are merged into one, and merging them again changes nothing
  · cases news with
    | nil => rfl
    | cons new more =>
        obtain ⟨tail, all⟩ := foldl_update_of_merges merge
        rw [all, all]
        have again := Value.foldl_merge_again ((new :: more).map firstOption) old.firstOption
        simp only [firstOption, List.headD_cons] at again ⊢
        rw [again]
  -- one replaces the options, whatever they were when the list began
  · push Not at merge
    obtain ⟨a, ha, replaces⟩ := merge
    have keeps : ∀ s t new : Attacher, s.plugin = t.plugin →
        (s.update new).plugin = (t.update new).plugin := fun _ _ _ h => h
    refine foldl_eq_of_forgets keeps ha ?_ kept
    intro s t same
    rw [update_of_not_merges replaces, update_of_not_merges replaces, same]

/-- The entry of a plugin after one registration; before the first there is none. -/
def revise (entry : Option Attacher) (new : Attacher) : Option Attacher :=
  some (entry.elim new (·.update new))

theorem foldl_revise_some (old : Attacher) (news : List Attacher) :
    news.foldl revise (some old) = some (news.foldl update old) := by
  induction news generalizing old with
  | nil => rfl
  | cons new news ih => exact ih (old.update new)

/-- The first registration of a plugin is as good as one that finds a blank entry. -/
theorem update_blank (new : Attacher) : update ⟨new.plugin, [], false⟩ new = new := by
  obtain ⟨plugin, options, enabled⟩ := new
  cases enabled <;> rfl

theorem foldl_revise_none (new : Attacher) (more : List Attacher) :
    (new :: more).foldl revise none =
      some ((new :: more).foldl update ⟨new.plugin, [], false⟩) := by
  rw [← foldl_revise_some, List.foldl_cons, List.foldl_cons, revise, revise, Option.elim,
    Option.elim, update_blank]

theorem foldl_revise_again (entry : Option Attacher) (news : List Attacher) :
    news.foldl revise (news.foldl revise entry) = news.foldl revise entry := by
  cases entry with
  | some old => rw [foldl_revise_some, foldl_revise_some, foldl_update_again]
  | none =>
      cases news with
      | nil => rfl
      | cons new more =>
          rw [foldl_revise_none, foldl_revise_some, foldl_update_again]

end Attacher

namespace Registry

def lookup (r : Registry) (i : Identity) : Option Attacher :=
  r.attachers.find? fun a => a.identity = i

theorem find?_registerIn (new : Attacher) (as : List Attacher) (i : Identity) :
    (registerIn new as).find? (fun a => a.identity = i) =
      if new.identity = i then Attacher.revise (as.find? fun a => a.identity = i) new
      else as.find? fun a => a.identity = i := by
  induction as with
  | nil => by_cases own : new.identity = i <;> simp [registerIn, own, Attacher.revise]
  | cons a as ih =>
      have updated : (a.update new).identity = a.identity := rfl
      by_cases same : a.plugin.same new.plugin = true
      · have one : a.identity = new.identity := by
          simpa [Plugin.same, Attacher.identity] using same
        rw [registerIn, if_pos same, List.find?_cons, List.find?_cons, updated, one]
        by_cases own : new.identity = i <;> simp [own, Attacher.revise]
      · have two : a.identity ≠ new.identity := by
          simpa [Plugin.same, Attacher.identity] using same
        rw [registerIn, if_neg same, List.find?_cons, List.find?_cons, ih]
        by_cases here : a.identity = i
        · have other : new.identity ≠ i := fun own => two (here.trans own.symm)
          simp [here, other]
        · simp [here]

theorem lookup_register (r : Registry) (new : Attacher) (i : Identity) :
    (r.register new).lookup i =
      if new.identity = i then Attacher.revise (r.lookup i) new else r.lookup i :=
  find?_registerIn new r.attachers i

theorem lookup_eq_none {r : Registry} {i : Identity} (h : i ∉ r.identities) :
    r.lookup i = none := by
  refine List.find?_eq_none.2 ?_
  intro a ha named
  exact h (List.mem_map.2 ⟨a, ha, by simpa using named⟩)

theorem lookup_of_getElem? {r : Registry} {k : Nat} {a : Attacher}
    (h : r.attachers[k]? = some a) : r.lookup a.identity = some a := by
  obtain ⟨inside, rfl⟩ := List.getElem?_eq_some_iff.1 h
  refine List.find?_eq_some_iff_getElem.2 ⟨by simp, k, inside, rfl, ?_⟩
  intro j earlier
  have distinct := List.pairwise_iff_getElem.1 (List.pairwise_map.1 r.distinct)
  simpa using distinct j k (by omega) inside earlier

theorem ext_lookup {r r' : Registry} (identities : r.identities = r'.identities)
    (entries : ∀ i, r.lookup i = r'.lookup i) : r = r' := by
  have same : r.attachers = r'.attachers := by
    apply List.ext_getElem?
    intro k
    have place : (r.attachers[k]?).map Attacher.identity =
        (r'.attachers[k]?).map Attacher.identity := by
      simpa [Registry.identities] using congrArg (·[k]?) identities
    cases here : r.attachers[k]? with
    | none =>
        rw [here] at place
        exact (Option.map_eq_none_iff.1 place.symm).symm
    | some a =>
        rw [here] at place
        obtain ⟨b, there, named⟩ := Option.map_eq_some_iff.1 place.symm
        have one := lookup_of_getElem? here
        rw [← named, entries, lookup_of_getElem? there] at one
        rw [there, one]
  cases r
  cases r'
  cases same
  rfl

theorem lookup_foldl_register (news : List Attacher) (r : Registry) (i : Identity) :
    (news.foldl register r).lookup i =
      (news.filter (fun a => a.identity = i)).foldl Attacher.revise (r.lookup i) := by
  induction news generalizing r with
  | nil => rfl
  | cons new news ih =>
      rw [List.foldl_cons, ih, lookup_register, List.filter_cons]
      by_cases own : new.identity = i <;> simp [own]

theorem mem_identities_foldl_register_iff {news : List Attacher} {r : Registry}
    {i : Identity} :
    i ∈ (news.foldl register r).identities ↔ i ∈ r.identities ∨ ∃ a ∈ news, a.identity = i := by
  induction news generalizing r with
  | nil => simp
  | cons new news ih =>
      rw [List.foldl_cons, ih, mem_identities_register_iff, or_assoc]
      simp [eq_comm]

theorem identities_foldl_register_of_mem {news : List Attacher} {r : Registry}
    (h : ∀ a ∈ news, a.identity ∈ r.identities) :
    (news.foldl register r).identities = r.identities := by
  induction news generalizing r with
  | nil => rfl
  | cons new news ih =>
      have kept : (r.register new).identities = r.identities := by
        rw [identities_register, if_pos (h new List.mem_cons_self)]
      rw [List.foldl_cons, ih, kept]
      intro a ha
      rw [kept]
      exact h a (List.mem_cons_of_mem _ ha)

/-- Identities are those of the first time, and so is every entry. -/
theorem foldl_register_again (news : List Attacher) (r : Registry) :
    news.foldl register (news.foldl register r) = news.foldl register r := by
  refine ext_lookup (identities_foldl_register_of_mem ?_) ?_
  · intro a ha
    exact mem_identities_foldl_register_iff.2 (.inr ⟨a, ha, rfl⟩)
  · intro i
    rw [lookup_foldl_register, lookup_foldl_register, Attacher.foldl_revise_again]

end Registry

end DocPipeline
