import DocPipeline.Value.Merge
import Mathlib.Data.Set.List

/-!
# Merging the same again

Deep merge is neither commutative nor associative, since an object that is
merged into something else replaces it.  Even so a whole list of sources that is
merged into its own result changes nothing.
-/

namespace DocPipeline

/-- What follows a step that forgets how the states differ is the same for both. -/
theorem foldl_eq_of_forgets {σ α : Type} {f : σ → α → σ} {R : σ → σ → Prop}
    (keeps : ∀ s t a, R s t → R (f s a) (f t a)) {l : List α} {a : α} (h : a ∈ l)
    (forgets : ∀ s t, R s t → f s a = f t a) {s t : σ} (related : R s t) :
    l.foldl f s = l.foldl f t := by
  induction l generalizing s t with
  | nil => simp at h
  | cons b l ih =>
      rw [List.foldl_cons, List.foldl_cons]
      rcases List.mem_cons.1 h with rfl | later
      · rw [forgets s t related]
      · exact ih later (keeps s t b related)

namespace Fields

def mergeAll (target : Object) (sources : List Object) : Object :=
  sources.foldl (fun target source => target.merge source) target

theorem get?_mergeAll (target : Object) (sources : List Object) (k : String) :
    (target.mergeAll sources).get? k =
      match sources.filterMap (·.get? k) with
      | [] => target.get? k
      | v :: vs => some ((v :: vs).foldl Value.merge ((target.get? k).getD .null)) := by
  induction sources generalizing target with
  | nil => rfl
  | cons source sources ih =>
      rw [mergeAll, List.foldl_cons, ← mergeAll, ih, get?_merge, List.filterMap_cons]
      cases source.get? k with
      | none => rfl
      | some v => cases sources.filterMap (·.get? k) <;> rfl

end Fields

namespace Value

/-- What is no object is merged into as if it were an empty one. -/
theorem merge_object (target : Value) (fields : Object) :
    target.merge (.object fields) = .object (((target.object?).getD .nil).merge fields) := by
  cases target with
  | object old => rfl
  | _ =>
    refine congrArg Value.object (Fields.ext_get? fun k => ?_)
    rw [Fields.get?_merge]
    cases fields.get? k with
    | none => rfl
    | some v => exact congrArg some (null_merge v).symm

theorem foldl_merge_objects (target : Value) (fields : Object) (sources : List Object) :
    ((fields :: sources).map .object).foldl Value.merge target =
      .object (((target.object?).getD .nil).mergeAll (fields :: sources)) := by
  rw [List.map_cons, List.foldl_cons, merge_object, Fields.mergeAll, List.foldl_cons]
  generalize ((target.object?).getD .nil).merge fields = merged
  induction sources generalizing merged with
  | nil => rfl
  | cons source sources ih => exact ih (merged.merge source)

/-- Merging the same once more changes nothing, if it does so for the values inside. -/
theorem mergeAll_again_of_inside {sources : List Object}
    (inside : ∀ k, ∀ target : Value,
      (sources.filterMap (·.get? k)).foldl merge
        ((sources.filterMap (·.get? k)).foldl merge target) =
          (sources.filterMap (·.get? k)).foldl merge target) (target : Object) :
    (target.mergeAll sources).mergeAll sources = target.mergeAll sources := by
  apply Fields.ext_get?
  intro k
  have again := inside k ((target.get? k).getD .null)
  rw [Fields.get?_mergeAll, Fields.get?_mergeAll]
  cases values : sources.filterMap (·.get? k) with
  | nil => rfl
  | cons v vs =>
      rw [values] at again
      exact congrArg some again

/--
A source that is no object makes up for all that was before it.  Where all are
objects they are merged key by key, and the values inside them are smaller.
-/
theorem foldl_merge_again_of_small {n : Nat} {sources : List Value}
    (small : ∀ v ∈ sources, sizeOf v < n) (target : Value) :
    sources.foldl merge (sources.foldl merge target) = sources.foldl merge target := by
  induction n generalizing sources target with
  | zero =>
      cases sources with
      | nil => rfl
      | cons v vs => exact absurd (small v List.mem_cons_self) (Nat.not_lt_zero _)
  | succ n ih =>
      by_cases other : ∃ v ∈ sources, v.object? = none
      · obtain ⟨v, hv, whole⟩ := other
        refine foldl_eq_of_forgets (R := fun _ _ => True) (fun _ _ _ h => h) hv ?_ trivial
        intro s t _
        rw [merge_of_not_object s whole, merge_of_not_object t whole]
      · have objects : ∀ v ∈ sources, ∃ fields, Value.object fields = v := by
          intro v hv
          cases v with
          | object fields => exact ⟨fields, rfl⟩
          | _ => exact absurd ⟨_, hv, rfl⟩ other
        obtain ⟨sources, rfl⟩ := (Set.range_list_map Value.object).ge objects
        cases sources with
        | nil => rfl
        | cons fields more =>
            rw [foldl_merge_objects, foldl_merge_objects]
            refine congrArg Value.object (mergeAll_again_of_inside ?_ _)
            intro k
            refine ih ?_
            intro v hv
            obtain ⟨source, hsource, found⟩ := List.mem_filterMap.1 hv
            have outer := small (.object source) (List.mem_map_of_mem hsource)
            have inner := source.sizeOf_lt_of_get? found
            rw [Value.object.sizeOf_spec] at outer
            omega

theorem foldl_merge_again (sources : List Value) (target : Value) :
    sources.foldl merge (sources.foldl merge target) = sources.foldl merge target := by
  have small : ∀ v ∈ sources, sizeOf v < sizeOf sources := fun _ => List.sizeOf_lt_of_mem
  exact foldl_merge_again_of_small small target

end Value

end DocPipeline
