import DocPipeline.Namespace
import DocPipeline.Proofs.Merging

/-!
# Merging along paths

What a merged value has at the end of a path of keys is decided by how far the
source goes along the path: to a value, or only to one that has nothing more.
-/

namespace DocPipeline

namespace Value

/-- The value at the end of a path of keys, which leads through objects only. -/
def follow? : Value → List String → Option Value
  | v, [] => some v
  | v, key :: path => (v.object?.bind (·.get? key)).bind (·.follow? path)

/-- The path leads no further than to the last value, which has nothing under its next key. -/
def EndsAt (v : Value) (path : List String) (last : Value) : Prop :=
  ∃ before key after, path = before ++ key :: after ∧ v.follow? before = some last ∧
    last.object?.bind (·.get? key) = none

theorem follow?_append (v : Value) (before after : List String) :
    v.follow? (before ++ after) = (v.follow? before).bind (·.follow? after) := by
  induction before generalizing v with
  | nil => rfl
  | cons key before ih =>
      rw [List.cons_append, follow?, follow?]
      cases v.object?.bind (·.get? key) with
      | none => rfl
      | some inner => exact ih inner

/-- Every path ends in a value or stops short of one. -/
theorem follow?_ne_none_or_endsAt (v : Value) (path : List String) :
    v.follow? path ≠ none ∨ ∃ last, v.EndsAt path last := by
  induction path generalizing v with
  | nil => exact .inl (Option.some_ne_none v)
  | cons key path ih =>
      cases found : v.object?.bind (·.get? key) with
      | none => exact .inr ⟨v, [], key, path, rfl, rfl, found⟩
      | some inner =>
          have onward (p : List String) : v.follow? (key :: p) = inner.follow? p := by
            rw [follow?, found, Option.bind_some]
          rcases ih inner with whole | ⟨last, before, next, after, rfl, reached, stop⟩
          · exact .inl (onward path ▸ whole)
          · exact .inr ⟨last, key :: before, next, after, rfl, (onward before).trans reached, stop⟩

theorem EndsAt.follow? {v last : Value} {path : List String} (h : v.EndsAt path last) :
    v.follow? path = none := by
  obtain ⟨before, key, after, rfl, reached, stop⟩ := h
  rw [follow?_append, reached, Option.bind_some, Value.follow?, stop, Option.bind_none]

/-! ## Merged values -/

/-- Where there is no value, `null` takes its place; beyond it there is none either. -/
theorem follow?_getD_null (v : Option Value) (key : String) (path : List String) :
    (v.getD .null).follow? (key :: path) = v.bind (·.follow? (key :: path)) := by
  cases v <;> rfl

theorem get?_merge_object (t : Value) (fields : Object) (key : String) :
    (t.merge (.object fields)).object?.bind (·.get? key) =
      match fields.get? key with
      | some v => some (((t.object?.bind (·.get? key)).getD .null).merge v)
      | none => t.object?.bind (·.get? key) := by
  rw [merge_object, object?, Option.bind_some, Fields.get?_merge]
  cases t.object? <;> rfl

/-- At a path that the source has a value for, the two values there are merged. -/
theorem follow?_merge_of_some {t s v : Value} {path : List String}
    (h : s.follow? path = some v) :
    (t.merge s).follow? path = some (((t.follow? path).getD .null).merge v) := by
  induction path generalizing t s with
  | nil =>
      cases h
      rfl
  | cons key path ih =>
      cases s with
      | object fields =>
          rw [follow?, object?, Option.bind_some] at h
          cases inside : fields.get? key with
          | none => simp [inside] at h
          | some inner =>
              rw [inside, Option.bind_some] at h
              rw [follow?, get?_merge_object, inside, follow?]
              dsimp only
              rw [Option.bind_some, ih h]
              cases t.object?.bind (·.get? key) with
              | some old => rfl
              | none => cases path <;> rfl
      | _ => cases h

/-- Where the source has an object without the next key, the target goes on alone. -/
theorem follow?_merge_of_endsAt_object {t s : Value} {fields : Object} {path : List String}
    (h : s.EndsAt path (.object fields)) : (t.merge s).follow? path = t.follow? path := by
  obtain ⟨before, key, after, rfl, reached, stop⟩ := h
  have lacking : fields.get? key = none := stop
  rw [follow?_append, follow?_merge_of_some reached, Option.bind_some, follow?,
    get?_merge_object, lacking]
  dsimp only
  rw [← follow?, follow?_getD_null, ← follow?_append]

theorem follow?_merge_of_endsAt_whole {t s v : Value} {path : List String}
    (h : s.EndsAt path v) (whole : v.object? = none) : (t.merge s).follow? path = none := by
  obtain ⟨before, key, after, rfl, reached, stop⟩ := h
  rw [follow?_append, follow?_merge_of_some reached, Option.bind_some,
    merge_of_not_object _ whole, follow?, stop, Option.bind_none]

theorem follow?_eq_none_iff {v : Value} {path : List String} :
    v.follow? path = none ↔ ∃ last, v.EndsAt path last := by
  constructor
  · exact (v.follow?_ne_none_or_endsAt path).resolve_left ∘ not_not_intro
  · rintro ⟨last, ends⟩
    exact ends.follow?

end Value

theorem Fields.get?_merge_ne_none_iff (target source : Object) (key : String) :
    (target.merge source).get? key ≠ none ↔
      target.get? key ≠ none ∨ source.get? key ≠ none := by
  rw [get?_merge]
  cases source.get? key <;> simp

/--
At every path, a value of the source that is no object stands as it is.  An object
of the source is merged into an object that the target has there, keeping the
keys of both and no others, and stands by itself otherwise.  Where the path leaves
the source at an object, the target goes on alone; where it leaves it at anything
else, nothing is left.  A namespace merges into the entry under a key, a missing
one being `null`, and keeps all other entries.
-/
theorem merge_along_paths (t s : Value) (path : List String) :
    (∀ v, s.follow? path = some v → v.object? = none → (t.merge s).follow? path = some v) ∧
    (∀ fields, s.follow? path = some (.object fields) →
      (∀ old, t.follow? path = some (.object old) → ∃ merged,
        (t.merge s).follow? path = some (.object merged) ∧
        .object merged = (Value.object old).merge (.object fields) ∧
        ∀ key, merged.get? key ≠ none ↔ old.get? key ≠ none ∨ fields.get? key ≠ none) ∧
      ((∀ old, t.follow? path ≠ some (.object old)) →
        (t.merge s).follow? path = some (.object fields))) ∧
    (∀ fields, s.EndsAt path (.object fields) → (t.merge s).follow? path = t.follow? path) ∧
    (∀ v, s.EndsAt path v → v.object? = none → (t.merge s).follow? path = none) ∧
    (s.follow? path = none ↔ ∃ last, s.EndsAt path last) ∧
    ∀ (ns : Namespace) (key : String),
      (ns.merge key s).get? key = some (((ns.get? key).getD .null).merge s) ∧
      ∀ other, other ≠ key → (ns.merge key s).get? other = ns.get? other := by
  refine ⟨?_, ?_, fun _ => Value.follow?_merge_of_endsAt_object,
    fun _ => Value.follow?_merge_of_endsAt_whole, Value.follow?_eq_none_iff, ?_⟩
  · intro v found whole
    rw [Value.follow?_merge_of_some found, Value.merge_of_not_object _ whole]
  · intro fields found
    have merged := Value.follow?_merge_of_some (t := t) found
    constructor
    · intro old there
      rw [there] at merged
      exact ⟨old.merge fields, merged, rfl, Fields.get?_merge_ne_none_iff old fields⟩
    · intro other
      rw [merged]
      cases there : t.follow? path with
      | none => rfl
      | some v =>
          cases v with
          | object old => exact absurd there (other old)
          | _ => rfl
  · intro ns key
    constructor
    · rw [Namespace.get?_merge, if_pos rfl]
    · intro other distinct
      rw [Namespace.get?_merge, if_neg distinct]

namespace Overlaid

def target : Value := .object (.ofList [
  ("kept", .object (.ofList [("inner", .bool true), ("list", .array [.null])])),
  ("scalar", .bool false),
  ("table", .object (.ofList [("inner", .null)]))])

def source : Value := .object (.ofList [
  ("kept", .object (.ofList [("list", .object .empty), ("new", .null)])),
  ("scalar", .object .empty),
  ("table", .string "whole")])

end Overlaid

/-- Objects over an object, a list and a scalar, and a scalar over an object. -/
theorem mixed_shapes_merge :
    let merged := Overlaid.target.merge Overlaid.source
    merged.follow? ["kept", "inner"] = some (.bool true) ∧
    merged.follow? ["kept", "list"] = some (.object .empty) ∧
    merged.follow? ["scalar"] = some (.object .empty) ∧
    merged.follow? ["table"] = some (.string "whole") ∧
    merged.follow? ["table", "inner"] = none := by
  have along := merge_along_paths Overlaid.target Overlaid.source
  refine ⟨?_, ?_, ?_, ?_, ?_⟩
  · exact (along _).2.2.1 _ ⟨["kept"], "inner", [], rfl, rfl, rfl⟩
  · exact ((along _).2.1 .empty rfl).2 fun _ there => by cases there
  · exact ((along _).2.1 .empty rfl).2 fun _ there => by cases there
  · exact (along _).1 _ rfl rfl
  · exact (along _).2.2.2.1 _ ⟨["table"], "inner", [], rfl, rfl, rfl⟩ rfl

end DocPipeline
