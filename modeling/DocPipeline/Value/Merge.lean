import DocPipeline.Value

/-!
# Deep merge

Objects merge key by key; any other source value replaces the target whole.
-/

namespace DocPipeline

mutual

def Value.merge : Value → Value → Value
  | .object target, .object source => .object (target.merge source)
  | _, source => source

def Fields.merge (target : Object) : {lo : Option String} → Fields lo → Object
  | _, .nil => target
  | _, .cons key _ value rest =>
      let merged :=
        match target.get? key with
        | some old => old.merge value
        | none => value
      (target.insert key merged).merge rest

end

theorem Value.merge_of_not_object (target : Value) {source : Value}
    (h : source.object? = none) : target.merge source = source := by
  cases source with
  | object fields => simp [object?] at h
  | _ => cases target <;> rfl

theorem Value.null_merge (source : Value) : Value.null.merge source = source := by
  cases source <;> rfl

theorem Fields.get?_merge {lo : Option String} (target : Object) (source : Fields lo)
    (k : String) :
    (target.merge source).get? k =
      match source.get? k with
      | some v => some (((target.get? k).getD .null).merge v)
      | none => target.get? k := by
  induction source generalizing target with
  | nil => rfl
  | cons lo key above value rest ih =>
      rw [Fields.merge, ih, get?_cons]
      by_cases h : k = key
      · subst h
        rw [get?_eq_none_of_not_lt rest (String.lt_irrefl _), if_pos rfl, get?_insert_self]
        cases target.get? k with
        | none => exact congrArg some (Value.null_merge value).symm
        | some old => rfl
      · rw [if_neg h, get?_insert_of_ne _ _ h]

end DocPipeline
