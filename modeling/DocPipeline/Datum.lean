import DocPipeline.Value

/-!
# Data as a document states it

A datum is what a JSON, TOML or YAML document holds before any shape is asked
of it.  Unlike a `Value` it keeps the entries of a table in the order written,
repeated keys included, lets any datum be a key, and tells apart numbers that
no value can hold or tell apart.
-/

namespace DocPipeline

inductive Datum where
  | null
  | bool (b : Bool)
  | number (n : Number)
  /-- The integer zero written with a minus sign. -/
  | minusZero
  /-- An infinity, or not a number. -/
  | nonfinite
  | text (s : String)
  | list (items : List Datum)
  | table (entries : List (Datum × Datum))

namespace Datum

instance : Inhabited Datum := ⟨.null⟩

mutual

/-- The value stated.  Keys must be texts; of a repeated key the last one stays. -/
def toValue? : Datum → Option Value
  | .null => some .null
  | .bool b => some (.bool b)
  | .number n => some (.number n)
  | .minusZero => some (.number (.int 0))
  | .nonfinite => some .null
  | .text s => some (.string s)
  | .list items => (toValues? items).map .array
  | .table entries => (toFields? .nil entries).map .object

def toValues? : List Datum → Option (List Value)
  | [] => some []
  | item :: items => do
      let v ← item.toValue?
      let vs ← toValues? items
      return v :: vs

def toFields? (fields : Object) : List (Datum × Datum) → Option Object
  | [] => some fields
  | (.text key, item) :: entries => do
      let v ← item.toValue?
      toFields? (fields.insert key v) entries
  | _ :: _ => none

end

end Datum

end DocPipeline
