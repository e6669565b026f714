import DocPipeline.Double

/-!
# Document values

The dynamic values that nodes, options, settings and namespaces are made of.
An object is a chain of fields whose keys strictly increase, and the type says
so: `Fields lo` holds only keys above `lo`.  Hence a key occurs at most once,
insertion order leaves no trace, and two objects are equal as soon as they have
the same value under every key (`Fields.ext_get?`).

Integers and doubles are different numbers: `1` and `1.0` are unequal.
-/

namespace DocPipeline

inductive Number where
  | int (n : Int)
  | double (d : Double)
  deriving DecidableEq

/-- Numeric equality within one kind of number; the two double zeros agree. -/
def Number.same : Number → Number → Bool
  | .int m, .int n => m == n
  | .double c, .double d => c.same d
  | _, _ => false

/-- The key comes strictly after the lower bound, if there is one. -/
def Above : Option String → String → Prop
  | none, _ => True
  | some lo, key => lo < key

instance Above.decide : (lo : Option String) → (key : String) → Decidable (Above lo key)
  | none, _ => .isTrue trivial
  | some lo, key => inferInstanceAs (Decidable (lo < key))

mutual

inductive Value where
  | null
  | bool (b : Bool)
  | number (n : Number)
  | string (s : String)
  | array (items : List Value)
  | object (fields : Fields none)

/-- Fields in increasing key order, all above the lower bound. -/
inductive Fields : Option String → Type where
  | nil {lo : Option String} : Fields lo
  | cons {lo : Option String} (key : String) (above : Above lo key) (value : Value)
      (rest : Fields (some key)) : Fields lo

end

abbrev Object := Fields none

instance : Inhabited Value := ⟨.null⟩
instance {lo : Option String} : Inhabited (Fields lo) := ⟨.nil⟩

theorem Above.of_not_lt {a b : String} (hlt : ¬ a < b) (hne : a ≠ b) :
    Above (some b) a := by
  by_cases h : b < a
  · exact h
  · exact absurd (String.le_antisymm (String.not_lt.1 h) (String.not_lt.1 hlt)) hne

/-! ## Kinds of values -/

namespace Value

def int (n : Int) : Value := .number (.int n)

def isString : Value → Bool
  | .string _ => true
  | _ => false

def string? : Value → Option String
  | .string s => some s
  | _ => none

def bool? : Value → Option Bool
  | .bool b => some b
  | _ => none

def array? : Value → Option (List Value)
  | .array items => some items
  | _ => none

def object? : Value → Option Object
  | .object fields => some fields
  | _ => none

end Value

/-! ## Fields -/

namespace Fields

variable {lo : Option String}

def get? : {lo : Option String} → Fields lo → String → Option Value
  | _, .nil, _ => none
  | _, .cons key _ value rest, k => if k = key then some value else rest.get? k

/-- Stores a value under a key above the bound, replacing the one already there. -/
def insertAbove : {lo : Option String} → Fields lo → (k : String) → Above lo k → Value →
    Fields lo
  | _, .nil, k, hk, v => .cons k hk v .nil
  | _, .cons key above value rest, k, hk, v =>
      if hlt : k < key then .cons k hk v (.cons key hlt value rest)
      else if heq : k = key then .cons key above v rest
      else .cons key above value (rest.insertAbove k (.of_not_lt hlt heq) v)

def insert (fields : Object) (k : String) (v : Value) : Object :=
  fields.insertAbove k trivial v

def empty : Object := .nil

def toList : {lo : Option String} → Fields lo → List (String × Value)
  | _, .nil => []
  | _, .cons key _ value rest => (key, value) :: rest.toList

def keys (fields : Fields lo) : List String := fields.toList.map (·.1)

def size (fields : Fields lo) : Nat := fields.toList.length

def isEmpty : {lo : Option String} → Fields lo → Bool
  | _, .nil => true
  | _, .cons .. => false

/-- The object with these entries; of several under one key the last stays. -/
def ofList (entries : List (String × Value)) : Object :=
  entries.foldl (fun fields e => fields.insert e.1 e.2) .nil

@[simp] theorem get?_nil (k : String) : (nil : Fields lo).get? k = none := rfl

@[simp] theorem get?_cons (key : String) (above : Above lo key) (value : Value)
    (rest : Fields (some key)) (k : String) :
    (cons key above value rest).get? k = if k = key then some value else rest.get? k := rfl

/-- Induction along the chain of fields, with nothing assumed of the values. -/
@[induction_eliminator]
theorem chainInduction {motive : (lo : Option String) → Fields lo → Prop}
    (nil : ∀ lo, motive lo .nil)
    (cons : ∀ lo key (above : Above lo key) value (rest : Fields (some key)),
      motive (some key) rest → motive lo (.cons key above value rest))
    {lo : Option String} (fields : Fields lo) : motive lo fields :=
  match fields with
  | .nil => nil _
  | .cons key above value rest =>
      cons _ key above value rest (chainInduction nil cons rest)

theorem get?_eq_none {lo : Option String} (fields : Fields lo) {k : String}
    (h : ∀ key, Above lo key → k ≠ key) : fields.get? k = none := by
  induction fields with
  | nil => rfl
  | cons lo key above value rest ih =>
      rw [get?_cons, if_neg (h key above)]
      refine ih fun j hj => h j ?_
      cases lo with
      | none => trivial
      | some lo => exact String.lt_trans above hj

theorem get?_eq_none_of_not_lt {lo : String} (fields : Fields (some lo)) {k : String}
    (h : ¬ lo < k) : fields.get? k = none :=
  get?_eq_none fields fun _ hkey he => h (he ▸ hkey)

theorem get?_insertAbove (fields : Fields lo) (k : String) (hk : Above lo k) (v : Value)
    (j : String) :
    (fields.insertAbove k hk v).get? j = if j = k then some v else fields.get? j := by
  induction fields with
  | nil => rfl
  | cons lo key above value rest ih =>
      unfold insertAbove
      split
      · rfl
      · split
        · next heq =>
          subst heq
          by_cases hj : j = k <;> simp [hj]
        · next hlt hne =>
          rw [get?_cons, ih, get?_cons]
          by_cases hj : j = k
          · rw [if_neg (hj ▸ hne), if_pos hj, if_pos hj]
          · rw [if_neg hj, if_neg hj]

theorem get?_insert (fields : Object) (k : String) (v : Value) (j : String) :
    (fields.insert k v).get? j = if j = k then some v else fields.get? j :=
  get?_insertAbove fields k trivial v j

@[simp] theorem get?_insert_self (fields : Object) (k : String) (v : Value) :
    (fields.insert k v).get? k = some v := by
  simp [get?_insert]

theorem get?_insert_of_ne (fields : Object) {k j : String} (v : Value) (h : j ≠ k) :
    (fields.insert k v).get? j = fields.get? j := by
  simp [get?_insert, h]

theorem sizeOf_lt_of_get? (fields : Fields lo) {k : String} {v : Value}
    (h : fields.get? k = some v) : sizeOf v < sizeOf fields := by
  induction fields with
  | nil => simp at h
  | cons lo key above value rest ih =>
      rw [get?_cons] at h
      rw [cons.sizeOf_spec]
      split at h
      · cases h
        omega
      · have := ih h
        omega

theorem ext_get? {f g : Fields lo} (h : ∀ k, f.get? k = g.get? k) : f = g := by
  induction f with
  | nil lo =>
      cases g with
      | nil => rfl
      | cons key above value rest => simpa using h key
  | cons lo key above value rest ih =>
      cases g with
      | nil => simpa using h key
      | cons key' above' value' rest' =>
          have hkey : key = key' := by
            by_cases he : key = key'
            · exact he
            by_cases hlt : key < key'
            · simpa [he, get?_eq_none_of_not_lt rest' (String.lt_asymm hlt)] using h key
            · have hlt' : key' < key := Above.of_not_lt hlt he
              simpa [Ne.symm he, get?_eq_none_of_not_lt rest (String.lt_asymm hlt')]
                using h key'
          subst hkey
          have hvalue : value = value' := by simpa using h key
          have hrest : rest = rest' := ih fun k => by
            by_cases hk : k = key
            · subst hk
              rw [get?_eq_none_of_not_lt rest (String.lt_irrefl _),
                get?_eq_none_of_not_lt rest' (String.lt_irrefl _)]
            · simpa [hk] using h k
          rw [hvalue, hrest]

theorem insert_insert_self (fields : Object) (k : String) (v w : Value) :
    (fields.insert k v).insert k w = fields.insert k w := by
  refine ext_get? fun j => ?_
  rw [get?_insert, get?_insert, get?_insert]
  split <;> rfl

end Fields

/-! ## Equality -/

mutual

/-- Equality of shape, strings and Booleans, with `eq` deciding about numbers. -/
def Value.agree (eq : Number → Number → Bool) : Value → Value → Bool
  | .null, .null => true
  | .bool a, .bool b => a == b
  | .number a, .number b => eq a b
  | .string a, .string b => a == b
  | .array a, .array b => Value.agreeAll eq a b
  | .object a, .object b => Fields.agree eq a b
  | _, _ => false

def Value.agreeAll (eq : Number → Number → Bool) : List Value → List Value → Bool
  | [], [] => true
  | a :: as, b :: bs => a.agree eq b && Value.agreeAll eq as bs
  | _, _ => false

def Fields.agree (eq : Number → Number → Bool) :
    {lo lo' : Option String} → Fields lo → Fields lo' → Bool
  | _, _, .nil, .nil => true
  | _, _, .cons k _ a as, .cons k' _ b bs => k == k' && a.agree eq b && as.agree eq bs
  | _, _, _, _ => false

end

/-- Equality that does not tell the two double zeros apart. -/
def Value.same (a b : Value) : Bool := a.agree Number.same b

mutual

theorem Value.agree_eq_iff (a b : Value) : a.agree (· == ·) b = true ↔ a = b := by
  cases a with
  | array as =>
      cases b with
      | array bs => simpa [Value.agree] using Value.agreeAll_eq_iff as bs
      | _ => simp [Value.agree]
  | object as =>
      cases b with
      | object bs => simpa [Value.agree] using Fields.agree_eq_iff as bs
      | _ => simp [Value.agree]
  | _ => cases b <;> simp [Value.agree]

theorem Value.agreeAll_eq_iff (as bs : List Value) :
    Value.agreeAll (· == ·) as bs = true ↔ as = bs := by
  cases as with
  | nil => cases bs <;> simp [Value.agreeAll]
  | cons a as =>
      cases bs with
      | nil => simp [Value.agreeAll]
      | cons b bs =>
          simp [Value.agreeAll, Value.agree_eq_iff a b, Value.agreeAll_eq_iff as bs]

theorem Fields.agree_eq_iff {lo : Option String} (as bs : Fields lo) :
    Fields.agree (· == ·) as bs = true ↔ as = bs := by
  cases as with
  | nil => cases bs <;> simp [Fields.agree]
  | cons k hk a as =>
      cases bs with
      | nil => simp [Fields.agree]
      | cons k' hk' b bs =>
          by_cases h : k = k'
          · subst h
            simp [Fields.agree, Value.agree_eq_iff a b, Fields.agree_eq_iff as bs]
          · simp [Fields.agree, h]

end

instance : DecidableEq Value := fun a b =>
  decidable_of_iff _ (Value.agree_eq_iff a b)

instance {lo : Option String} : DecidableEq (Fields lo) := fun a b =>
  decidable_of_iff _ (Fields.agree_eq_iff a b)

end DocPipeline
