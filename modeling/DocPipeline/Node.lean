import DocPipeline.Value.Kind

/-!
# Tree nodes

A node is an object with a string under `type`.  Everything else in it belongs
to the collaborators; a tree is a node whose `children` array holds more nodes,
possibly among entries that are no nodes.  The invariant is part of the type,
so every operation here returns a node again.
-/

namespace DocPipeline

structure Node where
  fields : Object
  typed : ∃ kind, fields.get? "type" = some (.string kind)
  deriving DecidableEq

namespace Node

theorem ext {m n : Node} (h : m.fields = n.fields) : m = n := by
  cases m
  cases n
  cases h
  rfl

theorem ext_get? {m n : Node} (h : ∀ key, m.fields.get? key = n.fields.get? key) : m = n :=
  ext (Fields.ext_get? h)

/-! ## Construction -/

def new (kind : String) : Node where
  fields := Fields.empty.insert "type" (.string kind)
  typed := ⟨kind, Fields.get?_insert_self ..⟩

instance : Inhabited Node := ⟨new ""⟩

/-- Why a value is no node. -/
abbrev Mismatch := Value.Kind

def ofObject? (fields : Object) : Option Node :=
  match h : fields.get? "type" with
  | some (.string kind) => some ⟨fields, kind, h⟩
  | _ => none

/-- The value as a node, or else what kind of value it is. -/
def ofValue : Value → Except Mismatch Node
  | .object fields =>
      match ofObject? fields with
      | some node => .ok node
      | none => .error .object
  | v => .error v.kind

def ofValue? (v : Value) : Option Node := (ofValue v).toOption

def toValue (node : Node) : Value := .object node.fields

def isNode (v : Value) : Bool := (ofValue? v).isSome

/-! ## Fields -/

def get? (node : Node) (key : String) : Option Value := node.fields.get? key

def kind (node : Node) : String := ((node.get? "type").bind Value.string?).getD ""

def value? (node : Node) : Option String := (node.get? "value").bind Value.string?

def insert (node : Node) (key : String) (v : Value) (h : key ≠ "type") : Node where
  fields := node.fields.insert key v
  typed := by
    rw [Fields.get?_insert_of_ne _ v (Ne.symm h)]
    exact node.typed

def retype (node : Node) (kind : String) : Node where
  fields := node.fields.insert "type" (.string kind)
  typed := ⟨kind, Fields.get?_insert_self ..⟩

/--
Sets a field and gives the value it had before.  A `type` that is no string is
ignored, and then nothing is given.
-/
def exchange (node : Node) (key : String) (v : Value) : Option Value × Node :=
  if h : key = "type" then
    match v with
    | .string kind => (node.get? "type", node.retype kind)
    | _ => (none, node)
  else (node.get? key, node.insert key v h)

def set (node : Node) (key : String) (v : Value) : Node := (node.exchange key v).2

theorem set_of_ne (node : Node) {key : String} (h : key ≠ "type") (v : Value) :
    node.set key v = node.insert key v h := by
  unfold set exchange
  rw [dif_neg h]

def root : Node := (new "root").set "children" (.array [])

def text (value : String) : Node := (new "text").set "value" (.string value)

/-! ## Children -/

def entries (node : Node) : List Value := ((node.get? "children").bind Value.array?).getD []

def children (node : Node) : List Node := node.entries.filterMap ofValue?

def setEntries (node : Node) (items : List Value) : Node :=
  node.insert "children" (.array items) (by decide)

def setChildren (node : Node) (children : List Node) : Node :=
  node.setEntries (children.map toValue)

/-- Appends a child; a `children` field that is no array is replaced. -/
def pushChild (node : Node) (child : Node) : Node :=
  node.setEntries (node.entries ++ [child.toValue])

theorem ofValue_toValue (node : Node) : ofValue node.toValue = .ok node := by
  obtain ⟨fields, kind, typed⟩ := node
  have found : ofObject? fields = some ⟨fields, kind, typed⟩ := by
    unfold ofObject?
    split
    · rfl
    · next other => exact absurd typed (other kind)
  rw [toValue, ofValue, found]

theorem ofValue?_toValue (node : Node) : ofValue? node.toValue = some node :=
  congrArg Except.toOption node.ofValue_toValue

theorem get?_setEntries (node : Node) (items : List Value) (key : String) :
    (node.setEntries items).get? key =
      if key = "children" then some (.array items) else node.get? key :=
  Fields.get?_insert ..

theorem kind_setEntries (node : Node) (items : List Value) :
    (node.setEntries items).kind = node.kind := by
  rw [kind, get?_setEntries, if_neg (by decide)]
  rfl

theorem entries_setEntries (node : Node) (items : List Value) :
    (node.setEntries items).entries = items := by
  rw [entries, get?_setEntries, if_pos rfl]
  rfl

theorem filterMap_map_toValue (children : List Node) :
    (children.map toValue).filterMap ofValue? = children := by
  have same : ofValue? ∘ toValue = some := funext ofValue?_toValue
  rw [List.filterMap_map, same, List.filterMap_some]

theorem children_setChildren (node : Node) (children : List Node) :
    (node.setChildren children).children = children := by
  rw [Node.children, setChildren, entries_setEntries, filterMap_map_toValue]

theorem children_pushChild (node child : Node) :
    (node.pushChild child).children = node.children ++ [child] := by
  rw [children, pushChild, entries_setEntries, List.filterMap_append]
  simp [children, ofValue?_toValue]

/-! ## Children are smaller -/

theorem fields_of_ofValue? {v : Value} {node : Node} (h : ofValue? v = some node) :
    v = .object node.fields := by
  cases v with
  | object fields =>
      simp only [ofValue?, ofValue] at h
      split at h
      · next found heq =>
        simp only [Except.toOption, Option.some.injEq] at h
        subst h
        simp only [ofObject?] at heq
        split at heq
        · cases heq
          rfl
        · simp at heq
      · simp [Except.toOption] at h
  | _ => simp [ofValue?, ofValue, Except.toOption] at h

theorem sizeOf_lt_of_mem_children {node child : Node} (h : child ∈ node.children) :
    sizeOf child.fields < sizeOf node.fields := by
  obtain ⟨v, hv, hchild⟩ := List.mem_filterMap.1 h
  have hsize : sizeOf v < sizeOf node.entries := List.sizeOf_lt_of_mem hv
  rw [fields_of_ofValue? hchild] at hsize
  simp only [Value.object.sizeOf_spec] at hsize
  simp only [entries] at hsize hv
  cases hget : node.get? "children" with
  | none => simp [hget] at hv
  | some w =>
      have hw : sizeOf w < sizeOf node.fields := node.fields.sizeOf_lt_of_get? hget
      cases w with
      | array items =>
          simp only [hget, Option.bind_some, Value.array?, Option.getD_some] at hsize
          simp only [Value.array.sizeOf_spec] at hw
          omega
      | _ => simp [hget, Value.array?] at hv

theorem childInduction {motive : Node → Prop}
    (step : ∀ node : Node, (∀ child ∈ node.children, motive child) → motive node)
    (node : Node) : motive node :=
  step node fun child _ => childInduction step child
termination_by sizeOf node.fields
decreasing_by exact sizeOf_lt_of_mem_children ‹_›

end Node

end DocPipeline
