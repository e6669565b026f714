import DocPipeline.Proofs.Traversals
import DocPipeline.Text.Uppercase

/-!
# What rewriting leaves alone

A place in a tree is a path of positions in `children` arrays.  Rewriting the
texts changes nothing else at any place, exactly if no `children` array holds
nodes next to entries that are no nodes.  In one that does, the others are lost.
-/

namespace DocPipeline

namespace Value

/-- The value at the end of a path of positions, which leads through nodes only. -/
def reach? : Value → List Nat → Option Value
  | v, [] => some v
  | v, i :: path => ((Node.ofValue? v).bind (·.entries[i]?)).bind (·.reach? path)

def mapString (f : String → String) : Value → Value
  | .string s => .string (f s)
  | v => v

end Value

namespace Node

/-- Only the string under `value` differs, and only in a text node; `children` stays an array. -/
structure Retexted (f : String → String) (node node' : Node) : Prop where
  value : node'.get? "value" =
    if node.isText then (node.get? "value").map (Value.mapString f) else node.get? "value"
  array : ((node'.get? "children").bind Value.array?).isSome =
    ((node.get? "children").bind Value.array?).isSome
  childless : (node.get? "children").bind Value.array? = none →
    node'.get? "children" = node.get? "children"
  others : ∀ key, key ≠ "value" → key ≠ "children" → node'.get? key = node.get? key

/-- Of the entries of `children` none is a node, or all are. -/
def Uniform (node : Node) : Prop :=
  node.children = [] ∨ ∀ entry ∈ node.entries, isNode entry = true

end Node

namespace Value

/-- A value that is no node is the same, and a node is one again. -/
def Retexted (f : String → String) (v v' : Value) : Prop :=
  match Node.ofValue? v with
  | some node => ∃ node' : Node, v' = node'.toValue ∧ node.Retexted f node'
  | none => v' = v

/-- There is the same at every place, but for the texts. -/
def TextsOnly (f : String → String) (v v' : Value) : Prop :=
  ∀ path, Option.Rel (Retexted f) (v.reach? path) (v'.reach? path)

def Unmixed (v : Value) : Prop :=
  ∀ path (node : Node), v.reach? path = some node.toValue → node.Uniform

end Value

/-! ## One node -/

namespace Node

variable {node : Node} (f : String → String)

theorem toValue_of_ofValue? {v : Value} (h : ofValue? v = some node) : node.toValue = v :=
  (fields_of_ofValue? h).symm

theorem entries_of_none (h : (node.get? "children").bind Value.array? = none) :
    node.entries = [] := by
  rw [entries, h, Option.getD_none]

theorem array_of_children (h : node.children ≠ []) :
    (node.get? "children").bind Value.array? = some node.entries := by
  cases own : (node.get? "children").bind Value.array? with
  | none => exact absurd (by rw [children, entries_of_none own]; rfl) h
  | some items => rw [entries, own, Option.getD_some]

theorem get?_of_array {items : List Value}
    (h : (node.get? "children").bind Value.array? = some items) :
    node.get? "children" = some (.array items) := by
  obtain ⟨v, own, array⟩ := Option.bind_eq_some_iff.1 h
  cases v <;> simp_all [Value.array?]

theorem get?_children_mapText (none : node.children = []) :
    (node.mapText f).get? "children" = node.get? "children" := by
  rw [mapText_of_childless none, get?_mapValue_of_ne f node (by decide)]

theorem get?_mapText_of_ne {key : String} (h : key ≠ "children") :
    (node.mapText f).get? key = (node.mapValue f).get? key := by
  by_cases none : node.children = []
  · rw [mapText_of_childless none]
  · rw [mapText_of_children none, setChildren, get?_setEntries, if_neg h]

theorem entries_mapText (some : node.children ≠ []) :
    (node.mapText f).entries = (node.children.map (mapText f)).map toValue := by
  rw [mapText_of_children some, setChildren, entries_setEntries]

/-- Whatever is next to it, a node is rewritten like this. -/
theorem retexted_mapText (node : Node) : node.Retexted f (node.mapText f) where
  value := by
    rw [get?_mapText_of_ne f (by decide), get?_mapValue, if_pos rfl, ownText?, value?]
    split
    · cases node.get? "value" with
      | none => rfl
      | some v => cases v <;> rfl
    · rfl
  array := by
    by_cases none : node.children = []
    · rw [get?_children_mapText f none]
    · rw [array_of_children none, mapText_of_children none, setChildren, get?_setEntries,
        if_pos rfl]
      rfl
  childless := by
    intro own
    refine get?_children_mapText f ?_
    rw [children, entries_of_none own]
    rfl
  others := by
    intro key value children
    rw [get?_mapText_of_ne f children, get?_mapValue_of_ne f node value]

theorem retexted_id (node : Node) : node.Retexted id node where
  value := by
    cases node.get? "value" with
    | none => simp
    | some v => cases v <;> simp [Value.mapString]
  array := rfl
  childless _ := rfl
  others _ _ _ := rfl

/-! ## Nodes among other entries -/

theorem map_toValue_children (all : ∀ entry ∈ node.entries, isNode entry = true) :
    node.children.map toValue = node.entries := by
  rw [children]
  generalize node.entries = entries at all
  induction entries with
  | nil => rfl
  | cons entry entries ih =>
      obtain ⟨here, later⟩ := List.forall_mem_cons.1 all
      obtain ⟨child, own⟩ := Option.isSome_iff_exists.1 here
      rw [List.filterMap_cons_some own, List.map_cons, ih later, toValue_of_ofValue? own]

theorem length_entries_mapText (some : node.children ≠ []) :
    (node.mapText f).entries.length = node.children.length := by
  rw [entries_mapText f some, List.length_map, List.length_map]

theorem ofValue?_of_childless (childless : node.children = []) {entry : Value}
    (h : entry ∈ node.entries) : ofValue? entry = none :=
  List.filterMap_eq_nil_iff.1 childless entry h

theorem entries_mapText_of_childless (childless : node.children = []) :
    (node.mapText f).entries = node.entries := by
  rw [entries, get?_children_mapText f childless, entries]

/-- The entries that are no nodes stay if no other entry is one, and are lost otherwise. -/
theorem filter_entries_mapText (node : Node) :
    (node.mapText f).entries.filter (fun entry => !isNode entry) =
      if node.children = [] then node.entries else [] := by
  split
  · next childless =>
      rw [entries_mapText_of_childless f childless, List.filter_eq_self]
      intro entry hentry
      rw [isNode, ofValue?_of_childless childless hentry]
      rfl
  · next some =>
      rw [entries_mapText f some, List.filter_eq_nil_iff, List.forall_mem_map]
      intro child _
      simp [isNode, ofValue?_toValue]

end Node

/-! ## Along the places of a tree -/

namespace Value

variable {f : String → String} {v : Value} {node : Node}

/-- Rewrites the texts of a node; any other value stays. -/
def mapText (f : String → String) (v : Value) : Value :=
  match Node.ofValue? v with
  | some node => (node.mapText f).toValue
  | none => v

theorem mapText_of_none (h : Node.ofValue? v = none) : v.mapText f = v := by
  rw [mapText, h]

theorem mapText_toValue (f : String → String) (node : Node) :
    node.toValue.mapText f = (node.mapText f).toValue := by
  rw [mapText, Node.ofValue?_toValue]

theorem reach?_of_none (h : Node.ofValue? v = none) (i : Nat) (path : List Nat) :
    v.reach? (i :: path) = none := by
  rw [reach?, h]
  rfl

theorem reach?_toValue (node : Node) (i : Nat) (path : List Nat) :
    node.toValue.reach? (i :: path) = node.entries[i]?.bind (·.reach? path) := by
  rw [reach?, Node.ofValue?_toValue]
  rfl

theorem Unmixed.root (h : node.toValue.Unmixed) : node.Uniform := h [] node rfl

theorem Unmixed.entry (h : node.toValue.Unmixed) {i : Nat} {entry : Value}
    (own : node.entries[i]? = some entry) : entry.Unmixed := by
  intro path inner reached
  refine h (i :: path) inner ?_
  rw [reach?_toValue, own]
  exact reached

theorem entries_mapText_of_uniform (h : node.Uniform) :
    (node.mapText f).entries = node.entries.map (mapText f) := by
  by_cases childless : node.children = []
  · rw [Node.entries_mapText_of_childless f childless]
    refine ((List.map_congr_left fun entry hentry => ?_).trans (List.map_id _)).symm
    exact mapText_of_none (Node.ofValue?_of_childless childless hentry)
  · have all := h.resolve_left childless
    rw [Node.entries_mapText f childless, ← Node.map_toValue_children all, List.map_map,
      List.map_map]
    exact List.map_congr_left fun child _ => (mapText_toValue f child).symm

theorem reach?_mapText (h : v.Unmixed) (path : List Nat) :
    (v.mapText f).reach? path = (v.reach? path).map (mapText f) := by
  induction path generalizing v with
  | nil => rfl
  | cons i path ih =>
      cases own : Node.ofValue? v with
      | none => rw [mapText_of_none own, reach?_of_none own, Option.map_none]
      | some node =>
          obtain rfl := Node.toValue_of_ofValue? own
          rw [mapText_toValue, reach?_toValue, reach?_toValue,
            entries_mapText_of_uniform h.root, List.getElem?_map]
          cases entry : node.entries[i]? with
          | none => rfl
          | some inner => exact ih (h.entry entry)

theorem retexted_mapText (v : Value) : v.Retexted f (v.mapText f) := by
  rw [Retexted, mapText]
  split
  · next node own => exact ⟨node.mapText f, rfl, node.retexted_mapText f⟩
  · rfl

theorem retexted_id (v : Value) : v.Retexted id v := by
  rw [Retexted]
  split
  · next node own => exact ⟨node, (Node.toValue_of_ofValue? own).symm, node.retexted_id⟩
  · rfl

theorem textsOnly_id (v : Value) : v.TextsOnly id v := by
  intro path
  cases v.reach? path with
  | none => exact .none
  | some inner => exact .some (retexted_id inner)

theorem Unmixed.textsOnly (h : v.Unmixed) : v.TextsOnly f (v.mapText f) := by
  intro path
  rw [reach?_mapText h]
  cases v.reach? path with
  | none => exact .none
  | some inner => exact .some (retexted_mapText inner)

theorem TextsOnly.uniform (h : node.toValue.TextsOnly f (node.mapText f).toValue) :
    node.Uniform := by
  -- an entry that is lost leaves a place at the end that nothing is at any more
  refine or_iff_not_imp_left.2 fun some => ?_
  have places (i : Nat) : node.entries[i]? = none ↔ (node.mapText f).entries[i]? = none := by
    have here := h [i]
    rw [reach?_toValue, reach?_toValue] at here
    cases before : node.entries[i]? <;> cases after : (node.mapText f).entries[i]? <;>
      simp_all [reach?]
  have same : (node.mapText f).entries.length = node.entries.length := by
    refine Nat.le_antisymm ?_ ?_
    · exact List.getElem?_eq_none_iff.1 ((places _).1 (List.getElem?_eq_none_iff.2 le_rfl))
    · exact List.getElem?_eq_none_iff.1 ((places _).2 (List.getElem?_eq_none_iff.2 le_rfl))
  rw [Node.length_entries_mapText f some] at same
  exact List.filterMap_length_eq_length.1 same

theorem TextsOnly.entry (h : node.toValue.TextsOnly f (node.mapText f).toValue) {i : Nat}
    {entry : Value} (own : node.entries[i]? = some entry) :
    entry.TextsOnly f (entry.mapText f) := by
  intro path
  have here := h (i :: path)
  rw [reach?_toValue, reach?_toValue, entries_mapText_of_uniform h.uniform, List.getElem?_map,
    own] at here
  exact here

theorem TextsOnly.unmixed (h : v.TextsOnly f (v.mapText f)) : v.Unmixed := by
  intro path
  induction path generalizing v with
  | nil =>
      rintro node reached
      cases reached
      rw [mapText_toValue] at h
      exact h.uniform
  | cons i path ih =>
      intro inner reached
      cases own : Node.ofValue? v with
      | none =>
          rw [reach?_of_none own] at reached
          cases reached
      | some node =>
          obtain rfl := Node.toValue_of_ofValue? own
          rw [reach?_toValue, Option.bind_eq_some_iff] at reached
          obtain ⟨entry, here, reached⟩ := reached
          rw [mapText_toValue] at h
          exact ih (h.entry here) inner reached

end Value

namespace Node

variable {f : String → String} {node : Node}

theorem textsOnly_mapText_iff (f : String → String) (node : Node) :
    node.toValue.TextsOnly f (node.mapText f).toValue ↔ node.toValue.Unmixed := by
  rw [← Value.mapText_toValue]
  exact ⟨Value.TextsOnly.unmixed, Value.Unmixed.textsOnly⟩

/-! ## Rewriting to the same texts -/

theorem setEntries_entries (some : node.children ≠ []) : node.setEntries node.entries = node :=
  ext (Fields.insert_of_get? (get?_of_array (array_of_children some)))

theorem mapText_id (h : node.toValue.Unmixed) : node.mapText id = node := by
  induction node using childInduction with
  | step node ih =>
      have own : node.mapValue id = node := mapValue_of_fixed fun _ _ => rfl
      by_cases childless : node.children = []
      · rw [mapText_of_childless childless, own]
      · have all := h.root.resolve_left childless
        have below : node.children.map (mapText id) = node.children := by
          refine (List.map_congr_left fun child hchild => ih child hchild ?_).trans (List.map_id _)
          have inside : child.toValue ∈ node.entries :=
            map_toValue_children all ▸ List.mem_map_of_mem hchild
          obtain ⟨i, own⟩ := List.mem_iff_getElem?.1 inside
          exact h.entry own
        rw [mapText_of_children childless, below, own, setChildren,
          map_toValue_children all, setEntries_entries childless]

theorem mapText_eq_self_iff (node : Node) : node.mapText id = node ↔ node.toValue.Unmixed := by
  constructor
  · intro same
    rw [← textsOnly_mapText_iff id, same]
    exact Value.textsOnly_id _
  · exact mapText_id

/-! ## Along the children that are nodes -/

/-- The node at the end of a path of positions, counted among nodes only. -/
def descend? : Node → List Nat → Option Node
  | node, [] => some node
  | node, i :: path => node.children[i]?.bind (·.descend? path)

theorem descend?_mapText (path : List Nat) :
    (node.mapText f).descend? path = (node.descend? path).map (mapText f) := by
  induction path generalizing node with
  | nil => rfl
  | cons i path ih =>
      rw [descend?, descend?, children_mapText, List.getElem?_map]
      cases node.children[i]? with
      | none => rfl
      | some child => exact ih

end Node

/--
Rewriting the texts changes nothing else in a tree, and the identity nothing at
all, exactly if no node in it has both nodes and others among the entries of its
`children`.  In every tree the nodes and their own fields stay, and of the other
entries those stay that have no node beside them.
-/
theorem texts_only_iff (f : String → String) (node : Node) :
    (node.toValue.TextsOnly f (node.mapText f).toValue ↔ node.toValue.Unmixed) ∧
    (node.mapText id = node ↔ node.toValue.Unmixed) ∧
    ∀ path, Option.Rel (fun inner inner' =>
        inner.Retexted f inner' ∧
        inner'.entries.filter (fun entry => !Node.isNode entry) =
          if inner.children = [] then inner.entries else [])
      (node.descend? path) ((node.mapText f).descend? path) := by
  refine ⟨node.textsOnly_mapText_iff f, node.mapText_eq_self_iff, ?_⟩
  intro path
  rw [Node.descend?_mapText]
  cases node.descend? path with
  | none => exact .none
  | some inner => exact .some ⟨inner.retexted_mapText f, inner.filter_entries_mapText f⟩

namespace Mixed

/-- A text with a note beside it that is no node. -/
def tree : Node := Node.root.setEntries [.string "note", (Node.text "a").toValue]

theorem not_unmixed : ¬ tree.toValue.Unmixed := by
  intro unmixed
  rcases unmixed.root with none | all
  · exact absurd none (by decide)
  · exact absurd all (by decide)

end Mixed

/-- The text is rewritten, and the note is gone. -/
theorem note_beside_text_lost :
    (Mixed.tree.mapText Text.upper).entries = [(Node.text "A").toValue] ∧
    ¬ Mixed.tree.toValue.TextsOnly Text.upper (Mixed.tree.mapText Text.upper).toValue ∧
    Mixed.tree.mapText id ≠ Mixed.tree := by
  have child : Mixed.tree.children = [Node.text "a"] := by decide
  refine ⟨?_, ?_, ?_⟩
  · rw [Node.entries_mapText _ (by decide), child, List.map_singleton, List.map_singleton,
      Node.mapText_of_childless (by decide)]
    decide
  · exact mt (Node.textsOnly_mapText_iff _ _).1 Mixed.not_unmixed
  · exact mt (Node.mapText_eq_self_iff _).1 Mixed.not_unmixed

end DocPipeline
