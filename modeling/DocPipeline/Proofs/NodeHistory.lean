import DocPipeline.Node
import Mathlib.Data.List.DropRight
import Mathlib.Data.List.Induction

/-!
# The history of a node

A node is made in one of a few ways, and afterwards its fields are set and its
children are replaced and appended to, in any order.  What is under a key is the
last that was stored there.  Only appending a child looks at what there is: it goes
on with the entries of an array, be they nodes or not, and begins an array in the
place of anything else.
-/

namespace DocPipeline.Node

inductive Origin where
  | new (kind : String)
  | root
  | text (s : String)
  | value (v : Value)

/-- The node made, unless it is to be made from a value that is no node. -/
def Origin.node : Origin → Except Mismatch Node
  | .new kind => .ok (Node.new kind)
  | .root => .ok Node.root
  | .text s => .ok (Node.text s)
  | .value v => ofValue v

/-- The string that makes it a node. -/
def Origin.kind? : Origin → Option String
  | .new kind => some kind
  | .root => some "root"
  | .text _ => some "text"
  | .value v => (v.object?.bind (·.get? "type")).bind Value.string?

/-- Something done to a node. -/
inductive Op where
  | exchange (key : String) (v : Value)
  | set (key : String) (v : Value)
  | pushChild (child : Node)
  | setChildren (children : List Node)

def act (node : Node) : Op → Node
  | .exchange key v => (node.exchange key v).2
  | .set key v => node.set key v
  | .pushChild child => node.pushChild child
  | .setChildren children => node.setChildren children

def run (node : Node) (ops : List Op) : Node := ops.foldl act node

/-! ## What is done to one field -/

/-- What is stored under a key whatever was there before; only strings are under `type`. -/
def Op.stored? (key : String) : Op → Option Value
  | .exchange k v | .set k v =>
      if k = key ∧ (k = "type" → v.isString = true) then some v else none
  | .pushChild _ => none
  | .setChildren children =>
      if key = "children" then some (.array (children.map toValue)) else none

/-- The nodes that are appended to what is under a key. -/
def Op.appended (key : String) : Op → List Node
  | .pushChild child => if key = "children" then [child] else []
  | _ => []

/-- The string stored under `type`. -/
def Op.kind? (op : Op) : Option String := (op.stored? "type").bind Value.string?

/-- The entries of a field that is an array; any other has none. -/
def listed (field : Option Value) : List Value := (field.bind Value.array?).getD []

def extended (field : Option Value) : List Node → Option Value
  | [] => field
  | more => some (.array (listed field ++ more.map toValue))

/-- The last that was stored under a key, or what was there at first. -/
def lastStored (start : Node) (history : List Op) (key : String) : Option Value :=
  (history.filterMap (Op.stored? key)).getLast?.or (start.get? key)

/-- The nodes appended since something was stored last. -/
def appendedSince (history : List Op) (key : String) : List Node :=
  (history.rtakeWhile fun op => (op.stored? key).isNone).flatMap (Op.appended key)

variable {node start : Node} {v : Value} {key : String} {op : Op} {history : List Op}

theorem isString_of_stored? (h : op.stored? "type" = some v) : v.isString = true := by
  cases op with
  | exchange k w | set k w =>
      simp only [Op.stored?, Option.ite_none_right_eq_some, Option.some.injEq] at h
      obtain ⟨⟨type, strings⟩, rfl⟩ := h
      exact strings type
  | pushChild child => cases h
  | setChildren children => simp [Op.stored?] at h

theorem listed_extended (field : Option Value) (more : List Node) :
    listed (extended field more) = listed field ++ more.map toValue := by
  cases more with
  | nil => simp [extended]
  | cons child more => rfl

theorem extended_extended (field : Option Value) (more later : List Node) :
    extended (extended field more) later = extended field (more ++ later) := by
  cases later with
  | nil => rw [List.append_nil, extended]
  | cons child later =>
      rw [extended, listed_extended]
      · cases more <;> simp [extended]
      · simp

theorem ofValue_ok_iff : ofValue v = .ok node ↔ v = node.toValue := by
  constructor
  · intro h
    exact fields_of_ofValue? (congrArg Except.toOption h)
  · rintro rfl
    exact node.ofValue_toValue

/-! ## Single steps -/

theorem exchange_of_not_string (h : v.isString = false) (node : Node) :
    node.exchange "type" v = (none, node) := by
  cases v with
  | string s => cases h
  | _ => rfl

theorem get?_set (node : Node) (k : String) (v : Value) (key : String) :
    (node.set k v).get? key = ((Op.set k v).stored? key).or (node.get? key) := by
  by_cases type : k = "type"
  · subst type
    cases v with
    | string kind =>
        have stored : (node.set "type" (.string kind)).get? key =
            if key = "type" then some (.string kind) else node.get? key := Fields.get?_insert ..
        rw [stored]
        by_cases here : key = "type"
        · simp [Op.stored?, here, Value.isString]
        · simp [Op.stored?, here, Ne.symm here]
    | _ => simp [Op.stored?, set, exchange, Value.isString]
  · rw [set_of_ne node type, get?, insert, Fields.get?_insert]
    by_cases here : key = k
    · simp [Op.stored?, here, type]
    · simp [Op.stored?, here, Ne.symm here, get?]

/-- A field is stored, appended to or left as it is, by what is said of that field alone. -/
theorem get?_act (node : Node) (op : Op) (key : String) :
    (node.act op).get? key =
      extended ((op.stored? key).or (node.get? key)) (op.appended key) := by
  cases op with
  | exchange k v | set k v => exact get?_set node k v key
  | pushChild child =>
      rw [act, pushChild, get?_setEntries]
      by_cases here : key = "children"
      · simp [Op.stored?, Op.appended, here, extended, listed, entries]
      · simp [Op.stored?, Op.appended, here, extended]
  | setChildren children =>
      rw [act, setChildren, get?_setEntries]
      by_cases here : key = "children" <;> simp [Op.stored?, Op.appended, here, extended]

theorem appended_of_stored? (h : op.stored? key = some v) : op.appended key = [] := by
  cases op with
  | pushChild child => cases h
  | _ => rfl

theorem appended_of_ne (h : key ≠ "children") (op : Op) : op.appended key = [] := by
  cases op with
  | pushChild child => exact if_neg h
  | _ => rfl

/-! ## Runs -/

theorem lastStored_concat (start : Node) (history : List Op) (op : Op) (key : String) :
    start.lastStored (history ++ [op]) key =
      (op.stored? key).or (start.lastStored history key) := by
  rw [lastStored, lastStored, List.filterMap_append, List.getLast?_append, ← Option.or_assoc]
  cases h : op.stored? key <;> simp [h]

theorem appendedSince_concat_of_some (h : op.stored? key = some v) (history : List Op) :
    appendedSince (history ++ [op]) key = [] := by
  rw [appendedSince, List.rtakeWhile_concat_neg _ _ _ (by simp [h]), List.flatMap_nil]

theorem appendedSince_concat_of_none (h : op.stored? key = none) (history : List Op) :
    appendedSince (history ++ [op]) key = appendedSince history key ++ op.appended key := by
  rw [appendedSince, List.rtakeWhile_concat_pos _ _ _ (by simp [h]), List.flatMap_append,
    List.flatMap_singleton, appendedSince]

theorem appendedSince_of_ne (h : key ≠ "children") (history : List Op) :
    appendedSince history key = [] :=
  List.flatMap_eq_nil_iff.2 fun op _ => appended_of_ne h op

/-- What is under a key is the last that was stored there and all that was appended since. -/
theorem get?_run (start : Node) (history : List Op) (key : String) :
    (start.run history).get? key =
      extended (start.lastStored history key) (appendedSince history key) := by
  induction history using List.reverseRecOn with
  | nil => simp [run, lastStored, appendedSince, extended]
  | append_singleton history op ih =>
      rw [run, List.foldl_concat, ← run, get?_act, ih, lastStored_concat]
      cases stored : op.stored? key with
      | some v =>
          rw [appendedSince_concat_of_some stored, appended_of_stored? stored,
            Option.some_or, Option.some_or]
      | none =>
          rw [appendedSince_concat_of_none stored, Option.none_or, Option.none_or,
            extended_extended]

theorem children_run (start : Node) (history : List Op) :
    (start.run history).children =
      (listed (start.lastStored history "children")).filterMap ofValue? ++
        appendedSince history "children" := by
  have entries : (start.run history).entries =
      listed (start.lastStored history "children") ++
        (appendedSince history "children").map toValue := by
    rw [← listed_extended, ← get?_run]
    rfl
  rw [children, entries, List.filterMap_append, filterMap_map_toValue]

/-! ## The type -/

theorem stored?_type (op : Op) : op.stored? "type" = op.kind?.map Value.string := by
  rw [Op.kind?]
  cases stored : op.stored? "type" with
  | none => rfl
  | some v =>
      have strings := isString_of_stored? stored
      cases v <;> simp_all [Value.isString, Value.string?]

/-- There is a string under `type` always: the last one stored, or the one of the beginning. -/
theorem get?_type_run {kind : String} (h : start.get? "type" = some (.string kind))
    (history : List Op) : (start.run history).get? "type" =
      some (.string ((history.filterMap Op.kind?).getLast?.getD kind)) := by
  have stored : history.filterMap (Op.stored? "type") =
      (history.filterMap Op.kind?).map Value.string := by
    rw [List.map_filterMap]
    exact List.filterMap_congr fun op _ => stored?_type op
  rw [get?_run, appendedSince_of_ne (by decide), extended, lastStored, stored, h,
    List.getLast?_map]
  cases (history.filterMap Op.kind?).getLast? <;> rfl

theorem Origin.exists_kind {origin : Origin} (made : origin.node = .ok start) :
    ∃ kind, origin.kind? = some kind ∧ start.get? "type" = some (.string kind) := by
  cases origin with
  | value v =>
      obtain rfl := ofValue_ok_iff.1 made
      obtain ⟨kind, typed⟩ := start.typed
      exact ⟨kind, congrArg (·.bind Value.string?) typed, typed⟩
  | _ =>
      cases made
      exact ⟨_, rfl, rfl⟩

/--
However a node is made and whatever is done to it afterwards: there is a string under
its `type`, the last one set or else the one it was made with, and from its value and
no other it is made again.  Under each key is what was stored there last, with what
was appended since; so the children are the nodes among the entries stored last, and
after them those appended since.  One more child comes after all entries, be they
nodes or not, and children that replace the others are all there are then.  A type
that is no string changes nothing.
-/
theorem nodes_keep_shape_and_children {origin : Origin} (made : origin.node = .ok start)
    (history : List Op) :
    let node := start.run history
    (∃ kind, origin.kind? = some kind ∧
      node.get? "type" = some (.string ((history.filterMap Op.kind?).getLast?.getD kind))) ∧
    (∀ v, ofValue v = .ok node ↔ v = node.toValue) ∧
    (∀ key, node.get? key =
      extended (start.lastStored history key) (appendedSince history key)) ∧
    node.children = (listed (start.lastStored history "children")).filterMap ofValue? ++
      appendedSince history "children" ∧
    (∀ child, (node.pushChild child).children = node.children ++ [child] ∧
      (node.pushChild child).get? "children" =
        some (.array (node.entries ++ [child.toValue]))) ∧
    (∀ children, (node.setChildren children).children = children) ∧
    ∀ v, v.isString = false → node.exchange "type" v = (none, node) ∧
      node.set "type" v = node := by
  intro node
  obtain ⟨kind, first, typed⟩ := origin.exists_kind made
  refine ⟨⟨kind, first, get?_type_run typed history⟩, fun v => ofValue_ok_iff,
    get?_run start history, children_run start history, ?_, children_setChildren node, ?_⟩
  · intro child
    refine ⟨children_pushChild node child, ?_⟩
    rw [pushChild, get?_setEntries, if_pos rfl]
  · intro v other
    have refused := exchange_of_not_string other node
    exact ⟨refused, congrArg Prod.snd refused⟩

namespace Noted

/-- A note that is no node, and a text after it. -/
def origin : Origin := .value (.object (.ofList [
  ("type", .string "list"),
  ("children", .array [.string "note", (text "a").toValue])]))

def list : Node := (new "list").set "children" (.array [.string "note", (text "a").toValue])

def ops : List Op := [
  .exchange "type" (.int 3),
  .pushChild (text "b"),
  .set "type" (.string "section")]

end Noted

theorem note_beside_text_kept :
    let node := Noted.list.run Noted.ops
    Noted.origin.node = .ok Noted.list ∧
    node.get? "type" = some (.string "section") ∧
    ofValue node.toValue = .ok node ∧
    node.children = [text "a", text "b"] ∧
    (node.pushChild (text "c")).get? "children" =
      some (.array (.string "note" :: [text "a", text "b", text "c"].map toValue)) ∧
    node.exchange "type" (.int 3) = (none, node) := by
  intro node
  have made : Noted.origin.node = .ok Noted.list := rfl
  obtain ⟨⟨kind, first, type⟩, same, fields, children, pushed, replaced, refused⟩ :=
    nodes_keep_shape_and_children made Noted.ops
  cases first
  exact ⟨made, type, (same _).2 rfl, children, (pushed _).2, (refused _ rfl).1⟩

end DocPipeline.Node
