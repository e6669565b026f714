import DocPipeline.TextTree
import Mathlib.Data.String.Basic

/-!
# Traversals of text trees

Reading the texts of a tree stops at a text node, and rewriting them goes on
below it.  The children that a rewritten tree has are still the rewritten
children, so what is read is what was read before, rewritten.
-/

namespace DocPipeline

theorem Fields.insert_comm (fields : Object) {k j : String} (h : k ≠ j) (v w : Value) :
    (fields.insert k v).insert j w = (fields.insert j w).insert k v := by
  refine ext_get? fun i => ?_
  simp only [get?_insert]
  split_ifs with hj hk
  · exact absurd (hk.symm.trans hj) h
  · rfl
  · rfl
  · rfl

theorem Fields.insert_of_get? {fields : Object} {k : String} {v : Value}
    (h : fields.get? k = some v) : fields.insert k v = fields := by
  refine ext_get? fun j => ?_
  rw [get?_insert]
  split_ifs with here
  · rw [here, h]
  · rfl

namespace Node

variable (f g : String → String) (node : Node)

/-! ## The text of a node itself -/

/-- What a rewriting of texts rewrites here. -/
def ownText? : Option String := if node.isText then node.value? else none

variable {node} {value : String}

theorem ownText?_of_text (text : node.isText = true) : node.ownText? = node.value? :=
  if_pos text

theorem mapValue_of_none (own : node.ownText? = none) : node.mapValue f = node := by
  unfold ownText? at own
  unfold mapValue
  split
  · next text => rw [← ownText?_of_text text, ownText?, own]
  · rfl

theorem mapValue_of_some (own : node.ownText? = some value) :
    node.mapValue f = node.insert "value" (.string (f value)) (by decide) := by
  unfold ownText? at own
  split at own
  · next text => rw [mapValue, if_pos text, own, ← set_of_ne]
  · cases own

theorem get?_of_ownText? (own : node.ownText? = some value) :
    node.get? "value" = some (.string value) := by
  rw [ownText?, Option.ite_none_right_eq_some, value?, Option.bind_eq_some_iff] at own
  obtain ⟨-, v, found, string⟩ := own
  cases v <;> simp_all [Value.string?]

theorem mapValue_of_fixed {f : String → String} (fixed : ∀ value ∈ node.ownText?, f value = value) :
    node.mapValue f = node := by
  cases own : node.ownText? with
  | none => exact mapValue_of_none f own
  | some value =>
      rw [mapValue_of_some f own, fixed value own]
      exact ext (Fields.insert_of_get? (get?_of_ownText? own))

variable (node)

theorem get?_mapValue (key : String) :
    (node.mapValue f).get? key =
      if key = "value" then (node.ownText?.map (.string ∘ f)).or (node.get? key)
      else node.get? key := by
  cases own : node.ownText? with
  | none => simp [mapValue_of_none f own]
  | some value =>
      rw [mapValue_of_some f own]
      exact Fields.get?_insert ..

theorem get?_mapValue_of_ne {key : String} (h : key ≠ "value") :
    (node.mapValue f).get? key = node.get? key := by
  rw [get?_mapValue, if_neg h]

theorem kind_mapValue : (node.mapValue f).kind = node.kind := by
  rw [kind, get?_mapValue_of_ne f node (by decide)]
  rfl

theorem isText_mapValue : (node.mapValue f).isText = node.isText := by
  rw [isText, kind_mapValue, isText]

theorem children_mapValue : (node.mapValue f).children = node.children := by
  rw [children, entries, get?_mapValue_of_ne f node (by decide)]
  rfl

theorem ownText?_mapValue : (node.mapValue f).ownText? = node.ownText?.map f := by
  cases own : node.ownText? with
  | none => rw [mapValue_of_none f own, own, Option.map_none]
  | some value =>
      have text : node.isText = true := by
        by_contra other
        simp [ownText?, other] at own
      rw [ownText?, isText_mapValue, if_pos text, value?, get?_mapValue, own]
      rfl

theorem mapValue_mapValue : (node.mapValue f).mapValue g = node.mapValue (g ∘ f) := by
  have once := ownText?_mapValue f node
  cases own : node.ownText? with
  | none =>
      rw [own, Option.map_none] at once
      rw [mapValue_of_none g once, mapValue_of_none f own, mapValue_of_none _ own]
  | some value =>
      rw [own, Option.map_some] at once
      rw [mapValue_of_some g once, mapValue_of_some f own, mapValue_of_some _ own]
      exact ext (Fields.insert_insert_self ..)

theorem ownText?_setEntries (items : List Value) :
    (node.setEntries items).ownText? = node.ownText? := by
  have value : (node.setEntries items).value? = node.value? := by
    rw [value?, get?_setEntries, if_neg (by decide), value?]
  rw [ownText?, ownText?, isText, kind_setEntries, isText, value]

theorem mapValue_setEntries (items : List Value) :
    (node.setEntries items).mapValue f = (node.mapValue f).setEntries items := by
  have same := ownText?_setEntries node items
  cases own : node.ownText? with
  | none =>
      rw [own] at same
      rw [mapValue_of_none f same, mapValue_of_none f own]
  | some value =>
      rw [own] at same
      rw [mapValue_of_some f same, mapValue_of_some f own]
      exact ext (Fields.insert_comm _ (by decide) _ _)

theorem setEntries_setEntries (items more : List Value) :
    (node.setEntries items).setEntries more = node.setEntries more :=
  ext (Fields.insert_insert_self ..)

/-! ## The children of a rewritten tree -/

theorem children_mapText : (node.mapText f).children = node.children.map (mapText f) := by
  by_cases none : node.children = []
  · rw [mapText_of_childless none, children_mapValue, none]
    rfl
  · rw [mapText_of_children none, children_setChildren]

theorem kind_mapText : (node.mapText f).kind = node.kind := by
  by_cases none : node.children = []
  · rw [mapText_of_childless none, kind_mapValue]
  · rw [mapText_of_children none, setChildren, kind_setEntries, kind_mapValue]

theorem isText_mapText : (node.mapText f).isText = node.isText := by
  rw [isText, kind_mapText, isText]

theorem ownText?_mapText : (node.mapText f).ownText? = node.ownText?.map f := by
  rw [← ownText?_mapValue]
  by_cases none : node.children = []
  · rw [mapText_of_childless none]
  · rw [mapText_of_children none, setChildren, ownText?_setEntries]

theorem mapText_setChildren (children : List Node) :
    (node.setChildren children).mapText f =
      (node.mapValue f).setChildren (children.map (mapText f)) := by
  have own := children_setChildren node children
  by_cases none : children = []
  · rw [mapText_of_childless (own.trans none), none, setChildren, mapValue_setEntries]
    rfl
  · rw [mapText_of_children (own.symm ▸ none), own, setChildren, setChildren, mapValue_setEntries,
      setEntries_setEntries, ← setChildren]

theorem setChildren_setChildren (children more : List Node) :
    (node.setChildren children).setChildren more = node.setChildren more :=
  setEntries_setEntries node _ _

/-! ## Reading and rewriting -/

theorem textValues_mapText : (node.mapText f).textValues = node.textValues.map f := by
  induction node using childInduction with
  | step node ih =>
      cases text : node.isText with
      | true =>
          have text' : (node.mapText f).isText = true := (isText_mapText f node).trans text
          rw [textValues_of_text text', textValues_of_text text, ← ownText?_of_text text',
            ← ownText?_of_text text, ownText?_mapText, Option.toList_map]
      | false =>
          have text' : (node.mapText f).isText = false := (isText_mapText f node).trans text
          rw [textValues_of_not_text text', textValues_of_not_text text, children_mapText,
            List.flatMap_map, List.map_flatMap]
          exact List.flatMap_congr ih

theorem mapText_mapText : (node.mapText f).mapText g = node.mapText (g ∘ f) := by
  induction node using childInduction with
  | step node ih =>
      by_cases none : node.children = []
      · have none' : (node.mapText f).children = [] := by
          rw [children_mapText, none]
          rfl
        rw [mapText_of_childless none', mapText_of_childless none, mapText_of_childless none,
          mapValue_mapValue]
      · have some' : (node.mapText f).children ≠ [] := by
          rw [children_mapText]
          simpa using none
        have below : (node.children.map (mapText f)).map (mapText g) =
            node.children.map (mapText (g ∘ f)) := by
          rw [List.map_map]
          exact List.map_congr_left ih
        rw [mapText_of_children some', children_mapText, below, mapText_of_children none,
          mapText_of_children none, setChildren, setChildren, setChildren, mapValue_setEntries,
          mapValue_mapValue, setEntries_setEntries]

theorem textContent_eq_join : node.textContent = String.join node.textValues := by
  induction node using childInduction with
  | step node ih =>
      cases text : node.isText with
      | true =>
          rw [textContent_of_text text, textValues_of_text text]
          -- a text node without a value has no text in one, and an empty one in the other
          cases node.value? <;> simp
      | false =>
          have below : node.children.map textContent =
              node.children.map fun child => String.join child.textValues :=
            List.map_congr_left ih
          rw [textContent_of_not_text text, textValues_of_not_text text, below]
          induction node.children with
          | nil => rfl
          | cons child children ih => simp [ih]

end Node

/--
Whatever the shape of a tree, its texts are rewritten one by one and in order,
rewriting twice is rewriting once by the composition, and the content of the
tree is its texts, one after the other.
-/
theorem texts_follow_rewriting (f g : String → String) (node : Node) :
    (node.mapText f).textValues = node.textValues.map f ∧
    (node.mapText f).mapText g = node.mapText (g ∘ f) ∧
    node.textContent = String.join node.textValues :=
  ⟨node.textValues_mapText f, node.mapText_mapText f g, node.textContent_eq_join⟩

end DocPipeline
