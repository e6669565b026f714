import DocPipeline.Builtin
import DocPipeline.Proofs.Traversals
import DocPipeline.Proofs.Trimming
import DocPipeline.Run

/-!
# Trees with trimmed texts

Trimming a tree leaves nothing to trim in it.  Doing it again changes nothing,
and what the text compiler writes for a paragraph is never empty.
-/

namespace DocPipeline

namespace Text

/-- Neither the first nor the last character is blank. -/
structure Trimmed (s : String) : Prop where
  start : ∀ c ∈ s.toList.head?, isBlank c = false
  stop : ∀ c ∈ s.toList.getLast?, isBlank c = false

theorem not_blank_of_head?_dropWhile {cs : List Char} {c : Char}
    (h : c ∈ (cs.dropWhile isBlank).head?) : isBlank c = false := by
  have first := List.head?_dropWhile_not isBlank cs
  rwa [Option.mem_def.1 h] at first

theorem toList_trim (s : String) : (trim s).toList = trimChars s.toList := String.toList_ofList

theorem trim_trim (s : String) : trim (trim s) = trim s := by
  rw [trim, toList_trim, trimChars_trimChars, trim]

theorem trimmed_trim (s : String) : Trimmed (trim s) where
  start := by
    intro c first
    rw [toList_trim, ← dropWhile_trimChars] at first
    exact not_blank_of_head?_dropWhile first
  stop := by
    intro c last
    rw [toList_trim, trimChars, List.getLast?_reverse] at last
    exact not_blank_of_head?_dropWhile last

end Text

/-! ## Trimming a tree -/

namespace Node

/-- A paragraph is kept unless it is left without text. -/
def keeps (child : Node) : Bool := !child.isParagraph || String.join child.textValues != ""

variable (tree : Node)

theorem trimText_eq :
    tree.trimText = (tree.mapText Text.trim).setChildren
      ((tree.children.map (mapText Text.trim)).filter keeps) := by
  rw [← children_mapText]
  rfl

theorem children_trimText :
    tree.trimText.children = (tree.children.map (mapText Text.trim)).filter keeps := by
  rw [trimText_eq, children_setChildren]

theorem isText_trimText : tree.trimText.isText = tree.isText := by
  rw [trimText_eq, isText, setChildren, kind_setEntries, kind_mapText, isText]

theorem ownText?_trimText : tree.trimText.ownText? = tree.ownText?.map Text.trim := by
  rw [trimText_eq, setChildren, ownText?_setEntries, ownText?_mapText]

theorem textValues_trimText_subset :
    tree.trimText.textValues ⊆ tree.textValues.map Text.trim := by
  intro value hvalue
  cases text : tree.isText with
  | true =>
      have text' := (isText_trimText tree).trans text
      rw [textValues_of_text text', ← ownText?_of_text text', ownText?_trimText,
        ownText?_of_text text, Option.toList_map] at hvalue
      rwa [textValues_of_text text]
  | false =>
      have text' := (isText_trimText tree).trans text
      rw [textValues_of_not_text text', children_trimText] at hvalue
      obtain ⟨child, hchild, inside⟩ := List.mem_flatMap.1 hvalue
      obtain ⟨before, hbefore, rfl⟩ := List.mem_map.1 (List.mem_of_mem_filter hchild)
      rw [textValues_mapText] at inside
      obtain ⟨own, hown, rfl⟩ := List.mem_map.1 inside
      rw [textValues_of_not_text text]
      exact List.mem_map_of_mem (List.mem_flatMap.2 ⟨before, hbefore, hown⟩)

theorem mapText_trim_again : (tree.mapText Text.trim).mapText Text.trim = tree.mapText Text.trim := by
  rw [mapText_mapText]
  exact congrArg tree.mapText (funext Text.trim_trim)

theorem mapValue_trim_again :
    (tree.mapText Text.trim).mapValue Text.trim = tree.mapText Text.trim := by
  refine mapValue_of_fixed fun value own => ?_
  rw [ownText?_mapText] at own
  obtain ⟨before, -, rfl⟩ := Option.map_eq_some_iff.1 own
  exact Text.trim_trim before

theorem trimText_trimText : tree.trimText.trimText = tree.trimText := by
  have again : tree.trimText.children.map (mapText Text.trim) = tree.trimText.children := by
    refine (List.map_congr_left fun child hchild => ?_).trans (List.map_id _)
    rw [children_trimText] at hchild
    obtain ⟨before, -, rfl⟩ := List.mem_map.1 (List.mem_of_mem_filter hchild)
    exact mapText_trim_again before
  -- no text has changed since the paragraphs were kept, so all are kept again
  have kept : tree.trimText.children.filter keeps = tree.trimText.children := by
    rw [children_trimText, List.filter_filter]
    simp
  rw [trimText_eq tree.trimText, again, kept, children_trimText, trimText_eq,
    mapText_setChildren, mapValue_trim_again, setChildren_setChildren]

variable {tree}

theorem textContent_ne_empty {child : Node} (h : child ∈ tree.trimText.children)
    (paragraph : child.isParagraph = true) : child.textContent ≠ "" := by
  rw [children_trimText] at h
  have kept := List.of_mem_filter h
  rw [textContent_eq_join]
  simpa [keeps, paragraph] using kept

end Node

/-! ## Paragraphs with one text -/

namespace Paragraph

theorem mapText_text (f : String → String) (text : String) :
    (Node.text text).mapText f = Node.text (f text) := by
  have own : (Node.text text).ownText? = some text := rfl
  rw [Node.mapText_of_childless rfl, Node.mapValue_of_some f own]
  refine Node.ext ?_
  rw [Node.text, Node.text, Node.set_of_ne _ (by decide), Node.set_of_ne _ (by decide)]
  exact Fields.insert_insert_self ..

theorem mapText_ofText (f : String → String) (text : String) :
    (ofText text).mapText f = ofText (f text) := by
  have made (text : String) : ofText text = (Node.new "paragraph").setChildren [.text text] := rfl
  rw [made, made, Node.mapText_setChildren, Node.mapValue_of_none f rfl, List.map_singleton,
    mapText_text]

theorem textValues_ofText (text : String) : (ofText text).textValues = [text] := by
  have children : (ofText text).children = [.text text] := Node.children_pushChild ..
  rw [Node.textValues_of_not_text rfl, children, List.flatMap_singleton,
    Node.textValues_of_text rfl]
  rfl

theorem keeps_ofText (text : String) : (ofText text).keeps = (text != "") := by
  have paragraph : (ofText text).isParagraph = true := rfl
  simp [Node.keeps, paragraph, textValues_ofText]

/-! ## What is written -/

/-- The nodes that the text compiler writes, with an empty line between any two. -/
def blocks (tree : Node) : List Node := if tree.isText then [tree] else tree.children

theorem contents_eq_map_blocks (tree : Node) :
    contents tree = (blocks tree).map Node.textContent := by
  unfold contents blocks
  split <;> rfl

theorem textContent_ne_empty_of_blocks {tree block : Node} (h : block ∈ blocks tree.trimText)
    (paragraph : block.isParagraph = true) : block.textContent ≠ "" := by
  unfold blocks at h
  split at h
  · next text =>
      obtain rfl := List.mem_singleton.1 h
      simp_all [Node.isText, Node.isParagraph]
  · exact Node.textContent_ne_empty h paragraph

end Paragraph

namespace Builtin

theorem invoke_editTree (index : Nat) (plugin : String) (f : Node → Node)
    (store : Namespace.Handle) (d : Document) (w : World) :
    (Bound.invoke ⟨index, plugin, editTree f⟩ store d w).1 =
      .ready (.ok { d with tree := f d.tree }) :=
  rfl

end Builtin

/--
The trimming transformer leaves a tree that it does not change any more.  No text
in it begins or ends with a blank, no paragraph in it is without text, and so the
text compiler writes no paragraph that is empty.
-/
theorem trimming_settles (tree : Node) :
    let trimmed := tree.trimText
    (∀ index plugin store file w,
      let b : Bound := ⟨index, plugin, Builtin.trim⟩
      (b.invoke store ⟨tree, file⟩ w).1 = .ready (.ok ⟨trimmed, file⟩) ∧
      (b.invoke store ⟨trimmed, file⟩ w).1 = .ready (.ok ⟨trimmed, file⟩)) ∧
    (∀ value ∈ trimmed.textValues, Text.Trimmed value) ∧
    (∀ child ∈ trimmed.children, child.isParagraph = true → child.textContent ≠ "") ∧
    (∀ file, Builtin.textCompiler.compile trimmed file =
      .ok (.text ("\n\n".intercalate ((Paragraph.blocks trimmed).map Node.textContent)))) ∧
    ∀ block ∈ Paragraph.blocks trimmed, block.isParagraph = true → block.textContent ≠ "" := by
  refine ⟨?_, ?_, fun child => Node.textContent_ne_empty, ?_, fun block =>
    Paragraph.textContent_ne_empty_of_blocks⟩
  · intro index plugin store file w
    have again := Builtin.invoke_editTree index plugin Node.trimText store ⟨tree.trimText, file⟩ w
    dsimp only at again
    rw [tree.trimText_trimText] at again
    exact ⟨Builtin.invoke_editTree .., again⟩
  · intro value hvalue
    obtain ⟨before, -, rfl⟩ := List.mem_map.1 (tree.textValues_trimText_subset hvalue)
    exact Text.trimmed_trim before
  · intro file
    rw [← Paragraph.contents_eq_map_blocks]
    rfl

namespace Untrimmed

/-- A paragraph with text and one without, after an entry that is no node. -/
def tree : Node := Node.root.setEntries
  [.null, (Paragraph.ofText " a\u2003").toValue, (Paragraph.ofText "\t").toValue]

theorem children_trimText : tree.trimText.children = [Paragraph.ofText "a"] := by
  have children : tree.children = [Paragraph.ofText " a\u2003", Paragraph.ofText "\t"] := by decide
  have text : Text.trim " a\u2003" = "a" := by decide
  have blank : Text.trim "\t" = "" := by decide
  simp [tree.children_trimText, children, Paragraph.mapText_ofText, text, blank,
    Paragraph.keeps_ofText]

end Untrimmed

theorem untrimmed_tree_settles :
    Paragraph.ofText "a" ∈ Untrimmed.tree.trimText.children ∧
    (Paragraph.ofText "a").textContent ≠ "" ∧
    "a" ∈ Untrimmed.tree.trimText.textValues ∧ Text.Trimmed "a" := by
  obtain ⟨-, values, paragraphs, -, -⟩ := trimming_settles Untrimmed.tree
  have child : Paragraph.ofText "a" ∈ Untrimmed.tree.trimText.children := by
    simp [Untrimmed.children_trimText]
  have value : "a" ∈ Untrimmed.tree.trimText.textValues := by
    rw [Node.textValues_of_not_text (Node.isText_trimText Untrimmed.tree),
      Untrimmed.children_trimText, List.flatMap_singleton, Paragraph.textValues_ofText]
    exact List.mem_singleton_self "a"
  exact ⟨child, paragraphs _ child rfl, value, values _ value⟩

end DocPipeline
