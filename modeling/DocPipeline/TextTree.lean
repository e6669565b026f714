import DocPipeline.Node
import DocPipeline.Text.Blank
import DocPipeline.Text.Lines

/-!
# Plain-text trees

A document is a `root` of `paragraph` nodes, each with `text` nodes below it.
Blank lines separate paragraphs when a document is parsed, and an empty line
separates them when it is written.  The traversals take any tree: a text node
is a leaf to all of them except `mapText`, which goes on below it.
-/

namespace DocPipeline

def Node.isText (node : Node) : Bool := node.kind == "text"

def Node.isParagraph (node : Node) : Bool := node.kind == "paragraph"

/-! ## Traversals -/

def Node.textValues (node : Node) : List String :=
  if node.isText then node.value?.toList
  else node.children.attach.flatMap fun child => child.1.textValues
termination_by sizeOf node.fields
decreasing_by exact Node.sizeOf_lt_of_mem_children child.2

def Node.textContent (node : Node) : String :=
  if node.isText then node.value?.getD ""
  else String.join (node.children.attach.map fun child => child.1.textContent)
termination_by sizeOf node.fields
decreasing_by exact Node.sizeOf_lt_of_mem_children child.2

theorem Node.textContent_of_text {node : Node} (h : node.isText = true) :
    node.textContent = node.value?.getD "" := by
  rw [textContent, if_pos h]

theorem Node.textContent_of_not_text {node : Node} (h : node.isText = false) :
    node.textContent = String.join (node.children.map textContent) := by
  rw [textContent, h, if_neg Bool.false_ne_true]
  exact congrArg String.join List.attach_map_val

theorem Node.textValues_of_text {node : Node} (h : node.isText = true) :
    node.textValues = node.value?.toList := by
  rw [textValues, if_pos h]

theorem Node.textValues_of_not_text {node : Node} (h : node.isText = false) :
    node.textValues = node.children.flatMap textValues := by
  rw [textValues, h, if_neg Bool.false_ne_true]
  exact congrArg List.flatten List.attach_map_val

/-- Rewrites the value of a text node that has a string for one. -/
def Node.mapValue (f : String → String) (node : Node) : Node :=
  if node.isText then
    match node.value? with
    | some value => node.set "value" (.string (f value))
    | none => node
  else node

/--
Rewrites the value of every text node.  Below a node with at least one child,
entries of `children` that are no nodes are left out.
-/
def Node.mapText (f : String → String) (node : Node) : Node :=
  let mapped := node.mapValue f
  match node.children.attach with
  | [] => mapped
  | children => mapped.setChildren (children.map fun child => child.1.mapText f)
termination_by sizeOf node.fields
decreasing_by exact Node.sizeOf_lt_of_mem_children child.2

theorem Node.mapText_of_childless {node : Node} (h : node.children = []) (f : String → String) :
    node.mapText f = node.mapValue f := by
  have none : node.children.attach = [] := List.attach_eq_nil_iff.2 h
  rw [mapText, none]

theorem Node.mapText_of_children {node : Node} (h : node.children ≠ []) (f : String → String) :
    node.mapText f = (node.mapValue f).setChildren (node.children.map (mapText f)) := by
  rw [mapText]
  split
  · next none => exact absurd (List.attach_eq_nil_iff.1 none) h
  · exact congrArg _ List.attach_map_val

/-- Trims every text value and drops the paragraphs of the tree left without text. -/
def Node.trimText (node : Node) : Node :=
  let trimmed := node.mapText Text.trim
  trimmed.setChildren
    (trimmed.children.filter fun child =>
      !child.isParagraph || String.join child.textValues != "")

/-! ## Paragraphs -/

namespace Paragraph

def ofText (text : String) : Node := (Node.new "paragraph").pushChild (.text text)

theorem textContent_ofText (text : String) : (ofText text).textContent = text := by
  have content : (Node.text text).textContent = text := by
    rw [Node.textContent_of_text rfl]
    rfl
  have children : (ofText text).children = [.text text] :=
    Node.children_pushChild (.new "paragraph") (.text text)
  rw [Node.textContent_of_not_text rfl, children, List.map_singleton, content]
  exact String.empty_append

/-- The maximal runs of lines that are not blank, after the lines collected so far. -/
def runs (current : List (List Char)) : List (List Char) → List (List (List Char))
  | [] => if current.isEmpty then [] else [current]
  | line :: lines =>
      if Text.isBlankLine line then
        if current.isEmpty then runs [] lines else current :: runs [] lines
      else runs (current ++ [line]) lines

def texts (document : List Char) (trim : Bool) : List (List Char) :=
  (runs [] (Text.lines document)).map fun lines =>
    let joined := Text.joinChars ['\n'] lines
    if trim then Text.trimChars joined else joined

def parse (document : String) (trim : Bool) : Node :=
  Node.root.setChildren
    ((texts document.toList trim).map fun text => ofText (String.ofList text))

/-- The texts of the paragraphs of a tree; a text node is one paragraph. -/
def contents (tree : Node) : List String :=
  if tree.isText then [tree.textContent] else tree.children.map Node.textContent

theorem contents_parse (document : String) (trim : Bool) :
    contents (parse document trim) = (texts document.toList trim).map String.ofList := by
  have root : (parse document trim).isText = false := by
    rw [Node.isText, parse, Node.setChildren, Node.kind_setEntries]
    rfl
  rw [contents, root, if_neg Bool.false_ne_true, parse, Node.children_setChildren, List.map_map]
  exact List.map_congr_left fun text _ => textContent_ofText _

def compile (tree : Node) : String := "\n\n".intercalate (contents tree)

def count (tree : Node) : Nat := tree.children.countP Node.isParagraph

end Paragraph

def Node.wordCount (node : Node) : Nat :=
  (node.textValues.map Text.countWords).foldr (· + ·) 0

end DocPipeline
