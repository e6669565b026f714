import DocPipeline.Text.Reader
import DocPipeline.Yaml.Property

/-!
# YAML nodes

The tree that a document writes down, with anchors and aliases left as they
are.  A node that is missing where one could stand is an empty plain scalar.
-/

namespace DocPipeline.Yaml

open Reader

/-- What stands before a node. -/
structure Properties where
  anchor : Option Nat := none
  tag : Option (List UInt8) := none
  deriving DecidableEq, Repr

/-- Anchors and aliases are numbers. -/
inductive Node where
  | alias (anchor : Nat)
  | scalar (properties : Properties) (plain : Bool) (text : String)
  | sequence (properties : Properties) (items : List Node)
  | mapping (properties : Properties) (entries : List (Node × Node))

instance : Inhabited Node := ⟨.alias 0⟩

def Node.empty (properties : Properties) : Node := .scalar properties true ""

/-! ## Numbers for anchors -/

/-- A token whose anchor or alias is a number. -/
inductive Mark where
  | token (t : Token)
  | alias (anchor : Nat)
  | anchor (anchor : Nat)

/--
Numbers anchors by how many names there were before; an alias stands for what
its name was given to last, and must come after that.
-/
def numberAnchors (names : List (String × Nat)) : List Token → Option (List Mark)
  | [] => some []
  | .alias name :: tokens => do
      let anchor ← names.lookup name
      return .alias anchor :: (← numberAnchors names tokens)
  | .anchor name :: tokens => do
      let anchor := (names.map (·.1)).eraseDups.length
      return .anchor anchor :: (← numberAnchors ((name, anchor) :: names) tokens)
  | t :: tokens => do return .token t :: (← numberAnchors names tokens)

/-! ## Shorthands for tags -/

abbrev Shorthands := List (String × List UInt8)

def standardShorthands : Shorthands :=
  [("!", bareTag), ("!!", Text.toUtf8 "tag:yaml.org,2002:")]

/-- The full tag; nothing if its shorthand is unknown. -/
def TagText.expand? (shorthands : Shorthands) (t : TagText) : Option (List UInt8) :=
  if t.handle = "" then some t.suffix else (shorthands.lookup t.handle).map (· ++ t.suffix)

/-! ## Reading nodes -/

abbrev NodeReader (α : Type) := List Mark → Option (α × List Mark)

def expect (expected : List Token) : NodeReader Unit
  | .token t :: marks => if t ∈ expected then some ((), marks) else none
  | _ => none

def isNext (expected : List Token) (marks : List Mark) : Bool := (expect expected marks).isSome

def repeated {α : Type} (read : NodeReader α) (marks : List Mark) : List α × List Mark :=
  manyUpTo read marks.length marks

def anchorBefore : NodeReader Nat
  | .anchor anchor :: marks => some (anchor, marks)
  | _ => none

def tagBefore (shorthands : Shorthands) : NodeReader (List UInt8)
  | .token (.tag text) :: marks => (text.expand? shorthands).map (·, marks)
  | _ => none

/-- An anchor and a tag, in any order, of which each may be missing. -/
def properties (shorthands : Shorthands) (marks : List Mark) : Properties × List Mark :=
  match anchorBefore marks with
  | some (anchor, marks) =>
      match tagBefore shorthands marks with
      | some (tag, marks) => (⟨some anchor, some tag⟩, marks)
      | none => (⟨some anchor, none⟩, marks)
  | none =>
      match tagBefore shorthands marks with
      | some (tag, marks) =>
          match anchorBefore marks with
          | some (anchor, marks) => (⟨some anchor, some tag⟩, marks)
          | none => (⟨none, some tag⟩, marks)
      | none => ({}, marks)

/-- A node unless one of these tokens comes next, and then an empty one. -/
def unlessNext (ending : List Token) (read : NodeReader Node) : NodeReader Node := fun marks =>
  if isNext ending marks then some (.empty {}, marks) else read marks

/-! ## Block collections -/

/-- An item of a block sequence, from its dash. -/
def blockItem (ending : List Token) (read : NodeReader Node) : NodeReader Node := fun marks => do
  let (_, marks) ← expect [.item] marks
  unlessNext (.item :: ending) read marks

def blockMappingEnding : List Token := [.key, .value, .blockEnd]

def blockEntry (read : NodeReader Node) : NodeReader (Node × Node) := fun marks => do
  let (_, marks) ← expect [.key] marks
  let (key, marks) ← unlessNext blockMappingEnding read marks
  match expect [.value] marks with
  | none => return ((key, .empty {}), marks)
  | some (_, marks) =>
      let (value, marks) ← unlessNext blockMappingEnding read marks
      return ((key, value), marks)

def upToEnd {α : Type} (ending : Token) (read : List Mark → List α × List Mark) :
    NodeReader (List α) := fun marks => do
  let (found, marks) := read marks
  let (_, marks) ← expect [ending] marks
  return (found, marks)

/-! ## Flow collections -/

/-- Elements with commas between them, and possibly one at the end. -/
def flowElements {α : Type} (read : NodeReader α) (marks : List Mark) : List α × List Mark :=
  match read marks with
  | none => ([], marks)
  | some (first, marks) =>
      let (others, marks) :=
        repeated (fun marks => do let (_, marks) ← expect [.comma] marks; read marks) marks
      (first :: others, ((expect [.comma] marks).map (·.2)).getD marks)

/-- The value of a flow entry, if a colon comes next. -/
def flowValue (ending : Token) (read : NodeReader Node) : NodeReader Node := fun marks =>
  match expect [.value] marks with
  | none => some (.empty {}, marks)
  | some (_, marks) => unlessNext [.comma, ending] read marks

/-- The key of a pair in a flow sequence; if it is missing, so is the token after it. -/
def pairKey (read : NodeReader Node) : NodeReader Node := fun marks =>
  match expect [.value, .comma, .flowSequenceEnd] marks with
  | some (_, marks) => some (.empty {}, marks)
  | none => read marks

/-- An item of a flow sequence: a node, or a mapping of one entry without braces. -/
def flowItem (read : NodeReader Node) : NodeReader Node := fun marks =>
  match expect [.key] marks with
  | none => read marks
  | some (_, marks) => do
      let (key, marks) ← pairKey read marks
      let (value, marks) ← flowValue .flowSequenceEnd read marks
      return (.mapping {} [(key, value)], marks)

/-- An entry of a flow mapping; a node without a mark before it is a key without value. -/
def flowEntry (read : NodeReader Node) : NodeReader (Node × Node) := fun marks =>
  match expect [.key] marks with
  | none => (read marks).map fun (key, marks) => ((key, .empty {}), marks)
  | some (_, marks) => do
      let (key, marks) ← unlessNext [.value, .comma, .flowMappingEnd] read marks
      let (value, marks) ← flowValue .flowMappingEnd read marks
      return ((key, value), marks)

/-! ## Nodes -/

/-- Where a node stands; there are no block collections within flow collections. -/
inductive Place where
  | flow
  | block
  /-- In a block mapping, where a sequence needs no indentation. -/
  | entry
  deriving DecidableEq

/-- What is there if no node follows the properties: an empty one, if there are any. -/
def emptyNode (p : Properties) (marks : List Mark) : Option (Node × List Mark) :=
  if p = {} then none else some (.empty p, marks)

/-- A node whose collections nest at most `depth` deep. -/
def node (shorthands : Shorthands) : (depth : Nat) → Place → NodeReader Node
  | _, _, .alias anchor :: marks => some (.alias anchor, marks)
  | depth, place, marks =>
      let (p, marks) := properties shorthands marks
      match depth, marks with
      | _, .token (.scalar plain text) :: marks => some (.scalar p plain text, marks)
      | depth + 1, .token .flowSequence :: marks => do
          let item := flowItem (node shorthands depth .flow)
          let (items, marks) ← upToEnd .flowSequenceEnd (flowElements item) marks
          return (.sequence p items, marks)
      | depth + 1, .token .flowMapping :: marks => do
          let entry := flowEntry (node shorthands depth .flow)
          let (entries, marks) ← upToEnd .flowMappingEnd (flowElements entry) marks
          return (.mapping p entries, marks)
      | depth + 1, .token .blockSequence :: marks => do
          let item := blockItem [.blockEnd] (node shorthands depth .block)
          let (items, marks) ← upToEnd .blockEnd (repeated item) marks
          return (.sequence p items, marks)
      | depth + 1, .token .blockMapping :: marks => do
          let entry := blockEntry (node shorthands depth .entry)
          let (entries, marks) ← upToEnd .blockEnd (repeated entry) marks
          return (.mapping p entries, marks)
      | depth + 1, .token .item :: marks =>
          if place = .entry then
            let item := blockItem blockMappingEnding (node shorthands depth .block)
            let (items, marks) := repeated item (.token .item :: marks)
            some (.sequence p items, marks)
          else emptyNode p (.token .item :: marks)
      | _, marks => emptyNode p marks

end DocPipeline.Yaml
